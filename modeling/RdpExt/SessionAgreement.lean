import RdpExt.SessionConvergence

set_option autoImplicit false

/-!
# What a completed handshake says about the peer

Channels that belong to one connection: each transport event empties them. Then a
handshake is complete on one side only after the other has heard that side, and
the server never sees a request for telemetry before its own is complete.
-/
namespace RdpExt.SessionAgreement
open ProtocolMessage LogicStates LogicEvents SessionSystem HandshakeParties HandshakeBalance
open SessionParties SessionConvergence
open LogicClient (ClientState)

/-- Both directions of `Exclusive`. -/
def Prompted (w : System) : Prop :=
  Exclusive (clientParty w) (serverParty w) ∧ Exclusive (serverParty w) (clientParty w)

theorem prompted_start : Prompted {} := by
  have exclusive : ∀ X Y : Party, X.up = false → Y.inbox = [] →
      X.handshake.isCompleted = false → Exclusive X Y := by
    intro X Y down empty idle
    refine ⟨?_, fun up => ?_, fun _ => idle⟩
    · intro t ht
      rw [empty] at ht
      cases ht
    · rw [down] at up
      cases up
  exact ⟨exclusive _ _ rfl rfl rfl, exclusive _ _ rfl rfl rfl⟩

theorem prompted_step {w w' : System} (linked : Linked .perConnection w) (h : Prompted w)
    (step : Step .perConnection w w') : Prompted w' := by
  obtain act | act := step_acts linked.versioned step
  · exact exclusive_acts act linked.toServer linked.toClient h.1 h.2
  · exact (exclusive_acts act linked.toClient linked.toServer h.2 h.1).symm

/-- Every TelemetryStart of the queue will find both Hellos of `id` heard. -/
def Guarded (id : InstanceId) : HandshakeState → List Message → Prop
  | _, [] => True
  | h, m :: rest => (isStart m = true → h.heard id = 2) ∧ Guarded id (after h m) rest

theorem guarded_append (id : InstanceId) (h : HandshakeState) (xs ys : List Message) :
    Guarded id h (xs ++ ys) ↔ Guarded id h xs ∧ Guarded id (xs.foldl after h) ys := by
  induction xs generalizing h with
  | nil => simp [Guarded]
  | cons m rest ih =>
    simp only [List.cons_append, List.foldl_cons, Guarded]
    rw [ih (after h m), and_assoc]

theorem guarded_quiet (id : InstanceId) (h : HandshakeState) {queue : List Message}
    (quiet : ∀ m ∈ queue, isStart m = false) : Guarded id h queue := by
  induction queue generalizing h with
  | nil => trivial
  | cons m rest ih =>
    refine ⟨fun start => ?_, ih _ fun m hm => quiet m (List.mem_cons_of_mem _ hm)⟩
    rw [quiet m List.mem_cons_self] at start
    cases start

/-- Hellos of one id only: the record counts them. -/
theorem heard_foldl_after (id : InstanceId) (h : HandshakeState) {queue : List Message}
    (versioned : CurrentVersion queue)
    (pure : ∀ t ∈ queue.map token, ∀ other, t = some other → other = id) :
    (queue.foldl after h).heard id = min 2 (h.heard id + (queue.map token).count (some id)) := by
  induction queue generalizing h with
  | nil =>
    have bound := h.heard_le_two id
    change h.heard id = min 2 (h.heard id + 0)
    omega
  | cons m rest ih =>
    have tail := ih (after h m) (versioned.subset fun _ => List.mem_cons_of_mem _)
      fun t ht => pure t (List.mem_cons_of_mem _ ht)
    rw [List.foldl_cons, tail, List.map_cons, List.count_cons]
    cases m with
    | hello m =>
      have own : m.instanceId = id := pure (some m.instanceId) List.mem_cons_self _ rfl
      rw [after, if_pos (versioned m List.mem_cons_self)]
      simp only [own, token, HandshakeState.heard_localHelloSent,
        HandshakeState.heard_remoteHelloReceived, BEq.rfl, ↓reduceIte]
      omega
    | _ => rfl

/-- Only a Hello makes the client ask for telemetry. -/
theorem client_other_start (s : ClientState) {message : Message} (other : token message = none) :
    ∀ m ∈ clientMessages (LogicClient.doStep s (.messageReceived message)).2,
      isStart m = false := by
  cases message with
  | hello m => cases other
  | error m | cpuSample m | pong m => exact fun m hm => by cases hm
  | capabilitySet m | telemetryStart m | ping m =>
    exact fun m hm => by rw [List.mem_singleton.mp hm]; rfl

theorem client_ping_start (s : ClientState) (drawn : UInt32) :
    ∀ m ∈ clientMessages (LogicClient.doStep s (.pingRequest drawn)).2, isStart m = false := by
  simp only [LogicClient.doStep, LogicClient.handlePingRequest]
  split_ifs
  · exact fun m hm => by cases hm
  · exact fun m hm => by rw [List.mem_singleton.mp hm]; rfl

/-- What the client says to a Hello of the present server is guarded: with the
    request goes the second Hello the server still has to hear. -/
theorem guarded_answer {w : System} {m : HelloMessage} (h : HandshakeState)
    (current : m.protocolVersion = PROTOCOL_VERSION) (requested : Requested w)
    (heard : min 2 (w.client.handshakeState.heard m.instanceId) ≤ h.heard w.client.instanceId) :
    Guarded w.client.instanceId h
      (clientMessages (LogicClient.doStep w.client (.messageReceived (.hello m))).2) := by
  rw [client_hello w.client current]
  have bound := w.client.handshakeState.heard_le_two m.instanceId
  by_cases asks : 1 ≤ w.client.handshakeState.heard m.instanceId ∧
      w.client.telemetryRequested = false
  · have once : w.client.handshakeState.heard m.instanceId < 2 := by
      by_contra twice
      have completed := ((w.client.handshakeState.heard_eq_two_iff m.instanceId).mp
        (by omega)).2
      have asked := asks.2
      rw [requested] at asked
      exact absurd completed (by simpa [HandshakeState.isCompleted] using asked)
    rw [if_pos once, if_pos asks]
    refine ⟨fun start => (by cases start), fun _ => ?_, trivial⟩
    change (h.remoteHelloReceived w.client.instanceId).heard w.client.instanceId = 2
    rw [HandshakeState.heard_remoteHelloReceived]
    omega
  · rw [if_neg asks, List.append_nil]
    apply guarded_quiet
    intro sent hsent
    split_ifs at hsent
    · rw [List.mem_singleton.mp hsent]
      rfl
    · cases hsent

/-- The requests under way to the server, and the one in force. -/
structure Covered (w : System) : Prop where
  underway : Guarded w.client.instanceId w.server.handshakeState w.toServer
  inForce : w.server.telemetryEnabled = true → w.server.handshakeState.isCompleted = true

theorem guarded_sent {w : System} {sent : List Message}
    (h : Guarded w.client.instanceId w.server.handshakeState w.toServer)
    (new : w.serverUp = true → Guarded w.client.instanceId
      (w.toServer.foldl after w.server.handshakeState) sent) :
    Guarded w.client.instanceId w.server.handshakeState
      (w.toServer ++ Policy.carries .perConnection w.serverUp sent) := by
  rw [guarded_append]
  refine ⟨h, ?_⟩
  cases up : w.serverUp with
  | true => exact new up
  | false => trivial

theorem guarded_received {s : LogicServer.ServerState} {id : InstanceId} {m : Message}
    {rest : List Message} (h : Guarded id s.handshakeState (m :: rest)) :
    Guarded id (LogicServer.doStep s (.messageReceived m)).1.handshakeState rest := by
  rw [server_record]
  exact h.2

theorem enabled_received {s : LogicServer.ServerState} {id : InstanceId} {m : Message}
    {rest : List Message} (versioned : CurrentVersion (m :: rest))
    (h : Guarded id s.handshakeState (m :: rest))
    (inForce : s.telemetryEnabled = true → s.handshakeState.isCompleted = true) :
    (LogicServer.doStep s (.messageReceived m)).1.telemetryEnabled = true →
      (LogicServer.doStep s (.messageReceived m)).1.handshakeState.isCompleted = true := by
  cases m with
  | hello m =>
    change (LogicServer.handleHelloMessage s m).1.telemetryEnabled = true →
      (LogicServer.handleHelloMessage s m).1.handshakeState.isCompleted = true
    rw [LogicServer.handleHelloMessage_current s m (versioned m List.mem_cons_self)]
    simp only [Bool.and_eq_true, decide_eq_true_eq, HandshakeState.isCompleted_localHelloSent]
    intro enabled
    exact (s.handshakeState.isCompleted_remoteHelloReceived m.instanceId).mpr enabled.2
  | telemetryStart m =>
    intro _
    exact ((s.handshakeState.heard_eq_two_iff id).mp (h.1 rfl)).2
  | _ => exact inForce

theorem covered_step {w w' : System} (linked : Linked .perConnection w) (balanced : Balanced w)
    (requested : Requested w) (prompted : Prompted w) (h : Covered w)
    (step : Step .perConnection w w') : Covered w' := by
  cases step with
  | clientConnected drawn toServer toClient _ _ server client =>
    obtain rfl : toServer = [] := server
    refine ⟨guarded_quiet _ _ fun m hm => ?_, h.inForce⟩
    rw [List.mem_singleton.mp (mem_carries hm)]
    rfl
  | clientDisconnected toServer toClient server client =>
    obtain rfl : toServer = [] := server
    exact ⟨guarded_quiet _ _ fun m hm => (by cases mem_carries hm), h.inForce⟩
  | serverConnected drawn toServer toClient _ _ server client =>
    obtain rfl : toServer = [] := server
    exact ⟨trivial, fun enabled => by cases enabled⟩
  | serverDisconnected toServer toClient server client =>
    obtain rfl : toServer = [] := server
    exact ⟨trivial, fun enabled => by cases enabled⟩
  | clientReceives m rest head =>
    refine ⟨?_, h.inForce⟩
    change Guarded (LogicClient.doStep w.client (.messageReceived m)).1.instanceId _ _
    rw [client_instanceId_received]
    apply guarded_sent h.underway
    intro serverUp
    cases m with
    | hello m =>
      have received : Message.hello m ∈ w.toClient := by
        rw [head]
        exact List.mem_cons_self
      have clientUp : w.clientUp = true := by
        apply linked.toServer.live
        simp [clientParty, head]
      have own : m.instanceId = w.server.instanceId :=
        prompted.2.pure (some m.instanceId) (List.mem_map_of_mem received) _ rfl
      have answered := (balanced clientUp serverUp).answered
      change w.client.handshakeState.heard w.server.instanceId ≤
        w.server.handshakeState.heard w.client.instanceId +
          (w.toServer.map token).count (some w.client.instanceId) at answered
      apply guarded_answer _ (linked.versioned.2 m received) requested
      rw [own, heard_foldl_after w.client.instanceId _ linked.versioned.1 prompted.1.pure]
      omega
    | _ => exact guarded_quiet _ _ (client_other_start w.client rfl)
  | serverReceives m rest head =>
    have versioned := linked.versioned.1
    have underway := h.underway
    rw [head] at versioned underway
    exact ⟨guarded_received underway, enabled_received versioned underway h.inForce⟩
  | pingRequest drawn =>
    refine ⟨?_, h.inForce⟩
    change Guarded (LogicClient.doStep w.client (.pingRequest drawn)).1.instanceId _ _
    rw [(client_ping w.client drawn).1]
    exact guarded_sent h.underway fun _ => guarded_quiet _ _ (client_ping_start w.client drawn)
  | cpuSampleReady sample =>
    have same := (server_sample w.server sample).1
    constructor
    · change Guarded w.client.instanceId
        (LogicServer.doStep w.server (.cpuSampleReady sample)).1.handshakeState w.toServer
      rw [same]
      exact h.underway
    · change (LogicServer.doStep w.server (.cpuSampleReady sample)).1.telemetryEnabled = true →
        (LogicServer.doStep w.server (.cpuSampleReady sample)).1.handshakeState.isCompleted = true
      rw [same]
      exact h.inForce

/-- All that a run over connection-scoped channels keeps. -/
structure Agreeing (w : System) : Prop where
  linked : Linked .perConnection w
  balanced : Balanced w
  requested : Requested w
  prompted : Prompted w
  covered : Covered w

theorem reachable_agreeing {w : System} (h : Reachable .perConnection w) : Agreeing w := by
  refine h.invariant ⟨linked_start .perConnection, fun up => (by cases up), rfl, prompted_start,
    trivial, fun enabled => (by cases enabled)⟩ ?_
  intro w w' kept step
  exact ⟨linked_step kept.linked step, balanced_step kept.linked kept.balanced step,
    requested_step kept.linked.versioned kept.requested step,
    prompted_step kept.linked kept.prompted step,
    covered_step kept.linked kept.balanced kept.requested kept.prompted kept.covered step⟩

/-- A side whose handshake with a connected peer is complete has been heard by it. -/
theorem handshake_agreement (w : System) (reachable : Reachable .perConnection w) :
    (w.client.handshakeState.isCompleted = true → w.serverUp = true →
      w.client.handshakeState.remoteInstanceId = some w.server.instanceId →
      w.server.handshakeState.remoteInstanceId = some w.client.instanceId) ∧
    (w.server.handshakeState.isCompleted = true → w.clientUp = true →
      w.server.handshakeState.remoteInstanceId = some w.client.instanceId →
      w.client.handshakeState.remoteInstanceId = some w.server.instanceId) := by
  obtain ⟨client, server⟩ := (reachable_agreeing reachable).prompted
  constructor
  · intro completed serverUp stored
    exact client.agreement server completed stored serverUp
  · intro completed clientUp stored
    exact server.agreement client completed stored clientUp

theorem handshake_agreement_established :
    (establishedSession .perConnection ⟨1, 1⟩ ⟨2, 2⟩).server.handshakeState.remoteInstanceId =
      some ⟨1, 1⟩ :=
  (handshake_agreement _ (establishedSession_reachable (by decide) (by decide))).1 rfl rfl rfl

/-- The server gets a request for telemetry only with its handshake complete, and
    with the client that asks. -/
theorem telemetry_start_after_handshake (w : System) (reachable : Reachable .perConnection w) :
    (∀ m rest, w.toServer = .telemetryStart m :: rest →
      w.server.handshakeState.isCompleted = true ∧
        w.server.handshakeState.remoteInstanceId = some w.client.instanceId) ∧
    (w.server.telemetryEnabled = true → w.server.handshakeState.isCompleted = true) := by
  have covered := (reachable_agreeing reachable).covered
  refine ⟨?_, covered.inForce⟩
  intro m rest head
  have underway := covered.underway
  rw [head] at underway
  have both := (HandshakeState.heard_eq_two_iff _ _).mp (underway.1 rfl)
  exact ⟨both.2, both.1⟩

theorem telemetry_start_after_handshake_asked :
    (askedSession .perConnection ⟨1, 1⟩ ⟨2, 2⟩).server.handshakeState.isCompleted = true :=
  ((telemetry_start_after_handshake _ (askedSession_reachable (by decide) (by decide))).1
    {} [] rfl).1

end RdpExt.SessionAgreement
