import RdpExt.DeliveryTermination
import RdpExt.RankedRefinement

set_option autoImplicit false

/-!
# One connect repairs a session

Two machines in any states, with anything in the channels between them: once either side
has connected with an id that the other has not stored, the session gets established. What
counts is not what a side has heard but what it will have heard when its channel is read.
-/
namespace RdpExt.SessionRepair
open ProtocolMessage LogicStates LogicEvents SessionSystem SessionParties DeliveryTermination
open RankedRefinement HandshakeParties
open LogicServer (ServerState)
open LogicClient (ClientState)

/-- How many Hellos of `peer` a side will have heard behind its channel, up to two. -/
def willHear (peer : InstanceId) (h : HandshakeState) (queue : List Message) : ℕ :=
  (queue.foldl after h).heard peer

theorem willHear_le_two (peer : InstanceId) (h : HandshakeState) (queue : List Message) :
    willHear peer h queue ≤ 2 := HandshakeState.heard_le_two _ peer

theorem after_other (h : HandshakeState) {m : Message} (other : token m = none) : after h m = h := by
  cases m with
  | hello m => cases other
  | _ => rfl

theorem heard_after_own (peer : InstanceId) (h : HandshakeState) :
    (after h (MessageFactory.makeHello peer)).heard peer = min 2 (h.heard peer + 1) := by
  change (h.remoteHelloReceived peer).localHelloSent.heard peer = _
  rw [HandshakeState.heard_localHelloSent, HandshakeState.heard_remoteHelloReceived]

theorem heard_after_le (peer : InstanceId) (h : HandshakeState) (m : Message) :
    (after h m).heard peer ≤ min 2 (h.heard peer + answers h m) := by
  have bound := h.heard_le_two peer
  cases m with
  | hello m =>
    by_cases current : m.protocolVersion = PROTOCOL_VERSION
    · have record : after h (.hello m) = (h.remoteHelloReceived m.instanceId).localHelloSent :=
        if_pos current
      have answered : answers h (.hello m) = if h.heard m.instanceId < 2 then 1 else 0 := by
        simp only [answers, current, true_and]
      rw [record, answered, HandshakeState.heard_localHelloSent]
      by_cases same : m.instanceId = peer
      · rw [same, HandshakeState.heard_remoteHelloReceived]
        split_ifs <;> omega
      · rw [HandshakeState.heard_remoteHelloReceived_ne h same]
        exact Nat.zero_le _
    · have record : after h (.hello m) = h.reset := if_neg current
      rw [record, HandshakeState.heard_reset]
      exact Nat.zero_le _
  | _ =>
    change h.heard peer ≤ min 2 (h.heard peer + 0)
    omega

theorem heard_after_present {peer : InstanceId} (h : HandshakeState) {m : Message}
    (present : token m = none ∨ m = MessageFactory.makeHello peer) :
    h.heard peer ≤ (after h m).heard peer := by
  have bound := h.heard_le_two peer
  rcases present with other | rfl
  · rw [after_other h other]
  · rw [heard_after_own]
    omega

/-- What the present instance sends takes nothing away from what will have been heard of it. -/
theorem willHear_present {peer : InstanceId} (h : HandshakeState) {sent : List Message}
    (present : Present peer sent) : h.heard peer ≤ willHear peer h sent := by
  induction sent generalizing h with
  | nil => exact Nat.le_refl _
  | cons m rest ih =>
    have first := heard_after_present h (present m List.mem_cons_self)
    exact first.trans (ih (after h m) fun m hm => present m (List.mem_cons_of_mem _ hm))

theorem willHear_hello {peer : InstanceId} (h : HandshakeState) {sent : List Message}
    (present : Present peer sent) (hello : MessageFactory.makeHello peer ∈ sent) :
    min 2 (h.heard peer + 1) ≤ willHear peer h sent := by
  induction sent generalizing h with
  | nil => cases hello
  | cons m rest ih =>
    have later : Present peer rest := fun m hm => present m (List.mem_cons_of_mem _ hm)
    rcases List.mem_cons.mp hello with here | there
    · have rest := willHear_present (after h m) later
      rw [← here, heard_after_own] at rest
      rw [← here]
      exact rest
    · have first := heard_after_present h (present m List.mem_cons_self)
      have rest := ih (after h m) later there
      change _ ≤ willHear peer (after h m) _
      omega

theorem willHear_append {peer : InstanceId} {n : ℕ} (h : HandshakeState) (queue : List Message)
    {sent : List Message} (present : Present peer sent)
    (hello : 1 ≤ n → MessageFactory.makeHello peer ∈ sent) (once : n ≤ 1) :
    min 2 (willHear peer h queue + n) ≤ willHear peer h (queue ++ sent) := by
  unfold willHear
  rw [List.foldl_append]
  obtain rfl | rfl : n = 0 ∨ n = 1 := by omega
  · have kept := willHear_present (queue.foldl after h) present
    exact (Nat.min_le_right 2 _).trans kept
  · exact willHear_hello (queue.foldl after h) present (hello (Nat.le_refl 1))

theorem answers_le_one (h : HandshakeState) (m : Message) : answers h m ≤ 1 := by
  unfold answers
  split
  · split_ifs <;> omega
  · omega

theorem answered_hello {h : HandshakeState} {message : Message} (answered : 1 ≤ answers h message) :
    ∃ m : HelloMessage, message = .hello m ∧ m.protocolVersion = PROTOCOL_VERSION ∧
      h.heard m.instanceId < 2 := by
  unfold answers at answered
  split at answered
  · split_ifs at answered with current
    · exact ⟨_, rfl, current⟩
    · omega
  · omega

theorem client_answers (s : ClientState) (message : Message)
    (answered : 1 ≤ answers s.handshakeState message) :
    MessageFactory.makeHello s.instanceId ∈
      clientMessages (LogicClient.doStep s (.messageReceived message)).2 := by
  obtain ⟨m, rfl, current, few⟩ := answered_hello answered
  rw [client_hello s current, if_pos few]
  exact List.mem_append_left _ (List.mem_singleton.mpr rfl)

theorem server_answers (s : ServerState) (message : Message)
    (answered : 1 ≤ answers s.handshakeState message) :
    MessageFactory.makeHello s.instanceId ∈
      serverMessages (LogicServer.doStep s (.messageReceived message)).2 := by
  obtain ⟨m, rfl, current, few⟩ := answered_hello answered
  rw [server_hello s current, if_pos few]
  exact List.mem_singleton.mpr rfl

def settles (s : ServerState) (queue : List Message) : ServerState :=
  queue.foldl (fun s m => (LogicServer.doStep s (.messageReceived m)).1) s

theorem settles_quiet {s : ServerState} {sent : List Message} (quiet : ∀ m ∈ sent, token m = none)
    (enabled : s.telemetryEnabled = true) : (settles s sent).telemetryEnabled = true := by
  induction sent generalizing s with
  | nil => exact enabled
  | cons m rest ih =>
    refine ih (fun m hm => quiet m (List.mem_cons_of_mem _ hm)) ?_
    change (LogicServer.doStep s (.messageReceived m)).1.telemetryEnabled = true
    rw [(server_other s (quiet m List.mem_cons_self)).1]
    exact (Bool.or_eq_true _ _).mpr (.inr enabled)

theorem settles_append (s : ServerState) (queue sent : List Message) :
    settles s (queue ++ sent) = settles (settles s queue) sent := List.foldl_append

theorem settles_start (s : ServerState) (queue : List Message) :
    (settles s (queue ++ [MessageFactory.makeTelemetryStart])).telemetryEnabled = true := by
  rw [settles_append]
  rfl

/-- What the server has heard of the client, and the client of the server. -/
def serverHeard (w : System) : ℕ := w.server.handshakeState.heard w.client.instanceId
def clientHeard (w : System) : ℕ := w.client.handshakeState.heard w.server.instanceId

def serverWillHear (w : System) : ℕ :=
  willHear w.client.instanceId w.server.handshakeState w.toServer

def clientWillHear (w : System) : ℕ :=
  willHear w.server.instanceId w.client.handshakeState w.toClient

/-- What either side heard of the other it answered; one of the two spoke unasked; and
    the client asks for telemetry with its second answer. -/
structure Mending (policy : Policy) (w : System) : Prop where
  serverLive : policy.live w.serverUp = true
  clientLive : policy.live w.clientUp = true
  answered : clientHeard w ≤ serverWillHear w
  asked : serverHeard w ≤ clientWillHear w
  opened : min 2 (1 + serverHeard w) ≤ clientWillHear w ∨
    min 2 (1 + clientHeard w) ≤ serverWillHear w
  unasked : clientHeard w = 1 → w.client.telemetryRequested = false
  requested : clientHeard w = 2 → w.client.telemetryRequested = true
  enabled : clientHeard w = 2 → (settles w.server w.toServer).telemetryEnabled = true

/-- The client asks where it has heard the second Hello of its peer, and only there. -/
theorem client_requested {s : ClientState} {peer : InstanceId} (m : Message)
    (unasked : s.handshakeState.heard peer = 1 → s.telemetryRequested = false)
    (requested : s.handshakeState.heard peer = 2 → s.telemetryRequested = true) :
    ((after s.handshakeState m).heard peer = 1 →
        (LogicClient.doStep s (.messageReceived m)).1.telemetryRequested = false) ∧
      ((after s.handshakeState m).heard peer = 2 →
        (LogicClient.doStep s (.messageReceived m)).1.telemetryRequested = true) := by
  cases h : token m with
  | none =>
    rw [(client_other s h).1, after_other _ h]
    exact ⟨unasked, requested⟩
  | some id =>
    cases m with
    | hello m =>
      rw [← client_record]
      change ((LogicClient.handleHelloMessage s m).1.handshakeState.heard peer = 1 →
          (LogicClient.handleHelloMessage s m).1.telemetryRequested = false) ∧
        ((LogicClient.handleHelloMessage s m).1.handshakeState.heard peer = 2 →
          (LogicClient.handleHelloMessage s m).1.telemetryRequested = true)
      by_cases current : m.protocolVersion = PROTOCOL_VERSION
      · rw [LogicClient.handleHelloMessage_current s m current]
        change ((s.handshakeState.remoteHelloReceived m.instanceId).heard peer = 1 →
            decide (1 ≤ s.handshakeState.heard m.instanceId) = false) ∧
          ((s.handshakeState.remoteHelloReceived m.instanceId).heard peer = 2 →
            decide (1 ≤ s.handshakeState.heard m.instanceId) = true)
        by_cases same : m.instanceId = peer
        · rw [same, HandshakeState.heard_remoteHelloReceived, decide_eq_false_iff_not,
            decide_eq_true_iff]
          constructor <;> intro count <;> omega
        · rw [HandshakeState.heard_remoteHelloReceived_ne _ same]
          exact ⟨nofun, nofun⟩
      · rw [LogicClient.handleHelloMessage_other s m current]
        change (s.handshakeState.reset.heard peer = 1 → _) ∧ (s.handshakeState.reset.heard peer = 2 → _)
        rw [HandshakeState.heard_reset]
        exact ⟨nofun, nofun⟩
    | _ => cases h

/-- What it sends there turns the telemetry on, and nothing it sends behind turns it off. -/
theorem client_enables {s : ClientState} {t : ServerState} {peer : InstanceId}
    {queue : List Message} (m : Message)
    (unasked : s.handshakeState.heard peer = 1 → s.telemetryRequested = false)
    (requested : s.handshakeState.heard peer = 2 → s.telemetryRequested = true)
    (enabled : s.handshakeState.heard peer = 2 → (settles t queue).telemetryEnabled = true)
    (both : (after s.handshakeState m).heard peer = 2) :
    (settles t (queue ++ clientMessages
      (LogicClient.doStep s (.messageReceived m)).2)).telemetryEnabled = true := by
  cases h : token m with
  | none =>
    rw [after_other _ h] at both
    rw [settles_append]
    exact settles_quiet (client_other s h).2 (enabled both)
  | some id =>
    cases m with
    | hello m =>
      by_cases current : m.protocolVersion = PROTOCOL_VERSION
      · have record : after s.handshakeState (.hello m) =
            (s.handshakeState.remoteHelloReceived m.instanceId).localHelloSent := if_pos current
        rw [record, HandshakeState.heard_localHelloSent] at both
        by_cases same : m.instanceId = peer
        · rw [same, HandshakeState.heard_remoteHelloReceived] at both
          rw [client_hello s current, same]
          obtain second | later : s.handshakeState.heard peer = 1 ∨
              2 ≤ s.handshakeState.heard peer := by omega
          · rw [if_pos (by omega), if_pos ⟨by omega, unasked second⟩, ← List.append_assoc]
            exact settles_start t _
          · have twice : s.handshakeState.heard peer = 2 := by
              have bound := s.handshakeState.heard_le_two peer
              omega
            have asked := requested twice
            rw [if_neg (by omega), if_neg (by rw [asked]; simp), List.append_nil, List.append_nil]
            exact enabled twice
        · rw [HandshakeState.heard_remoteHelloReceived_ne _ same] at both
          cases both
      · have record : after s.handshakeState (.hello m) = s.handshakeState.reset := if_neg current
        rw [record, HandshakeState.heard_reset] at both
        cases both
    | _ => cases h

inductive Undisturbed (policy : Policy) : System → System → Prop where
  | delivers {w w' : System} (delivery : Delivery policy w w') : Undisturbed policy w w'
  | pingRequest (w : System) (drawn : UInt32) :
      Undisturbed policy w (System.clientStep policy w (.pingRequest drawn))
  | cpuSampleReady (w : System) (sample : CpuSample) :
      Undisturbed policy w (System.serverStep policy w (.cpuSampleReady sample))

section
variable {policy : Policy} {w : System}

theorem Mending.client_takes (h : Mending policy w) {m : Message} {rest : List Message}
    (head : w.toClient = m :: rest) :
    Mending policy (System.clientStep policy { w with toClient := rest } (.messageReceived m)) := by
  have present := client_present w.client m
  have answer := client_answers w.client m
  have once := answers_le_one w.client.handshakeState m
  have told := heard_after_le w.server.instanceId w.client.handshakeState m
  have counted := willHear_append w.server.handshakeState w.toServer present answer once
  have clientHeard' : clientHeard
      (System.clientStep policy { w with toClient := rest } (.messageReceived m)) =
        (after w.client.handshakeState m).heard w.server.instanceId :=
    congrArg (·.heard w.server.instanceId) (client_record w.client m)
  have serverHeard' : serverHeard
      (System.clientStep policy { w with toClient := rest } (.messageReceived m)) =
        serverHeard w :=
    congrArg w.server.handshakeState.heard (client_instanceId_received w.client m)
  have clientWillHear' : clientWillHear
      (System.clientStep policy { w with toClient := rest } (.messageReceived m)) =
        clientWillHear w := by
    unfold clientWillHear willHear
    rw [head]
    exact congrArg (fun h => (rest.foldl after h).heard w.server.instanceId)
      (client_record w.client m)
  have queue : (System.clientStep policy { w with toClient := rest }
      (.messageReceived m)).toServer = w.toServer ++
        clientMessages (LogicClient.doStep w.client (.messageReceived m)).2 :=
    congrArg (w.toServer ++ ·) (carries_live h.serverLive _)
  have serverWillHear' : min 2 (serverWillHear w + answers w.client.handshakeState m) ≤
      serverWillHear
        (System.clientStep policy { w with toClient := rest } (.messageReceived m)) := by
    unfold serverWillHear at counted ⊢
    rw [queue]
    change _ ≤ willHear (LogicClient.doStep w.client (.messageReceived m)).1.instanceId
      w.server.handshakeState _
    rw [client_instanceId_received]
    exact counted
  have asks := client_requested m h.unasked h.requested
  have answered := h.answered
  have asked := h.asked
  have opened := h.opened
  have bound := willHear_le_two w.client.instanceId w.server.handshakeState w.toServer
  change serverWillHear w ≤ 2 at bound
  unfold clientHeard at answered opened
  refine ⟨h.serverLive, h.clientLive, ?_, ?_, ?_, ?_, ?_, ?_⟩
  · omega
  · omega
  · omega
  · rw [clientHeard']
    exact asks.1
  · rw [clientHeard']
    exact asks.2
  · rw [clientHeard', queue]
    exact client_enables m h.unasked h.requested h.enabled

theorem Mending.server_takes (h : Mending policy w) {m : Message} {rest : List Message}
    (head : w.toServer = m :: rest) :
    Mending policy (System.serverStep policy { w with toServer := rest } (.messageReceived m)) := by
  have present := server_present w.server m
  have answer := server_answers w.server m
  have once := answers_le_one w.server.handshakeState m
  have told := heard_after_le w.client.instanceId w.server.handshakeState m
  have counted := willHear_append w.client.handshakeState w.toClient present answer once
  have serverHeard' : serverHeard
      (System.serverStep policy { w with toServer := rest } (.messageReceived m)) =
        (after w.server.handshakeState m).heard w.client.instanceId :=
    congrArg (·.heard w.client.instanceId) (server_record w.server m)
  have clientHeard' : clientHeard
      (System.serverStep policy { w with toServer := rest } (.messageReceived m)) =
        clientHeard w :=
    congrArg w.client.handshakeState.heard (server_instanceId_received w.server m)
  have serverWillHear' : serverWillHear
      (System.serverStep policy { w with toServer := rest } (.messageReceived m)) =
        serverWillHear w := by
    unfold serverWillHear willHear
    rw [head]
    exact congrArg (fun h => (rest.foldl after h).heard w.client.instanceId)
      (server_record w.server m)
  have queue : (System.serverStep policy { w with toServer := rest }
      (.messageReceived m)).toClient = w.toClient ++
        serverMessages (LogicServer.doStep w.server (.messageReceived m)).2 :=
    congrArg (w.toClient ++ ·) (carries_live h.clientLive _)
  have clientWillHear' : min 2 (clientWillHear w + answers w.server.handshakeState m) ≤
      clientWillHear
        (System.serverStep policy { w with toServer := rest } (.messageReceived m)) := by
    unfold clientWillHear at counted ⊢
    rw [queue]
    change _ ≤ willHear (LogicServer.doStep w.server (.messageReceived m)).1.instanceId
      w.client.handshakeState _
    rw [server_instanceId_received]
    exact counted
  have answered := h.answered
  have asked := h.asked
  have opened := h.opened
  have bound := willHear_le_two w.server.instanceId w.client.handshakeState w.toClient
  change clientWillHear w ≤ 2 at bound
  unfold serverHeard at asked opened
  refine ⟨h.serverLive, h.clientLive, ?_, ?_, ?_, ?_, ?_, ?_⟩
  · omega
  · omega
  · omega
  · rw [clientHeard']
    exact h.unasked
  · rw [clientHeard']
    exact h.requested
  · rw [clientHeard']
    intro both
    have enabled := h.enabled both
    rw [head] at enabled
    exact enabled

theorem Mending.client_sends (h : Mending policy w) {sent : List Message}
    (quiet : ∀ m ∈ sent, token m = none) :
    Mending policy { w with toServer := w.toServer ++ sent } := by
  have present : Present w.client.instanceId sent := fun m hm => .inl (quiet m hm)
  have counted := willHear_append (n := 0) w.server.handshakeState w.toServer present
    (fun none => absurd none (Nat.not_succ_le_zero 0)) (Nat.zero_le 1)
  have bound := willHear_le_two w.client.instanceId w.server.handshakeState w.toServer
  have grown : serverWillHear w ≤
      willHear w.client.instanceId w.server.handshakeState (w.toServer ++ sent) := by
    unfold serverWillHear
    omega
  refine ⟨h.serverLive, h.clientLive, h.answered.trans grown, h.asked,
    h.opened.imp_right fun opened => opened.trans grown, h.unasked, h.requested, ?_⟩
  intro both
  change (settles w.server (w.toServer ++ sent)).telemetryEnabled = true
  rw [settles_append]
  exact settles_quiet quiet (h.enabled both)

theorem Mending.server_sends (h : Mending policy w) {sent : List Message}
    (quiet : ∀ m ∈ sent, token m = none) :
    Mending policy { w with toClient := w.toClient ++ sent } := by
  have present : Present w.server.instanceId sent := fun m hm => .inl (quiet m hm)
  have counted := willHear_append (n := 0) w.client.handshakeState w.toClient present
    (fun none => absurd none (Nat.not_succ_le_zero 0)) (Nat.zero_le 1)
  have bound := willHear_le_two w.server.instanceId w.client.handshakeState w.toClient
  have grown : clientWillHear w ≤
      willHear w.server.instanceId w.client.handshakeState (w.toClient ++ sent) := by
    unfold clientWillHear
    omega
  exact ⟨h.serverLive, h.clientLive, h.answered, h.asked.trans grown,
    h.opened.imp_left fun opened => opened.trans grown, h.unasked, h.requested, h.enabled⟩

end

theorem mending_undisturbed {policy : Policy} {w w' : System} (h : Mending policy w)
    (step : Undisturbed policy w w') : Mending policy w' := by
  cases step with
  | delivers delivery =>
    cases delivery with
    | toClient m rest head => exact h.client_takes head
    | toServer m rest head => exact h.server_takes head
  | pingRequest drawn =>
    obtain ⟨same, quiet⟩ := client_ping w.client drawn
    have sends := h.client_sends quiet
    unfold System.clientStep
    rw [same, carries_live h.serverLive]
    exact sends
  | cpuSampleReady sample =>
    obtain ⟨same, quiet⟩ := server_sample w.server sample
    have sends := h.server_sends quiet
    unfold System.serverStep
    rw [same, carries_live h.clientLive]
    exact sends

theorem mending_run {policy : Policy} {w w' : System} (h : Mending policy w)
    (run : Relation.ReflTransGen (Undisturbed policy) w w') : Mending policy w' := by
  induction run with
  | refl => exact h
  | tail _ last ih => exact mending_undisturbed ih last

/-- One side connects, whatever the two machines and their channels are like: the id it
    draws is not the one that the other has stored. -/
inductive Connects (policy : Policy) : System → System → Prop where
  | client (w : System) (drawn : InstanceId)
      (unknown : w.server.handshakeState.remoteInstanceId ≠ some drawn) :
      Connects policy w (System.clientStep policy w (.transportConnected drawn))
  | server (w : System) (drawn : InstanceId)
      (unknown : w.client.handshakeState.remoteInstanceId ≠ some drawn) :
      Connects policy w (System.serverStep policy w (.transportConnected drawn))

theorem willHear_connect (h : HandshakeState) (queue : List Message) (drawn : InstanceId) :
    1 ≤ willHear drawn h (queue ++ [MessageFactory.makeHello drawn]) := by
  have present : Present drawn [MessageFactory.makeHello drawn] := fun m hm =>
    .inr (List.mem_singleton.mp hm)
  have counted := willHear_append h queue present
    (fun _ => List.mem_singleton.mpr rfl) (Nat.le_refl 1)
  omega

theorem mending_connects {policy : Policy} {w w' : System} (connects : Connects policy w w')
    (clientLive : policy.live w.clientUp = true) (serverLive : policy.live w.serverUp = true) :
    Mending policy w' := by
  cases connects with
  | client drawn unknown =>
    have mine : clientHeard (System.clientStep policy w (.transportConnected drawn)) = 0 :=
      w.client.handshakeState.heard_reset w.server.instanceId
    have theirs : serverHeard (System.clientStep policy w (.transportConnected drawn)) = 0 :=
      (w.server.handshakeState.heard_eq_zero_iff drawn).mpr unknown
    have hello : 1 ≤ serverWillHear (System.clientStep policy w (.transportConnected drawn)) := by
      unfold serverWillHear System.clientStep
      rw [carries_live serverLive]
      exact willHear_connect w.server.handshakeState w.toServer drawn
    refine ⟨serverLive, clientLive, ?_, ?_, .inr ?_, ?_, ?_, ?_⟩
    · omega
    · omega
    · omega
    · omega
    · omega
    · omega
  | server drawn unknown =>
    have mine : serverHeard (System.serverStep policy w (.transportConnected drawn)) = 0 :=
      w.server.handshakeState.heard_reset w.client.instanceId
    have theirs : clientHeard (System.serverStep policy w (.transportConnected drawn)) = 0 :=
      (w.client.handshakeState.heard_eq_zero_iff drawn).mpr unknown
    have hello : 1 ≤ clientWillHear (System.serverStep policy w (.transportConnected drawn)) := by
      unfold clientWillHear System.serverStep
      rw [carries_live clientLive]
      exact willHear_connect w.client.handshakeState w.toClient drawn
    refine ⟨serverLive, clientLive, ?_, ?_, .inl ?_, ?_, ?_, ?_⟩
    · omega
    · omega
    · omega
    · omega
    · omega
    · omega

/-- Both handshakes are complete, each with the present instance of the other, and
    telemetry was asked for and is on. -/
structure Established (w : System) : Prop where
  clientCompleted : w.client.handshakeState.isCompleted = true
  serverCompleted : w.server.handshakeState.isCompleted = true
  clientKnows : w.client.handshakeState.remoteInstanceId = some w.server.instanceId
  serverKnows : w.server.handshakeState.remoteInstanceId = some w.client.instanceId
  requested : w.client.telemetryRequested = true
  enabled : w.server.telemetryEnabled = true

theorem Mending.established {policy : Policy} {w : System} (h : Mending policy w)
    (toServer : w.toServer = []) (toClient : w.toClient = []) : Established w := by
  have server : serverWillHear w = serverHeard w := by
    unfold serverWillHear
    rw [toServer]
    rfl
  have client : clientWillHear w = clientHeard w := by
    unfold clientWillHear
    rw [toClient]
    rfl
  have serverBound := w.server.handshakeState.heard_le_two w.client.instanceId
  have clientBound := w.client.handshakeState.heard_le_two w.server.instanceId
  change serverHeard w ≤ 2 at serverBound
  change clientHeard w ≤ 2 at clientBound
  have answered := h.answered
  have asked := h.asked
  have opened := h.opened
  have serverTwice : serverHeard w = 2 := by omega
  have clientTwice : clientHeard w = 2 := by omega
  obtain ⟨serverKnows, serverCompleted⟩ := (HandshakeState.heard_eq_two_iff _ _).mp serverTwice
  obtain ⟨clientKnows, clientCompleted⟩ := (HandshakeState.heard_eq_two_iff _ _).mp clientTwice
  have enabled := h.enabled clientTwice
  rw [toServer] at enabled
  exact ⟨clientCompleted, serverCompleted, clientKnows, serverKnows, h.requested clientTwice, enabled⟩

theorem settled_quiet {policy : Policy} {w : System} (settled : Settled (Delivery policy) w) :
    w.toServer = [] ∧ w.toClient = [] := by
  constructor
  · cases queue : w.toServer with
    | nil => rfl
    | cons m rest => exact absurd (.toServer w m rest queue) (settled _)
  · cases queue : w.toClient with
    | nil => rfl
    | cons m rest => exact absurd (.toClient w m rest queue) (settled _)

theorem delivery_falls (policy : Policy) :
    Falls (Delivery policy) (fun w (_ : Unit) => Mending policy w) (fun w _ => potential w) := by
  intro w w' b mending delivery
  exact ⟨b, mending_undisturbed mending (.delivers delivery), potential_decreases delivery⟩

/-- From any states and any channel contents, one connect of either side is enough: whatever
    samples and pings come between, the deliveries behind it come to an end, and there
    the session is established on both sides. -/
theorem one_connect_repairs {policy : Policy} {w w₁ w₂ : System}
    (clientLive : policy.live w.clientUp = true) (serverLive : policy.live w.serverUp = true)
    (connects : Connects policy w w₁) (run : Relation.ReflTransGen (Undisturbed policy) w₁ w₂) :
    (∀ deliveries : ℕ → System, deliveries 0 = w₂ → ∀ n,
      (∀ i < n, Delivery policy (deliveries i) (deliveries (i + 1))) → n ≤ potential w₂) ∧
    (∃ w₃, Relation.ReflTransGen (Delivery policy) w₂ w₃ ∧ Settled (Delivery policy) w₃) ∧
    ∀ w₃, Relation.ReflTransGen (Delivery policy) w₂ w₃ → Settled (Delivery policy) w₃ →
      Established w₃ := by
  have mending := mending_run (mending_connects connects clientLive serverLive) run
  refine ⟨?_, (delivery_falls policy).settles (b := ()) mending, ?_⟩
  · rintro deliveries rfl n steps
    have bounded := deliveries_bounded deliveries n steps
    omega
  · intro w₃ rest settled
    have kept := mending_run mending
      (Relation.ReflTransGen.mono (fun _ _ => Undisturbed.delivers) _ _ rest)
    obtain ⟨toServer, toClient⟩ := settled_quiet settled
    exact kept.established toServer toClient

/-- A client that takes an old instance for its peer, a server that takes itself to be done,
    and in front of either a Hello of another version and one of a stranger. -/
def spoiled : System where
  client := { instanceId := ⟨1, 1⟩, telemetryRequested := true
              handshakeState := ⟨some ⟨7, 7⟩, true, true⟩ }
  server := { instanceId := ⟨2, 2⟩, handshakeState := ⟨some ⟨8, 8⟩, false, true⟩ }
  toServer := [.hello ⟨PROTOCOL_VERSION + 1, ⟨1, 1⟩⟩, MessageFactory.makeHello ⟨9, 9⟩]
  toClient := [.hello ⟨PROTOCOL_VERSION + 1, ⟨3, 3⟩⟩, MessageFactory.makeHello ⟨9, 9⟩]

theorem one_connect_repairs_spoiled :
    ∃ w, Relation.ReflTransGen (Delivery .lossy)
      (System.serverStep .lossy spoiled (.transportConnected ⟨3, 3⟩)) w ∧ Established w := by
  have connects : Connects .lossy spoiled _ := .server spoiled ⟨3, 3⟩ (by decide)
  obtain ⟨_, ⟨w, run, settled⟩, established⟩ := one_connect_repairs rfl rfl connects .refl
  exact ⟨w, run, established w run settled⟩

end RdpExt.SessionRepair
