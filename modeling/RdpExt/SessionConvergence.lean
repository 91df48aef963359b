import RdpExt.SessionParties

set_option autoImplicit false

/-!
# Every session completes

Whatever restarts and stale messages came before: once both sides are connected
and nothing is under way, the handshake is complete on both and telemetry is on.
-/
namespace RdpExt.SessionConvergence
open ProtocolMessage LogicStates LogicEvents SessionSystem HandshakeParties HandshakeBalance
open SessionParties

/-- What every run keeps under either policy. -/
structure Linked (policy : Policy) (w : System) : Prop where
  versioned : Versioned w
  toServer : Sends policy (clientParty w) (serverParty w)
  toClient : Sends policy (serverParty w) (clientParty w)

theorem linked_start (policy : Policy) : Linked policy {} := by
  have nothing : ∀ m, Message.hello m ∈ ([] : List Message) → m.protocolVersion = PROTOCOL_VERSION :=
    fun m hm => by cases hm
  have sends : ∀ X Y : Party, X.own = {} → X.up = false → X.inbox = [] → Y.inbox = [] →
      Y.handshake.remoteInstanceId = none → Sends policy X Y := by
    intro X Y own up mine theirs none
    refine ⟨?_, fun h => absurd mine h, ?_, ?_, by rw [theirs]; exact .nil, ?_⟩
    · rw [own, up]
      cases policy with
      | lossy => intro _; simp [Party.ids, Policy.reserved]
      | perConnection => intro h; cases h
    · intro id hid
      rw [theirs] at hid
      cases hid
    · intro id hid
      rw [none] at hid
      cases hid
    · intro hid
      rw [none] at hid
      cases hid
  exact ⟨⟨nothing, nothing⟩, sends _ _ rfl rfl rfl rfl rfl, sends _ _ rfl rfl rfl rfl rfl⟩

theorem linked_step {policy : Policy} {w w' : System} (h : Linked policy w)
    (step : Step policy w w') : Linked policy w' := by
  have versioned := step_versioned h.versioned step
  obtain act | act := step_acts h.versioned step
  · obtain ⟨out, back⟩ := sends_acts act h.toServer h.toClient
    exact ⟨versioned, out, back⟩
  · obtain ⟨out, back⟩ := sends_acts act h.toClient h.toServer
    exact ⟨versioned, back, out⟩

/-- Both sides connected, the counts of `Converging` hold. -/
def Balanced (w : System) : Prop :=
  w.clientUp = true → w.serverUp = true → Converging (clientParty w) (serverParty w)

theorem balanced_step {policy : Policy} {w w' : System} (linked : Linked policy w)
    (h : Balanced w) (step : Step policy w w') : Balanced w' := by
  obtain act | act := step_acts linked.versioned step
  · exact converging_acts act linked.toServer linked.toClient h
  · intro clientUp serverUp
    have mirrored := converging_acts act linked.toClient linked.toServer
      (fun up up' => (h up' up).symm)
    exact (mirrored serverUp clientUp).symm

/-- The client asks for telemetry exactly while its handshake is complete. -/
def Requested (w : System) : Prop :=
  w.client.telemetryRequested = w.client.handshakeState.isCompleted

theorem requested_step {policy : Policy} {w w' : System} (versioned : Versioned w)
    (h : Requested w) (step : Step policy w w') : Requested w' := by
  cases step with
  | clientConnected | clientDisconnected => rfl
  | serverConnected | serverDisconnected | serverReceives | cpuSampleReady => exact h
  | pingRequest drawn =>
    change (LogicClient.doStep w.client (.pingRequest drawn)).1.telemetryRequested = _
    rw [(client_ping w.client drawn).1]
    change _ = (LogicClient.doStep w.client (.pingRequest drawn)).1.handshakeState.isCompleted
    rw [(client_ping w.client drawn).1]
    exact h
  | clientReceives m rest head =>
    cases m with
    | hello m =>
      have current := versioned.2 m (by rw [head]; exact List.mem_cons_self)
      have completed := w.client.handshakeState.isCompleted_remoteHelloReceived m.instanceId
      change (LogicClient.handleHelloMessage w.client m).1.telemetryRequested =
        (LogicClient.handleHelloMessage w.client m).1.handshakeState.isCompleted
      rw [LogicClient.handleHelloMessage_current w.client m current]
      change decide (1 ≤ w.client.handshakeState.heard m.instanceId) =
        (w.client.handshakeState.remoteHelloReceived m.instanceId).isCompleted
      rw [Bool.eq_iff_iff, decide_eq_true_iff, completed]
    | _ => exact h

/-- The client's request is in force, or on its way behind a Hello that will let it
    stay in force. -/
def StartUnderway (w : System) : Prop :=
  (w.server.handshakeState.remoteInstanceId = some w.client.instanceId ∧
      (w.server.telemetryEnabled = true ∨ MessageFactory.makeTelemetryStart ∈ w.toServer)) ∨
    [MessageFactory.makeHello w.client.instanceId, MessageFactory.makeTelemetryStart].Sublist
      w.toServer

/-- Once the client's handshake with the present server is complete, telemetry starts. -/
def Starting (w : System) : Prop :=
  w.clientUp = true → w.serverUp = true → w.client.handshakeState.isCompleted = true →
    w.client.handshakeState.remoteInstanceId = some w.server.instanceId → StartUnderway w

theorem StartUnderway.grown {w w' : System} (h : StartUnderway w) (server : w'.server = w.server)
    (client : w'.client.instanceId = w.client.instanceId) (sent : List Message)
    (toServer : w'.toServer = w.toServer ++ sent) : StartUnderway w' := by
  unfold StartUnderway at h ⊢
  rw [server, client, toServer]
  rcases h with ⟨stored, enabled | queued⟩ | queued
  · exact .inl ⟨stored, .inl enabled⟩
  · exact .inl ⟨stored, .inr (List.mem_append_left _ queued)⟩
  · exact .inr (queued.trans (List.sublist_append_left _ _))

theorem StartUnderway.received {policy : Policy} {w : System} {m : Message} {rest : List Message}
    (h : StartUnderway w) (head : w.toServer = m :: rest) (versioned : CurrentVersion w.toServer)
    (settled : w.server.handshakeState.remoteInstanceId = some w.client.instanceId →
      ∀ t ∈ w.toServer.map token, Current (clientParty w) t) :
    StartUnderway (System.serverStep policy { w with toServer := rest } (.messageReceived m)) := by
  unfold StartUnderway at h
  change ((LogicServer.doStep w.server (.messageReceived m)).1.handshakeState.remoteInstanceId =
      some w.client.instanceId ∧
      ((LogicServer.doStep w.server (.messageReceived m)).1.telemetryEnabled = true ∨
        MessageFactory.makeTelemetryStart ∈ rest)) ∨
    [MessageFactory.makeHello w.client.instanceId, MessageFactory.makeTelemetryStart].Sublist rest
  rw [head] at h
  cases m with
  | hello m =>
    have current := versioned m (by rw [head]; exact List.mem_cons_self)
    have stored' : (LogicServer.doStep w.server
        (.messageReceived (.hello m))).1.handshakeState.remoteInstanceId = some m.instanceId := by
      rw [server_record, after, if_pos current]
      simp
    rcases h with ⟨stored, start⟩ | queued
    · have same : m.instanceId = w.client.instanceId := by
        apply settled stored (some m.instanceId) _ _ rfl
        rw [head]
        exact List.mem_cons_self
      refine .inl ⟨by rw [stored', same], ?_⟩
      rcases start with enabled | queued
      · left
        change (LogicServer.handleHelloMessage w.server m).1.telemetryEnabled = true
        have heard : w.server.handshakeState.heard m.instanceId ≠ 0 := by
          rw [ne_eq, HandshakeState.heard_eq_zero_iff, same, not_not]
          exact stored
        rw [LogicServer.handleHelloMessage_current w.server m current]
        simp only [enabled, Bool.true_and, decide_eq_true_eq]
        omega
      · right
        rcases List.mem_cons.mp queued with first | behind
        · cases first
        · exact behind
    · rcases List.sublist_cons_iff.mp queued with behind | ⟨tail, first, behind⟩
      · exact .inr behind
      · obtain ⟨hello, rfl⟩ := List.cons.inj first
        cases hello
        exact .inl ⟨stored', .inr (List.singleton_sublist.mp behind)⟩
  | telemetryStart m =>
    rcases h with ⟨stored, _⟩ | queued
    · exact .inl ⟨stored, .inl rfl⟩
    · rcases List.sublist_cons_iff.mp queued with behind | ⟨_, first, _⟩
      · exact .inr behind
      · cases (List.cons.inj first).1
  | _ =>
    rcases h with ⟨stored, enabled | queued⟩ | queued
    · exact .inl ⟨stored, .inl enabled⟩
    · rcases List.mem_cons.mp queued with first | behind
      · cases first
      · exact .inl ⟨stored, .inr behind⟩
    · rcases List.sublist_cons_iff.mp queued with behind | ⟨_, first, _⟩
      · exact .inr behind
      · cases (List.cons.inj first).1

theorem starting_step {w w' : System} (linked : Linked .lossy w) (requested : Requested w)
    (h : Starting w) (step : Step .lossy w w') : Starting w' := by
  intro clientUp serverUp completed stored
  cases step with
  | clientConnected | clientDisconnected => cases completed
  | serverConnected drawn toServer toClient unreserved fresh =>
    have known := linked.toClient.stored drawn stored
    exact absurd known (fresh_not_mem unreserved fresh)
  | serverDisconnected => cases serverUp
  | clientReceives m rest head =>
    have same := client_instanceId_received w.client m
    change (LogicClient.doStep w.client (.messageReceived m)).1.handshakeState.isCompleted = true
      at completed
    change (LogicClient.doStep w.client
      (.messageReceived m)).1.handshakeState.remoteInstanceId = some w.server.instanceId at stored
    rw [client_record] at completed stored
    cases m with
    | hello m =>
      have current := linked.versioned.2 m (by rw [head]; exact List.mem_cons_self)
      rw [after, if_pos current] at completed stored
      have heard := (w.client.handshakeState.isCompleted_remoteHelloReceived m.instanceId).mp
        completed
      simp only [HandshakeState.remoteInstanceId_localHelloSent,
        HandshakeState.remoteInstanceId_remoteHelloReceived] at stored
      by_cases twice : w.client.handshakeState.heard m.instanceId = 2
      · -- It was complete before, with the same server.
        have before := (w.client.handshakeState.heard_eq_two_iff m.instanceId).mp twice
        exact (h clientUp serverUp before.2 (before.1.trans stored)).grown rfl same _ rfl
      · -- This Hello completes it: the answer and the request leave together.
        have bound := w.client.handshakeState.heard_le_two m.instanceId
        have once : w.client.handshakeState.heard m.instanceId < 2 := by omega
        have idle : w.client.telemetryRequested = false := by
          rw [requested]
          by_contra complete
          have first : w.client.handshakeState.remoteInstanceId = some m.instanceId := by
            by_contra differs
            have := (w.client.handshakeState.heard_eq_zero_iff m.instanceId).mpr differs
            omega
          apply twice
          rw [HandshakeState.heard_eq_two_iff]
          exact ⟨first, by simpa [HandshakeState.isCompleted] using complete⟩
        right
        change [MessageFactory.makeHello
            (LogicClient.doStep w.client (.messageReceived (.hello m))).1.instanceId,
          MessageFactory.makeTelemetryStart].Sublist (w.toServer ++
            clientMessages (LogicClient.doStep w.client (.messageReceived (.hello m))).2)
        rw [same, client_hello w.client current, if_pos once, if_pos ⟨heard, idle⟩]
        exact List.sublist_append_right _ _
    | _ => exact (h clientUp serverUp completed stored).grown rfl same _ rfl
  | serverReceives m rest head =>
    have stored' : w.client.handshakeState.remoteInstanceId = some w.server.instanceId := by
      rw [← server_instanceId_received w.server m]
      exact stored
    exact (h clientUp serverUp completed stored').received head linked.versioned.1
      linked.toServer.settled
  | pingRequest drawn =>
    have same := (client_ping w.client drawn).1
    change (LogicClient.doStep w.client (.pingRequest drawn)).1.handshakeState.isCompleted = true
      at completed
    change (LogicClient.doStep w.client (.pingRequest drawn)).1.handshakeState.remoteInstanceId = _
      at stored
    rw [same] at completed stored
    refine (h clientUp serverUp completed stored).grown rfl ?_ _ rfl
    change (LogicClient.doStep w.client (.pingRequest drawn)).1.instanceId = _
    rw [same]
  | cpuSampleReady sample =>
    have same := (server_sample w.server sample).1
    change w.client.handshakeState.remoteInstanceId =
      some (LogicServer.doStep w.server (.cpuSampleReady sample)).1.instanceId at stored
    rw [same] at stored
    exact (h clientUp serverUp completed stored).grown same rfl [] (List.append_nil _).symm

/-- All that a run over lossy channels keeps. -/
structure Recovering (w : System) : Prop where
  linked : Linked .lossy w
  balanced : Balanced w
  requested : Requested w
  starting : Starting w

theorem reachable_recovering {w : System} (h : Reachable .lossy w) : Recovering w := by
  refine h.invariant ⟨linked_start .lossy, fun up => (by cases up), rfl, fun up => (by cases up)⟩ ?_
  intro w w' kept step
  exact ⟨linked_step kept.linked step, balanced_step kept.linked kept.balanced step,
    requested_step kept.linked.versioned kept.requested step,
    starting_step kept.linked kept.requested kept.starting step⟩

/-- No run leaves two connected sides half open: with nothing under way the session
    is established on both. -/
theorem handshake_convergence (w : System) (reachable : Reachable .lossy w)
    (clientUp : w.clientUp = true) (serverUp : w.serverUp = true)
    (toServer : w.toServer = []) (toClient : w.toClient = []) :
    w.client.handshakeState.isCompleted = true ∧
      w.server.handshakeState.isCompleted = true ∧
      w.client.handshakeState.remoteInstanceId = some w.server.instanceId ∧
      w.server.handshakeState.remoteInstanceId = some w.client.instanceId ∧
      w.client.telemetryRequested = true ∧
      w.server.telemetryEnabled = true := by
  have kept := reachable_recovering reachable
  have quietClient : (clientParty w).inbox = [] := by simp [clientParty, toClient]
  have quietServer : (serverParty w).inbox = [] := by simp [serverParty, toServer]
  obtain ⟨heardClient, heardServer⟩ :=
    (kept.balanced clientUp serverUp).completed quietClient quietServer
  obtain ⟨storedServer, completedServer⟩ := (HandshakeState.heard_eq_two_iff _ _).mp heardClient
  obtain ⟨storedClient, completedClient⟩ := (HandshakeState.heard_eq_two_iff _ _).mp heardServer
  have enabled : w.server.telemetryEnabled = true := by
    have start := kept.starting clientUp serverUp completedClient storedClient
    unfold StartUnderway at start
    rw [toServer] at start
    rcases start with ⟨_, enabled | queued⟩ | queued
    · exact enabled
    · cases queued
    · cases queued
  exact ⟨completedClient, completedServer, storedClient, storedServer,
    kept.requested.trans completedClient, enabled⟩

theorem handshake_convergence_established :
    (establishedSession .lossy ⟨1, 1⟩ ⟨2, 2⟩).server.telemetryEnabled = true :=
  (handshake_convergence _
    (establishedSession_reachable (by decide) (by decide)) rfl rfl rfl rfl).2.2.2.2.2

end RdpExt.SessionConvergence
