import RdpExt.HandshakeBalance

set_option autoImplicit false

/-!
# The system's steps are actions of the two parties

While every Hello in flight carries the common version, a step of the system is an
action of one party in front of the other.
-/
namespace RdpExt.SessionParties
open ProtocolMessage LogicStates LogicEvents SessionSystem HandshakeParties
open LogicServer (ServerState)
open LogicClient (ClientState)

def token : Message → Token
  | .hello m => some m.instanceId
  | _ => none

def isStart : Message → Bool
  | .telemetryStart _ => true
  | _ => false

def clientParty (w : System) : Party where
  own := w.client.instanceId
  handshake := w.client.handshakeState
  up := w.clientUp
  drawn := w.clientDrawn
  inbox := w.toClient.map token

def serverParty (w : System) : Party where
  own := w.server.instanceId
  handshake := w.server.handshakeState
  up := w.serverUp
  drawn := w.serverDrawn
  inbox := w.toServer.map token

def CurrentVersion (queue : List Message) : Prop :=
  ∀ m, Message.hello m ∈ queue → m.protocolVersion = PROTOCOL_VERSION

def Versioned (w : System) : Prop := CurrentVersion w.toServer ∧ CurrentVersion w.toClient

theorem CurrentVersion.append {xs ys : List Message} (hx : CurrentVersion xs)
    (hy : CurrentVersion ys) : CurrentVersion (xs ++ ys) := by
  intro m hm
  obtain hm | hm := List.mem_append.mp hm
  · exact hx m hm
  · exact hy m hm

theorem CurrentVersion.subset {xs ys : List Message} (hx : CurrentVersion xs)
    (sub : ∀ m ∈ ys, m ∈ xs) : CurrentVersion ys := fun m hm => hx m (sub _ hm)

theorem CurrentVersion.of_quiet {queue : List Message} (h : ∀ m ∈ queue, token m = none) :
    CurrentVersion queue := by
  intro m hm
  cases h _ hm

theorem map_token_quiet {queue : List Message} (h : ∀ m ∈ queue, token m = none) :
    queue.map token = List.replicate queue.length none := by
  refine List.eq_replicate_iff.mpr ⟨List.length_map _, ?_⟩
  intro t ht
  obtain ⟨m, hm, rfl⟩ := List.mem_map.mp ht
  exact h m hm

theorem map_token_answer (answers : Prop) [Decidable answers] (id : InstanceId) :
    (if answers then [MessageFactory.makeHello id] else []).map token =
      if answers then [some id] else [] := by
  split_ifs <;> rfl

/-- A message that is no Hello leaves the client as it was. -/
theorem client_other (s : ClientState) {message : Message} (other : token message = none) :
    (LogicClient.doStep s (.messageReceived message)).1 = s ∧
      ∀ m ∈ clientMessages (LogicClient.doStep s (.messageReceived message)).2, token m = none := by
  cases message with
  | hello m => cases other
  | error m => exact ⟨rfl, fun m hm => by cases hm⟩
  | cpuSample m => exact ⟨rfl, fun m hm => by cases hm⟩
  | pong m => exact ⟨rfl, fun m hm => by cases hm⟩
  | capabilitySet m => exact ⟨rfl, fun m hm => by rw [List.mem_singleton.mp hm]; rfl⟩
  | telemetryStart m => exact ⟨rfl, fun m hm => by rw [List.mem_singleton.mp hm]; rfl⟩
  | ping m => exact ⟨rfl, fun m hm => by rw [List.mem_singleton.mp hm]; rfl⟩

/-- A message that is no Hello touches of the server's state the telemetry flag only. -/
theorem server_other (s : ServerState) {message : Message} (other : token message = none) :
    (LogicServer.doStep s (.messageReceived message)).1 =
        { s with telemetryEnabled := isStart message || s.telemetryEnabled } ∧
      ∀ m ∈ serverMessages (LogicServer.doStep s (.messageReceived message)).2, token m = none := by
  cases message with
  | hello m => cases other
  | error m => exact ⟨rfl, fun m hm => by cases hm⟩
  | capabilitySet m => exact ⟨rfl, fun m hm => by cases hm⟩
  | telemetryStart m => exact ⟨rfl, fun m hm => by cases hm⟩
  | cpuSample m => exact ⟨rfl, fun m hm => by rw [List.mem_singleton.mp hm]; rfl⟩
  | ping m => exact ⟨rfl, fun m hm => by rw [List.mem_singleton.mp hm]; rfl⟩
  | pong m => exact ⟨rfl, fun m hm => by rw [List.mem_singleton.mp hm]; rfl⟩

theorem client_hello (s : ClientState) {m : HelloMessage} (hv : m.protocolVersion = PROTOCOL_VERSION) :
    clientMessages (LogicClient.doStep s (.messageReceived (.hello m))).2 =
      (if s.handshakeState.heard m.instanceId < 2 then [MessageFactory.makeHello s.instanceId]
        else []) ++
      (if 1 ≤ s.handshakeState.heard m.instanceId ∧ s.telemetryRequested = false then
        [MessageFactory.makeTelemetryStart] else []) := by
  change clientMessages (LogicClient.handleHelloMessage s m).2 = _
  rw [LogicClient.handleHelloMessage_current s m hv]
  split_ifs <;> rfl

theorem server_hello (s : ServerState) {m : HelloMessage} (hv : m.protocolVersion = PROTOCOL_VERSION) :
    serverMessages (LogicServer.doStep s (.messageReceived (.hello m))).2 =
      if s.handshakeState.heard m.instanceId < 2 then [MessageFactory.makeHello s.instanceId]
        else [] := by
  change serverMessages (LogicServer.handleHelloMessage s m).2 = _
  rw [LogicServer.handleHelloMessage_current s m hv]
  split_ifs <;> rfl

theorem client_ping (s : ClientState) (drawn : UInt32) :
    (LogicClient.doStep s (.pingRequest drawn)).1 = s ∧
      ∀ m ∈ clientMessages (LogicClient.doStep s (.pingRequest drawn)).2, token m = none := by
  simp only [LogicClient.doStep, LogicClient.handlePingRequest]
  split_ifs
  · exact ⟨rfl, fun m hm => by cases hm⟩
  · exact ⟨rfl, fun m hm => by rw [List.mem_singleton.mp hm]; rfl⟩

theorem server_sample (s : ServerState) (sample : CpuSample) :
    (LogicServer.doStep s (.cpuSampleReady sample)).1 = s ∧
      ∀ m ∈ serverMessages (LogicServer.doStep s (.cpuSampleReady sample)).2, token m = none := by
  simp only [LogicServer.doStep, LogicServer.handleCpuSampleReady]
  split_ifs
  · exact ⟨rfl, fun m hm => by cases hm⟩
  · exact ⟨rfl, fun m hm => by rw [List.mem_singleton.mp hm]; rfl⟩

/-- The handshake record after one more message, on either side. -/
def after (h : HandshakeState) : Message → HandshakeState
  | .hello m =>
    if m.protocolVersion = PROTOCOL_VERSION then
      (h.remoteHelloReceived m.instanceId).localHelloSent
    else h.reset
  | _ => h

theorem client_record (s : ClientState) (message : Message) :
    (LogicClient.doStep s (.messageReceived message)).1.handshakeState =
      after s.handshakeState message := by
  cases message with
  | hello m =>
    change (LogicClient.handleHelloMessage s m).1.handshakeState = _
    by_cases hv : m.protocolVersion = PROTOCOL_VERSION
    · rw [LogicClient.handleHelloMessage_current s m hv, after, if_pos hv]
    · rw [LogicClient.handleHelloMessage_other s m hv, after, if_neg hv]
  | _ => rfl

theorem server_record (s : ServerState) (message : Message) :
    (LogicServer.doStep s (.messageReceived message)).1.handshakeState =
      after s.handshakeState message := by
  cases message with
  | hello m =>
    change (LogicServer.handleHelloMessage s m).1.handshakeState = _
    by_cases hv : m.protocolVersion = PROTOCOL_VERSION
    · rw [LogicServer.handleHelloMessage_current s m hv, after, if_pos hv]
    · rw [LogicServer.handleHelloMessage_other s m hv, after, if_neg hv]
  | _ => rfl

/-- Only a transport event gives a side another instance id. -/
theorem client_instanceId_received (s : ClientState) (message : Message) :
    (LogicClient.doStep s (.messageReceived message)).1.instanceId = s.instanceId := by
  cases message with
  | hello m =>
    change (LogicClient.handleHelloMessage s m).1.instanceId = s.instanceId
    by_cases hv : m.protocolVersion = PROTOCOL_VERSION
    · rw [LogicClient.handleHelloMessage_current s m hv]
    · rw [LogicClient.handleHelloMessage_other s m hv]
  | _ => rfl

theorem server_instanceId_received (s : ServerState) (message : Message) :
    (LogicServer.doStep s (.messageReceived message)).1.instanceId = s.instanceId := by
  cases message with
  | hello m =>
    change (LogicServer.handleHelloMessage s m).1.instanceId = s.instanceId
    by_cases hv : m.protocolVersion = PROTOCOL_VERSION
    · rw [LogicServer.handleHelloMessage_current s m hv]
    · rw [LogicServer.handleHelloMessage_other s m hv]
  | _ => rfl

theorem makeHello_version (id : InstanceId) : CurrentVersion [MessageFactory.makeHello id] := by
  intro m hm
  cases List.mem_singleton.mp hm
  rfl

theorem client_messages_version (s : ClientState) (e : ClientEvent)
    (received : ∀ m, e = .messageReceived (.hello m) → m.protocolVersion = PROTOCOL_VERSION) :
    CurrentVersion (clientMessages (LogicClient.doStep s e).2) := by
  cases e with
  | transportConnected drawn => exact makeHello_version drawn
  | transportDisconnected => exact .of_quiet fun m hm => by cases hm
  | pingRequest drawn => exact .of_quiet (client_ping s drawn).2
  | messageReceived message =>
    cases h : token message with
    | none => exact .of_quiet (client_other s h).2
    | some id =>
      cases message with
      | hello m =>
        rw [client_hello s (received m rfl)]
        apply CurrentVersion.append
        · split_ifs
          · exact makeHello_version _
          · exact .of_quiet fun m hm => by cases hm
        · split_ifs
          · exact .of_quiet fun m hm => by rw [List.mem_singleton.mp hm]; rfl
          · exact .of_quiet fun m hm => by cases hm
      | _ => cases h

theorem server_messages_version (s : ServerState) (e : ServerEvent)
    (received : ∀ m, e = .messageReceived (.hello m) → m.protocolVersion = PROTOCOL_VERSION) :
    CurrentVersion (serverMessages (LogicServer.doStep s e).2) := by
  cases e with
  | transportConnected drawn => exact makeHello_version drawn
  | transportDisconnected => exact .of_quiet fun m hm => by cases hm
  | cpuSampleReady sample => exact .of_quiet (server_sample s sample).2
  | messageReceived message =>
    cases h : token message with
    | none => exact .of_quiet (server_other s h).2
    | some id =>
      cases message with
      | hello m =>
        rw [server_hello s (received m rfl)]
        split_ifs
        · exact makeHello_version _
        · exact .of_quiet fun m hm => by cases hm
      | _ => cases h

theorem map_carries {α β : Type} (policy : Policy) (up : Bool) (f : α → β) (sent : List α) :
    (policy.carries up sent).map f = policy.carries up (sent.map f) := by
  unfold Policy.carries
  split_ifs <;> rfl

theorem clientStep_serverParty (policy : Policy) (w : System) (e : ClientEvent) :
    serverParty (w.clientStep policy e) = (serverParty w).receives policy
      ((clientMessages (LogicClient.doStep w.client e).2).map token) := by
  simp only [System.clientStep, serverParty, Party.receives, List.map_append, map_carries]

theorem serverStep_clientParty (policy : Policy) (w : System) (e : ServerEvent) :
    clientParty (w.serverStep policy e) = (clientParty w).receives policy
      ((serverMessages (LogicServer.doStep w.server e).2).map token) := by
  simp only [System.serverStep, clientParty, Party.receives, List.map_append, map_carries]

theorem keeps_map {policy : Policy} {α β : Type} (f : α → β) {before after : List α}
    (h : policy.Keeps before after) : policy.Keeps (before.map f) (after.map f) := by
  cases policy with
  | lossy => exact List.Sublist.map f h
  | perConnection =>
    change after = [] at h
    rw [h]
    rfl

theorem step_versioned {policy : Policy} {w w' : System} (h : Versioned w)
    (step : Step policy w w') : Versioned w' := by
  obtain ⟨hs, hc⟩ := h
  cases step with
  | clientConnected drawn toServer toClient _ _ server client =>
    refine ⟨CurrentVersion.append (hs.subset (keeps_sublist server).subset) ?_,
      hc.subset (keeps_sublist client).subset⟩
    exact (client_messages_version _ _ (by intro m h; cases h)).subset fun _ => mem_carries
  | clientDisconnected toServer toClient server client =>
    refine ⟨CurrentVersion.append (hs.subset (keeps_sublist server).subset) ?_,
      hc.subset (keeps_sublist client).subset⟩
    exact (client_messages_version _ _ (by intro m h; cases h)).subset fun _ => mem_carries
  | serverConnected drawn toServer toClient _ _ server client =>
    refine ⟨hs.subset (keeps_sublist server).subset,
      CurrentVersion.append (hc.subset (keeps_sublist client).subset) ?_⟩
    exact (server_messages_version _ _ (by intro m h; cases h)).subset fun _ => mem_carries
  | serverDisconnected toServer toClient server client =>
    refine ⟨hs.subset (keeps_sublist server).subset,
      CurrentVersion.append (hc.subset (keeps_sublist client).subset) ?_⟩
    exact (server_messages_version _ _ (by intro m h; cases h)).subset fun _ => mem_carries
  | clientReceives m rest head =>
    rw [head] at hc
    refine ⟨CurrentVersion.append hs ?_, hc.subset fun _ => List.mem_cons_of_mem _⟩
    refine (client_messages_version _ _ ?_).subset fun _ => mem_carries
    rintro hello ⟨⟩
    exact hc hello List.mem_cons_self
  | serverReceives m rest head =>
    rw [head] at hs
    refine ⟨hs.subset fun _ => List.mem_cons_of_mem _, CurrentVersion.append hc ?_⟩
    refine (server_messages_version _ _ ?_).subset fun _ => mem_carries
    rintro hello ⟨⟩
    exact hs hello List.mem_cons_self
  | pingRequest drawn =>
    refine ⟨CurrentVersion.append hs ?_, hc⟩
    exact (client_messages_version _ _ (by intro m h; cases h)).subset fun _ => mem_carries
  | cpuSampleReady sample =>
    refine ⟨hs, CurrentVersion.append hc ?_⟩
    exact (server_messages_version _ _ (by intro m h; cases h)).subset fun _ => mem_carries

theorem receives_nil (policy : Policy) (Y : Party) : Y.receives policy [] = Y := by
  unfold Party.receives Policy.carries
  split_ifs <;> simp

theorem client_acts_receives {policy : Policy} {w : System} {m : Message} {rest : List Message}
    (head : w.toClient = m :: rest) (versioned : CurrentVersion w.toClient) :
    let w' := System.clientStep policy { w with toClient := rest } (.messageReceived m)
    Acts policy (clientParty w) (serverParty w) (clientParty w') (serverParty w') := by
  intro w'
  have inbox : (clientParty w).inbox = token m :: rest.map token := by
    simp only [clientParty, head, List.map_cons]
  have sent : serverParty w' = (serverParty w).receives policy
      ((clientMessages (LogicClient.doStep w.client (.messageReceived m)).2).map token) :=
    clientStep_serverParty policy { w with toClient := rest } _
  have mine : clientParty w' = { clientParty w with
      handshake := after w.client.handshakeState m, inbox := rest.map token } := by
    simp only [w', System.clientStep, clientParty, client_record, client_instanceId_received]
  rw [sent, mine]
  cases m with
  | hello m =>
    have hv : m.protocolVersion = PROTOCOL_VERSION :=
      versioned m (by rw [head]; exact List.mem_cons_self)
    have tokens : (if 1 ≤ w.client.handshakeState.heard m.instanceId ∧
          w.client.telemetryRequested = false then [MessageFactory.makeTelemetryStart]
          else []).map token =
        List.replicate (if 1 ≤ w.client.handshakeState.heard m.instanceId ∧
          w.client.telemetryRequested = false then 1 else 0) none := by
      split_ifs <;> rfl
    rw [client_hello w.client hv, List.map_append, tokens, map_token_answer, after, if_pos hv]
    exact .heard m.instanceId _ _ inbox
  | _ =>
    rw [map_token_quiet (client_other w.client rfl).2]
    exact .quiet _ _ (.inr inbox)

theorem server_acts_receives {policy : Policy} {w : System} {m : Message} {rest : List Message}
    (head : w.toServer = m :: rest) (versioned : CurrentVersion w.toServer) :
    let w' := System.serverStep policy { w with toServer := rest } (.messageReceived m)
    Acts policy (serverParty w) (clientParty w) (serverParty w') (clientParty w') := by
  intro w'
  have inbox : (serverParty w).inbox = token m :: rest.map token := by
    simp only [serverParty, head, List.map_cons]
  have sent : clientParty w' = (clientParty w).receives policy
      ((serverMessages (LogicServer.doStep w.server (.messageReceived m)).2).map token) :=
    serverStep_clientParty policy { w with toServer := rest } _
  have mine : serverParty w' = { serverParty w with
      handshake := after w.server.handshakeState m, inbox := rest.map token } := by
    simp only [w', System.serverStep, serverParty, server_record, server_instanceId_received]
  rw [sent, mine]
  cases m with
  | hello m =>
    have hv : m.protocolVersion = PROTOCOL_VERSION :=
      versioned m (by rw [head]; exact List.mem_cons_self)
    rw [server_hello w.server hv, map_token_answer, after, if_pos hv, ← List.append_nil (ite _ _ _)]
    exact .heard m.instanceId _ 0 inbox
  | _ =>
    rw [map_token_quiet (server_other w.server rfl).2]
    exact .quiet _ _ (.inr inbox)

/-- The system refines the exchange of two parties. -/
theorem step_acts {policy : Policy} {w w' : System} (h : Versioned w) (step : Step policy w w') :
    Acts policy (clientParty w) (serverParty w) (clientParty w') (serverParty w') ∨
      Acts policy (serverParty w) (clientParty w) (serverParty w') (clientParty w') := by
  cases step with
  | clientConnected drawn toServer toClient unreserved fresh server client =>
    left
    rw [clientStep_serverParty]
    exact .connected drawn _ _ unreserved fresh (keeps_map token client) (keeps_map token server)
  | clientDisconnected toServer toClient server client =>
    left
    rw [clientStep_serverParty]
    exact (receives_nil _ _).symm ▸
      .disconnected _ _ (keeps_map token client) (keeps_map token server)
  | serverConnected drawn toServer toClient unreserved fresh server client =>
    right
    rw [serverStep_clientParty]
    exact .connected drawn _ _ unreserved fresh (keeps_map token server) (keeps_map token client)
  | serverDisconnected toServer toClient server client =>
    right
    rw [serverStep_clientParty]
    exact (receives_nil _ _).symm ▸
      .disconnected _ _ (keeps_map token server) (keeps_map token client)
  | clientReceives m rest head => exact .inl (client_acts_receives head h.2)
  | serverReceives m rest head => exact .inr (server_acts_receives head h.1)
  | pingRequest drawn =>
    left
    obtain ⟨same, quiet⟩ := client_ping w.client drawn
    have mine : clientParty (w.clientStep policy (.pingRequest drawn)) =
        { clientParty w with inbox := w.toClient.map token } := by
      simp only [System.clientStep, clientParty, same]
    rw [clientStep_serverParty, mine, map_token_quiet quiet]
    exact .quiet _ _ (.inl rfl)
  | cpuSampleReady sample =>
    right
    obtain ⟨same, quiet⟩ := server_sample w.server sample
    have mine : serverParty (w.serverStep policy (.cpuSampleReady sample)) =
        { serverParty w with inbox := w.toServer.map token } := by
      simp only [System.serverStep, serverParty, same]
    rw [serverStep_clientParty, mine, map_token_quiet quiet]
    exact .quiet _ _ (.inl rfl)

end RdpExt.SessionParties
