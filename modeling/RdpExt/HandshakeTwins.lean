import RdpExt.LogicClient
import RdpExt.LogicServer
import RdpExt.MealyMachine

set_option autoImplicit false

/-!
# The two machines are one where the handshake is concerned

Both hold the same machine, which reads transport events and Hellos and says Hellos and
version errors. All else that they do stands beside it and never acts on it.
-/
namespace RdpExt.HandshakeTwins
open ProtocolMessage LogicStates LogicEvents MealyMachine
open LogicServer (ServerState)
open LogicClient (ClientState)

structure LinkState where
  connectionState : ConnectionState := .disconnected
  handshakeState : HandshakeState := {}
  instanceId : InstanceId := {}
  deriving DecidableEq, Repr

inductive LinkEvent where
  | connected (drawn : InstanceId)
  | disconnected
  | hello (m : HelloMessage)
  deriving DecidableEq, Repr

/-- The first two Hellos of an id are answered, and the second one completes. -/
def linkStep (s : LinkState) : LinkEvent → LinkState × List Message
  | .connected drawn =>
    ({ connectionState := .awaitingHandshake, instanceId := drawn
       handshakeState := s.handshakeState.reset.localHelloSent },
      [MessageFactory.makeHello drawn])
  | .disconnected =>
    ({ s with connectionState := .disconnected, handshakeState := s.handshakeState.reset }, [])
  | .hello m =>
    if m.protocolVersion = PROTOCOL_VERSION then
      ({ s with
          handshakeState := (s.handshakeState.remoteHelloReceived m.instanceId).localHelloSent },
        if s.handshakeState.heard m.instanceId < 2 then [MessageFactory.makeHello s.instanceId]
        else [])
    else
      ({ s with handshakeState := s.handshakeState.reset },
        [MessageFactory.makeWrongProtocolVersionError PROTOCOL_VERSION])

theorem linkStep_current (s : LinkState) {m : HelloMessage}
    (current : m.protocolVersion = PROTOCOL_VERSION) : linkStep s (.hello m) =
      ({ s with
          handshakeState := (s.handshakeState.remoteHelloReceived m.instanceId).localHelloSent },
        if s.handshakeState.heard m.instanceId < 2 then [MessageFactory.makeHello s.instanceId]
        else []) := if_pos current

theorem linkStep_other (s : LinkState) {m : HelloMessage}
    (other : m.protocolVersion ≠ PROTOCOL_VERSION) : linkStep s (.hello m) =
      ({ s with handshakeState := s.handshakeState.reset },
        [MessageFactory.makeWrongProtocolVersionError PROTOCOL_VERSION]) := if_neg other

def said : Message → Option Message
  | .hello m => some (.hello m)
  | .error e => if e.code = .wrongProtocolVersion then some (.error e) else none
  | _ => none

def clientLink (s : ClientState) : LinkState :=
  ⟨s.connectionState, s.handshakeState, s.instanceId⟩

def serverLink (s : ServerState) : LinkState :=
  ⟨s.connectionState, s.handshakeState, s.instanceId⟩

def heardHello : Message → Option LinkEvent
  | .hello m => some (.hello m)
  | _ => none

def clientReads : ClientEvent → Option LinkEvent
  | .transportConnected drawn => some (.connected drawn)
  | .transportDisconnected => some .disconnected
  | .messageReceived message => heardHello message
  | .pingRequest _ => none

def serverReads : ServerEvent → Option LinkEvent
  | .transportConnected drawn => some (.connected drawn)
  | .transportDisconnected => some .disconnected
  | .messageReceived message => heardHello message
  | .cpuSampleReady _ => none

def clientSays (effect : ClientEffect) : Option Message := effect.message?.bind said

def serverSays (effect : ServerEffect) : Option Message := effect.message?.bind said

theorem client_says_hello (s : ClientState) (m : HelloMessage) :
    clientLink (LogicClient.handleHelloMessage s m).1 = (linkStep (clientLink s) (.hello m)).1 ∧
      (LogicClient.handleHelloMessage s m).2.filterMap clientSays =
        (linkStep (clientLink s) (.hello m)).2 := by
  by_cases current : m.protocolVersion = PROTOCOL_VERSION
  · rw [linkStep_current _ current, LogicClient.handleHelloMessage_current s m current]
    refine ⟨rfl, ?_⟩
    have answer : (if s.handshakeState.heard m.instanceId < 2 then
        [ClientEffect.sendMessage (MessageFactory.makeHello s.instanceId)] else []).filterMap
          clientSays = if (clientLink s).handshakeState.heard m.instanceId < 2 then
            [MessageFactory.makeHello (clientLink s).instanceId] else [] := by
      unfold clientLink
      split_ifs <;> rfl
    have request (asks : Prop) [Decidable asks] : (if asks then
        [ClientEffect.sendMessage MessageFactory.makeTelemetryStart] else []).filterMap
          clientSays = [] := by
      split_ifs <;> rfl
    rw [List.filterMap_append, request, List.append_nil]
    exact answer
  · rw [linkStep_other _ current, LogicClient.handleHelloMessage_other s m current]
    exact ⟨rfl, rfl⟩

theorem server_says_hello (s : ServerState) (m : HelloMessage) :
    serverLink (LogicServer.handleHelloMessage s m).1 = (linkStep (serverLink s) (.hello m)).1 ∧
      (LogicServer.handleHelloMessage s m).2.filterMap serverSays =
        (linkStep (serverLink s) (.hello m)).2 := by
  by_cases current : m.protocolVersion = PROTOCOL_VERSION
  · rw [linkStep_current _ current, LogicServer.handleHelloMessage_current s m current]
    refine ⟨rfl, ?_⟩
    have answer : (if s.handshakeState.heard m.instanceId < 2 then
        [ServerEffect.sendMessage (MessageFactory.makeHello s.instanceId)] else []).filterMap
          serverSays = if (serverLink s).handshakeState.heard m.instanceId < 2 then
            [MessageFactory.makeHello (serverLink s).instanceId] else [] := by
      unfold serverLink
      split_ifs <;> rfl
    have timer (stops : Prop) [Decidable stops] : (if stops then
        [ServerEffect.stopTelemetryTimer] else []).filterMap serverSays = [] := by
      split_ifs <;> rfl
    rw [List.filterMap_append, timer, List.append_nil]
    exact answer
  · rw [linkStep_other _ current, LogicServer.handleHelloMessage_other s m current]
    exact ⟨rfl, rfl⟩

theorem client_projection :
    Projection LogicClient.doStep linkStep clientLink clientReads clientSays where
  read s event event' reads := by
    cases event with
    | transportConnected drawn =>
      cases reads
      exact ⟨rfl, rfl⟩
    | transportDisconnected =>
      cases reads
      exact ⟨rfl, rfl⟩
    | pingRequest drawn => cases reads
    | messageReceived message =>
      cases message with
      | hello m =>
        cases reads
        exact client_says_hello s m
      | _ => cases reads
  unread s event unread := by
    cases event with
    | transportConnected drawn => cases unread
    | transportDisconnected => cases unread
    | pingRequest drawn =>
      change clientLink (LogicClient.handlePingRequest s drawn).1 = _ ∧
        (LogicClient.handlePingRequest s drawn).2.filterMap clientSays = []
      unfold LogicClient.handlePingRequest
      split_ifs <;> exact ⟨rfl, rfl⟩
    | messageReceived message =>
      cases message with
      | hello m => cases unread
      | _ => exact ⟨rfl, rfl⟩

theorem server_projection :
    Projection LogicServer.doStep linkStep serverLink serverReads serverSays where
  read s event event' reads := by
    cases event with
    | transportConnected drawn =>
      cases reads
      exact ⟨rfl, rfl⟩
    | transportDisconnected =>
      cases reads
      exact ⟨rfl, rfl⟩
    | cpuSampleReady sample => cases reads
    | messageReceived message =>
      cases message with
      | hello m =>
        cases reads
        exact server_says_hello s m
      | _ => cases reads
  unread s event unread := by
    cases event with
    | transportConnected drawn => cases unread
    | transportDisconnected => cases unread
    | cpuSampleReady sample =>
      change serverLink (LogicServer.handleCpuSampleReady s sample).1 = _ ∧
        (LogicServer.handleCpuSampleReady s sample).2.filterMap serverSays = []
      unfold LogicServer.handleCpuSampleReady
      split_ifs <;> exact ⟨rfl, rfl⟩
    | messageReceived message =>
      cases message with
      | hello m => cases unread
      | _ => exact ⟨rfl, rfl⟩

/-- A client and a server that get the same transport events and Hellos, with anything else
    between them, are in the same state of the handshake and have said the same in it. -/
theorem handshake_twins (clientEvents : List ClientEvent) (serverEvents : List ServerEvent)
    (same : clientEvents.filterMap clientReads = serverEvents.filterMap serverReads) :
    clientLink (state LogicClient.doStep {} clientEvents) =
        serverLink (state LogicServer.doStep {} serverEvents) ∧
      (outputs LogicClient.doStep {} clientEvents).flatten.filterMap clientSays =
        (outputs LogicServer.doStep {} serverEvents).flatten.filterMap serverSays := by
  obtain ⟨client, clientSaid⟩ := client_projection.run {} clientEvents
  obtain ⟨server, serverSaid⟩ := server_projection.run {} serverEvents
  rw [client, server, clientSaid, serverSaid, same]
  exact ⟨rfl, rfl⟩

theorem handshake_twins_greeted :
    clientLink (state LogicClient.doStep {}
        [.transportConnected ⟨1, 1⟩, .messageReceived (MessageFactory.makeHello ⟨2, 2⟩),
          .pingRequest 5, .messageReceived (MessageFactory.makeHello ⟨2, 2⟩)]) =
      serverLink (state LogicServer.doStep {}
        [.transportConnected ⟨1, 1⟩, .messageReceived MessageFactory.makeTelemetryStart,
          .messageReceived (MessageFactory.makeHello ⟨2, 2⟩),
          .messageReceived (MessageFactory.makeHello ⟨2, 2⟩)]) :=
  (handshake_twins _ _ (by decide)).1

def completes (s : LinkState) (event : LinkEvent) : Bool :=
  !s.handshakeState.isCompleted && (linkStep s event).1.handshakeState.isCompleted

def completions : LinkState → List LinkEvent → ℕ
  | _, [] => 0
  | s, event :: events =>
    (if completes s event then 1 else 0) + completions (linkStep s event).1 events

def requests (effects : ClientEffects) : ℕ :=
  effects.count (.sendMessage MessageFactory.makeTelemetryStart)

theorem requests_append (effects later : ClientEffects) :
    requests (effects ++ later) = requests effects + requests later := List.count_append

/-- A Hello of another version makes the client forget its peer but not its request, so the
    two agree only where a peer is stored. -/
def Asked (s : ClientState) : Prop :=
  s.handshakeState.remoteInstanceId ≠ none →
    s.telemetryRequested = s.handshakeState.isCompleted

theorem completes_hello (s : LinkState) {m : HelloMessage}
    (current : m.protocolVersion = PROTOCOL_VERSION) :
    completes s (.hello m) = true ↔
      s.handshakeState.isCompleted = false ∧ 1 ≤ s.handshakeState.heard m.instanceId := by
  unfold completes
  rw [linkStep_current s current, Bool.and_eq_true, Bool.not_eq_true', HandshakeState.isCompleted_localHelloSent,
    HandshakeState.isCompleted_remoteHelloReceived]

theorem requests_hello {s : ClientState} (asked : Asked s) (m : HelloMessage) :
    requests (LogicClient.handleHelloMessage s m).2 =
        (if completes (clientLink s) (.hello m) then 1 else 0) ∧
      Asked (LogicClient.handleHelloMessage s m).1 := by
  by_cases current : m.protocolVersion = PROTOCOL_VERSION
  · have second := completes_hello (clientLink s) current
    have stored (heard : 1 ≤ s.handshakeState.heard m.instanceId) :
        s.telemetryRequested = s.handshakeState.isCompleted := by
      refine asked fun none => ?_
      have unheard := (s.handshakeState.heard_eq_zero_iff m.instanceId).mpr (by rw [none]; nofun)
      omega
    rw [LogicClient.handleHelloMessage_current s m current, requests_append]
    have answer : requests (if s.handshakeState.heard m.instanceId < 2 then
        [.sendMessage (MessageFactory.makeHello s.instanceId)] else []) = 0 := by
      split_ifs <;> rfl
    rw [answer, Nat.zero_add]
    constructor
    · by_cases heard : 1 ≤ s.handshakeState.heard m.instanceId
      · have same := stored heard
        cases completed : s.handshakeState.isCompleted with
        | true =>
          have idle : completes (clientLink s) (.hello m) ≠ true := fun completes =>
            absurd (completed.symm.trans (second.mp completes).1) nofun
          rw [if_neg idle, if_neg fun asks => absurd (same.symm.trans asks.2) (by
            rw [completed]
            nofun)]
          rfl
        | false =>
          rw [if_pos (second.mpr ⟨completed, heard⟩), if_pos ⟨heard, same.trans completed⟩]
          rfl
      · rw [if_neg fun completes => heard (second.mp completes).2, if_neg fun asks => heard asks.1]
        rfl
    · intro _
      rw [Bool.eq_iff_iff, decide_eq_true_iff, HandshakeState.isCompleted_localHelloSent,
        HandshakeState.isCompleted_remoteHelloReceived]
  · rw [LogicClient.handleHelloMessage_other s m current]
    have idle : completes (clientLink s) (.hello m) = false := by
      unfold completes
      rw [linkStep_other _ current, Bool.and_eq_false_iff]
      exact .inr rfl
    rw [idle]
    exact ⟨rfl, fun stored => absurd rfl stored⟩

theorem requests_doStep {s : ClientState} (asked : Asked s) (event : ClientEvent) :
    requests (LogicClient.doStep s event).2 =
        completions (clientLink s) (clientReads event).toList ∧
      Asked (LogicClient.doStep s event).1 := by
  cases event with
  | transportConnected drawn =>
    refine ⟨?_, fun stored => absurd rfl stored⟩
    change 0 = (if !s.handshakeState.isCompleted && false then 1 else 0) + 0
    rw [Bool.and_false]
    rfl
  | transportDisconnected =>
    refine ⟨?_, fun stored => absurd rfl stored⟩
    change 0 = (if !s.handshakeState.isCompleted && false then 1 else 0) + 0
    rw [Bool.and_false]
    rfl
  | pingRequest drawn =>
    change requests (LogicClient.handlePingRequest s drawn).2 = 0 ∧
      Asked (LogicClient.handlePingRequest s drawn).1
    unfold LogicClient.handlePingRequest
    split_ifs <;> exact ⟨rfl, asked⟩
  | messageReceived message =>
    cases message with
    | hello m => exact requests_hello asked m
    | _ => exact ⟨rfl, asked⟩

theorem completions_append (s : LinkState) (events later : List LinkEvent) :
    completions s (events ++ later) =
      completions s events + completions (state linkStep s events) later := by
  induction events generalizing s with
  | nil => exact (Nat.zero_add _).symm
  | cons event events ih =>
    rw [List.cons_append, completions, completions, ih (linkStep s event).1, Nat.add_assoc]
    rfl

theorem requests_run {s : ClientState} (asked : Asked s) (events : List ClientEvent) :
    requests (outputs LogicClient.doStep s events).flatten =
      completions (clientLink s) (events.filterMap clientReads) := by
  induction events generalizing s with
  | nil => rfl
  | cons event events ih =>
    obtain ⟨now, still⟩ := requests_doStep asked event
    have reads (events : List ClientEvent) : (event :: events).filterMap clientReads =
        (clientReads event).toList ++ events.filterMap clientReads := by
      rw [List.filterMap_cons]
      cases clientReads event <;> rfl
    have link : clientLink (LogicClient.doStep s event).1 =
        state linkStep (clientLink s) (clientReads event).toList := by
      have one := (client_projection.run s [event]).1
      rw [reads [], List.filterMap_nil, List.append_nil] at one
      exact one
    rw [outputs, List.flatten_cons, requests_append, now, ih still, reads, completions_append, link]

/-- Whatever the peer sends, the client asks for telemetry once for each time its handshake
    gets complete. -/
theorem telemetry_asked_once (events : List ClientEvent) :
    requests (outputs LogicClient.doStep {} events).flatten =
      completions {} (events.filterMap clientReads) :=
  requests_run (fun stored => absurd rfl stored) events

end RdpExt.HandshakeTwins
