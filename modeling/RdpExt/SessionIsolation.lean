import RdpExt.MealyMachine
import RdpExt.LogicServer
import RdpExt.LogicClient

set_option autoImplicit false

/-!
# Nothing of a session outlives it

Two runs of one machine that have ended a session, each in its own way, answer the
same events alike from then on. What may differ between their states is overwritten
before it is read.
-/
namespace RdpExt.SessionIsolation
open ProtocolMessage LogicStates LogicEvents MealyMachine
open LogicServer (ServerState)
open LogicClient (ClientState)

/-- Two records with the telemetry flags beside them that no event tells apart: while
    no peer is known the flags may differ, and whether a local Hello is needed may
    differ at any time. -/
structure Alike (h h' : HandshakeState) (flag flag' : Bool) : Prop where
  remote : h.remoteInstanceId = h'.remoteInstanceId
  completed : h.isCompleted = h'.isCompleted
  unknown : h.remoteInstanceId = none → h.isCompleted = false
  flags : h.remoteInstanceId ≠ none → flag = flag'

section
variable {h h' : HandshakeState} {flag flag' : Bool}

theorem Alike.heard (alike : Alike h h' flag flag') (id : InstanceId) :
    h.heard id = h'.heard id := by
  have completed : h.handshakeCompleted = h'.handshakeCompleted := alike.completed
  unfold HandshakeState.heard
  rw [alike.remote, completed]

/-- The flag counts only once the peer that is known has been heard of. -/
theorem Alike.flag_of_heard (alike : Alike h h' flag flag') {id : InstanceId}
    (heard : 1 ≤ h.heard id) : flag = flag' := by
  apply alike.flags
  intro unknown
  have unheard := (h.heard_eq_zero_iff id).mpr (by rw [unknown]; exact nofun)
  omega

theorem Alike.flag_of_completed (alike : Alike h h' flag flag') (completed : h.isCompleted = true) :
    flag = flag' := by
  apply alike.flags
  intro unknown
  rw [alike.unknown unknown] at completed
  cases completed

theorem alike_reset (h h' : HandshakeState) (flag flag' : Bool) :
    Alike h.reset h'.reset flag flag' := ⟨rfl, rfl, fun _ => rfl, fun known => absurd rfl known⟩

theorem alike_connected (h h' : HandshakeState) :
    Alike h.reset.localHelloSent h'.reset.localHelloSent false false :=
  ⟨rfl, rfl, fun _ => rfl, fun _ => rfl⟩

/-- Both hear one more Hello; the flags behind it must agree. -/
theorem Alike.hello (alike : Alike h h' flag flag') (id : InstanceId) {now now' : Bool}
    (flags : now = now') :
    Alike (h.remoteHelloReceived id).localHelloSent (h'.remoteHelloReceived id).localHelloSent
      now now' := by
  refine ⟨by simp, ?_, fun unknown => ?_, fun _ => flags⟩
  · have heard := alike.heard id
    rw [HandshakeState.isCompleted_localHelloSent, HandshakeState.isCompleted_localHelloSent,
      Bool.eq_iff_iff, HandshakeState.isCompleted_remoteHelloReceived,
      HandshakeState.isCompleted_remoteHelloReceived, heard]
  · simp at unknown

end

def ServersAlike (s t : ServerState) : Prop :=
  s.instanceId = t.instanceId ∧
    Alike s.handshakeState t.handshakeState s.telemetryEnabled t.telemetryEnabled

def ClientsAlike (s t : ClientState) : Prop :=
  s.instanceId = t.instanceId ∧
    Alike s.handshakeState t.handshakeState s.telemetryRequested t.telemetryRequested

theorem server_hello_alike {s t : ServerState} (alike : ServersAlike s t) (m : HelloMessage) :
    (LogicServer.handleHelloMessage s m).2 = (LogicServer.handleHelloMessage t m).2 ∧
      ServersAlike (LogicServer.handleHelloMessage s m).1
        (LogicServer.handleHelloMessage t m).1 := by
  obtain ⟨own, alike⟩ := alike
  by_cases hv : m.protocolVersion = PROTOCOL_VERSION
  · have heard := alike.heard m.instanceId
    rw [LogicServer.handleHelloMessage_current s m hv, LogicServer.handleHelloMessage_current t m hv]
    constructor
    · simp only [own, heard]
    · refine ⟨own, alike.hello m.instanceId ?_⟩
      rw [← heard]
      by_cases known : 1 ≤ s.handshakeState.heard m.instanceId
      · rw [alike.flag_of_heard known]
      · simp [known]
  · rw [LogicServer.handleHelloMessage_other s m hv, LogicServer.handleHelloMessage_other t m hv]
    exact ⟨rfl, own, alike_reset s.handshakeState t.handshakeState _ _⟩

theorem server_sample_alike {s t : ServerState} (alike : ServersAlike s t) (sample : CpuSample) :
    (LogicServer.handleCpuSampleReady s sample).2 =
        (LogicServer.handleCpuSampleReady t sample).2 ∧
      ServersAlike (LogicServer.handleCpuSampleReady s sample).1
        (LogicServer.handleCpuSampleReady t sample).1 := by
  have completed := alike.2.completed
  unfold LogicServer.handleCpuSampleReady
  rw [← completed]
  cases done : s.handshakeState.isCompleted with
  | false =>
    simp only [Bool.not_false, Bool.or_true, ↓reduceIte, true_and]
    exact alike
  | true =>
    rw [← alike.2.flag_of_completed done]
    constructor
    · split_ifs <;> rfl
    · split_ifs <;> exact alike

theorem server_bisimulation : Bisimulation LogicServer.doStep ServersAlike := by
  have step : ∀ s t event, ServersAlike s t →
      (LogicServer.doStep s event).2 = (LogicServer.doStep t event).2 ∧
        ServersAlike (LogicServer.doStep s event).1 (LogicServer.doStep t event).1 := by
    intro s t event alike
    cases event with
    | transportConnected drawn => exact ⟨rfl, rfl, alike_connected _ _⟩
    | transportDisconnected => exact ⟨rfl, alike.1, alike_reset s.handshakeState t.handshakeState _ _⟩
    | cpuSampleReady sample => exact server_sample_alike alike sample
    | messageReceived message =>
      cases message with
      | hello m => exact server_hello_alike alike m
      | telemetryStart m =>
        exact ⟨rfl, alike.1, alike.2.remote, alike.2.completed, alike.2.unknown, fun _ => rfl⟩
      | _ => exact ⟨rfl, alike⟩
  exact ⟨fun s t event alike => (step s t event alike).1,
    fun s t event alike => (step s t event alike).2⟩

theorem client_hello_alike {s t : ClientState} (alike : ClientsAlike s t) (m : HelloMessage) :
    (LogicClient.handleHelloMessage s m).2 = (LogicClient.handleHelloMessage t m).2 ∧
      ClientsAlike (LogicClient.handleHelloMessage s m).1
        (LogicClient.handleHelloMessage t m).1 := by
  obtain ⟨own, alike⟩ := alike
  by_cases hv : m.protocolVersion = PROTOCOL_VERSION
  · have heard := alike.heard m.instanceId
    rw [LogicClient.handleHelloMessage_current s m hv, LogicClient.handleHelloMessage_current t m hv]
    constructor
    · simp only [own, ← heard]
      by_cases known : 1 ≤ s.handshakeState.heard m.instanceId
      · rw [alike.flag_of_heard known]
      · simp [known]
    · refine ⟨own, alike.hello m.instanceId ?_⟩
      rw [heard]
  · rw [LogicClient.handleHelloMessage_other s m hv, LogicClient.handleHelloMessage_other t m hv]
    exact ⟨rfl, own, alike_reset s.handshakeState t.handshakeState _ _⟩

theorem client_bisimulation : Bisimulation LogicClient.doStep ClientsAlike := by
  have step : ∀ s t event, ClientsAlike s t →
      (LogicClient.doStep s event).2 = (LogicClient.doStep t event).2 ∧
        ClientsAlike (LogicClient.doStep s event).1 (LogicClient.doStep t event).1 := by
    intro s t event alike
    cases event with
    | transportConnected drawn => exact ⟨rfl, rfl, alike_connected _ _⟩
    | transportDisconnected => exact ⟨rfl, alike.1, alike_reset s.handshakeState t.handshakeState _ _⟩
    | pingRequest drawn =>
      simp only [LogicClient.doStep, LogicClient.handlePingRequest, ← alike.2.completed]
      constructor
      · split_ifs <;> rfl
      · split_ifs <;> exact alike
    | messageReceived message =>
      cases message with
      | hello m => exact client_hello_alike alike m
      | _ => exact ⟨rfl, alike⟩
  exact ⟨fun s t event alike => (step s t event alike).1,
    fun s t event alike => (step s t event alike).2⟩

/-- A TransportDisconnected or a Hello of another protocol version. -/
def ServerEnds : ServerEvent → Prop
  | .transportDisconnected => True
  | .messageReceived (.hello m) => m.protocolVersion ≠ PROTOCOL_VERSION
  | _ => False

def ClientEnds : ClientEvent → Prop
  | .transportDisconnected => True
  | .messageReceived (.hello m) => m.protocolVersion ≠ PROTOCOL_VERSION
  | _ => False

/-- However its session ended, a server is left with a reset record. -/
theorem server_ended (s : ServerState) {event : ServerEvent} (ends : ServerEnds event) :
    (LogicServer.doStep s event).1.instanceId = s.instanceId ∧
      (LogicServer.doStep s event).1.handshakeState = s.handshakeState.reset := by
  cases event with
  | transportDisconnected => exact ⟨rfl, rfl⟩
  | messageReceived message =>
    cases message with
    | hello m =>
      change (LogicServer.handleHelloMessage s m).1.instanceId = _ ∧
        (LogicServer.handleHelloMessage s m).1.handshakeState = _
      rw [LogicServer.handleHelloMessage_other s m ends]
      exact ⟨rfl, rfl⟩
    | _ => exact ends.elim
  | _ => exact ends.elim

theorem client_ended (s : ClientState) {event : ClientEvent} (ends : ClientEnds event) :
    (LogicClient.doStep s event).1.instanceId = s.instanceId ∧
      (LogicClient.doStep s event).1.handshakeState = s.handshakeState.reset := by
  cases event with
  | transportDisconnected => exact ⟨rfl, rfl⟩
  | messageReceived message =>
    cases message with
    | hello m =>
      change (LogicClient.handleHelloMessage s m).1.instanceId = _ ∧
        (LogicClient.handleHelloMessage s m).1.handshakeState = _
      rw [LogicClient.handleHelloMessage_other s m ends]
      exact ⟨rfl, rfl⟩
    | _ => exact ends.elim
  | _ => exact ends.elim

/-- Two runs that ended a session, whatever they did before and however it ended, or
    that both connect with one new id, answer all further events alike. The states
    need not be reachable. -/
theorem session_isolation :
    (∀ (s t : ServerState) (ending ending' : ServerEvent), s.instanceId = t.instanceId →
      ServerEnds ending → ServerEnds ending' → ∀ events,
      outputs LogicServer.doStep (LogicServer.doStep s ending).1 events =
        outputs LogicServer.doStep (LogicServer.doStep t ending').1 events) ∧
    (∀ (s t : ServerState) (drawn : InstanceId) (events : List ServerEvent),
      outputs LogicServer.doStep (LogicServer.doStep s (.transportConnected drawn)).1 events =
        outputs LogicServer.doStep (LogicServer.doStep t (.transportConnected drawn)).1 events) ∧
    (∀ (s t : ClientState) (ending ending' : ClientEvent), s.instanceId = t.instanceId →
      ClientEnds ending → ClientEnds ending' → ∀ events,
      outputs LogicClient.doStep (LogicClient.doStep s ending).1 events =
        outputs LogicClient.doStep (LogicClient.doStep t ending').1 events) ∧
    (∀ (s t : ClientState) (drawn : InstanceId) (events : List ClientEvent),
      outputs LogicClient.doStep (LogicClient.doStep s (.transportConnected drawn)).1 events =
        outputs LogicClient.doStep (LogicClient.doStep t (.transportConnected drawn)).1 events) := by
  refine ⟨?_, ?_, ?_, ?_⟩
  · intro s t ending ending' own ends ends' events
    obtain ⟨kept, reset⟩ := server_ended s ends
    obtain ⟨kept', reset'⟩ := server_ended t ends'
    apply server_bisimulation.outputs_eq
    refine ⟨(kept.trans own).trans kept'.symm, ?_⟩
    rw [reset, reset']
    exact alike_reset _ _ _ _
  · intro s t drawn events
    exact server_bisimulation.outputs_eq
      ⟨rfl, alike_connected s.handshakeState t.handshakeState⟩ events
  · intro s t ending ending' own ends ends' events
    obtain ⟨kept, reset⟩ := client_ended s ends
    obtain ⟨kept', reset'⟩ := client_ended t ends'
    apply client_bisimulation.outputs_eq
    refine ⟨(kept.trans own).trans kept'.symm, ?_⟩
    rw [reset, reset']
    exact alike_reset _ _ _ _
  · intro s t drawn events
    exact client_bisimulation.outputs_eq
      ⟨rfl, alike_connected s.handshakeState t.handshakeState⟩ events

/-- A server whose telemetry is on, and a client that has asked for it. -/
def establishedServer : ServerState :=
  state LogicServer.doStep {} [.transportConnected ⟨1, 1⟩,
    .messageReceived (MessageFactory.makeHello ⟨2, 2⟩),
    .messageReceived (MessageFactory.makeHello ⟨2, 2⟩),
    .messageReceived MessageFactory.makeTelemetryStart]

def establishedClient : ClientState :=
  state LogicClient.doStep {} [.transportConnected ⟨2, 2⟩,
    .messageReceived (MessageFactory.makeHello ⟨1, 1⟩),
    .messageReceived (MessageFactory.makeHello ⟨1, 1⟩)]

/-- The flags left on by a Hello of another version do not show. -/
theorem session_isolation_interrupted :
    outputs LogicServer.doStep
        (LogicServer.doStep establishedServer (.messageReceived (.hello ⟨0x0102, ⟨2, 2⟩⟩))).1
        [.cpuSampleReady ⟨0⟩, .messageReceived (MessageFactory.makeHello ⟨3, 3⟩)] =
      outputs LogicServer.doStep
        (LogicServer.doStep establishedServer .transportDisconnected).1
        [.cpuSampleReady ⟨0⟩, .messageReceived (MessageFactory.makeHello ⟨3, 3⟩)] ∧
    outputs LogicClient.doStep
        (LogicClient.doStep establishedClient (.messageReceived (.hello ⟨0x0102, ⟨1, 1⟩⟩))).1
        [.pingRequest 7, .messageReceived (MessageFactory.makeHello ⟨3, 3⟩)] =
      outputs LogicClient.doStep
        (LogicClient.doStep establishedClient .transportDisconnected).1
        [.pingRequest 7, .messageReceived (MessageFactory.makeHello ⟨3, 3⟩)] := by
  have other : (0x0102 : UInt16) ≠ PROTOCOL_VERSION := by decide
  have server : ServerEnds .transportDisconnected := trivial
  have client : ClientEnds .transportDisconnected := trivial
  exact ⟨session_isolation.1 establishedServer establishedServer
      (.messageReceived (.hello ⟨0x0102, ⟨2, 2⟩⟩)) _ rfl other server _,
    session_isolation.2.2.1 establishedClient establishedClient
      (.messageReceived (.hello ⟨0x0102, ⟨1, 1⟩⟩)) _ rfl other client _⟩

end RdpExt.SessionIsolation
