import RdpExt.LogicEvents

set_option autoImplicit false

/-! # The server's state machine: `server/state_machine.cpp` -/
namespace RdpExt.LogicServer
open ProtocolMessage LogicStates LogicEvents

structure ServerState where
  connectionState : ConnectionState := .disconnected
  handshakeState : HandshakeState := {}
  instanceId : InstanceId := {}
  telemetryEnabled : Bool := false
  deriving DecidableEq, Repr

def makeSingleMessageEffect (message : Message) : ServerEffects := [.sendMessage message]

def handleTransportConnected (s : ServerState) (drawn : InstanceId) : ServerState × ServerEffects :=
  ({ s with
      connectionState := .awaitingHandshake
      telemetryEnabled := false
      instanceId := drawn
      handshakeState := s.handshakeState.reset.localHelloSent },
    [.stopTelemetryTimer, .sendMessage (MessageFactory.makeHello drawn)])

def handleTransportDisconnected (s : ServerState) : ServerState × ServerEffects :=
  ({ s with
      connectionState := .disconnected
      telemetryEnabled := false
      handshakeState := s.handshakeState.reset },
    [.stopTelemetryTimer])

def handleCpuSampleReady (s : ServerState) (sample : CpuSample) : ServerState × ServerEffects :=
  if !s.telemetryEnabled || !s.handshakeState.isCompleted then (s, [])
  else (s, makeSingleMessageEffect (MessageFactory.makeCpuSample sample.cpuLoad))

def handleErrorMessage (s : ServerState) (_m : ErrorMessage) : ServerState × ServerEffects := (s, [])

def handleHelloMessage (s : ServerState) (m : HelloMessage) : ServerState × ServerEffects :=
  if m.protocolVersion ≠ PROTOCOL_VERSION then
    ({ s with handshakeState := s.handshakeState.reset },
      makeSingleMessageEffect (MessageFactory.makeWrongProtocolVersionError PROTOCOL_VERSION))
  else
    let received := s.handshakeState.remoteHelloReceived m.instanceId
    let (handshake, answer) : HandshakeState × ServerEffects :=
      if received.isLocalHelloNeeded then
        (received.localHelloSent, [.sendMessage (MessageFactory.makeHello s.instanceId)])
      else (received, [])
    if handshake.isCompleted then ({ s with handshakeState := handshake }, answer)
    else
      ({ s with handshakeState := handshake, telemetryEnabled := false },
        answer ++ [.stopTelemetryTimer])

def handleCapabilitySetMessage (s : ServerState) (_m : CapabilitySetMessage) :
    ServerState × ServerEffects := (s, [])

def handleTelemetryStartMessage (s : ServerState) (_m : TelemetryStartMessage) :
    ServerState × ServerEffects :=
  ({ s with telemetryEnabled := true }, [.startTelemetryTimer])

def handleCpuSampleMessage (s : ServerState) (_m : CpuSampleMessage) : ServerState × ServerEffects :=
  (s, makeSingleMessageEffect
    (MessageFactory.makeUnsupportedMessageTypeError (text "CpuSampleMessage")))

def handlePingMessage (s : ServerState) (m : PingMessage) : ServerState × ServerEffects :=
  (s, makeSingleMessageEffect (MessageFactory.makePong m.id))

def handlePongMessage (s : ServerState) (_m : PongMessage) : ServerState × ServerEffects :=
  (s, makeSingleMessageEffect (MessageFactory.makeUnsupportedMessageTypeError (text "PongMessage")))

def handleMessageReceived (s : ServerState) : Message → ServerState × ServerEffects
  | .error m => handleErrorMessage s m
  | .hello m => handleHelloMessage s m
  | .capabilitySet m => handleCapabilitySetMessage s m
  | .telemetryStart m => handleTelemetryStartMessage s m
  | .cpuSample m => handleCpuSampleMessage s m
  | .ping m => handlePingMessage s m
  | .pong m => handlePongMessage s m

def doStep (s : ServerState) : ServerEvent → ServerState × ServerEffects
  | .transportConnected drawn => handleTransportConnected s drawn
  | .transportDisconnected => handleTransportDisconnected s
  | .messageReceived message => handleMessageReceived s message
  | .cpuSampleReady sample => handleCpuSampleReady s sample

/-- What a Hello of the own version does: the record counts it, the first two of
    an id are answered, and one that does not complete stops the telemetry. -/
theorem handleHelloMessage_current (s : ServerState) (m : HelloMessage)
    (hv : m.protocolVersion = PROTOCOL_VERSION) :
    handleHelloMessage s m =
      ({ s with
          handshakeState := (s.handshakeState.remoteHelloReceived m.instanceId).localHelloSent
          telemetryEnabled :=
            s.telemetryEnabled && decide (1 ≤ s.handshakeState.heard m.instanceId) },
        (if s.handshakeState.heard m.instanceId < 2 then
            [.sendMessage (MessageFactory.makeHello s.instanceId)] else []) ++
          (if s.handshakeState.heard m.instanceId = 0 then [.stopTelemetryTimer] else [])) := by
  unfold handleHelloMessage
  simp only [hv, ne_eq, not_true_eq_false, ↓reduceIte]
  obtain ⟨first, needed, completed⟩ | ⟨second, needed, completed⟩ |
      ⟨later, needed, completed, settled⟩ :=
    s.handshakeState.remoteHelloReceived_cases m.instanceId
  · simp [needed, completed, first]
  · simp [needed, completed, second]
  · simp [needed, completed, later, settled]

theorem handleHelloMessage_other (s : ServerState) (m : HelloMessage)
    (hv : m.protocolVersion ≠ PROTOCOL_VERSION) :
    handleHelloMessage s m = ({ s with handshakeState := s.handshakeState.reset },
      makeSingleMessageEffect (MessageFactory.makeWrongProtocolVersionError PROTOCOL_VERSION)) := by
  unfold handleHelloMessage
  rw [if_pos hv]

/-- What a step can call for: the timer's start alone, or else the timer's stop and
    messages whose texts are short. -/
theorem doStep_effects (s : ServerState) (event : ServerEvent) :
    (doStep s event).2 = [.startTelemetryTimer] ∨
      ∀ x ∈ (doStep s event).2, x = .stopTelemetryTimer ∨
        ∃ m : Message, x = .sendMessage m ∧ m.TextFits := by
  have single : ∀ m : Message, m.TextFits → ∀ x ∈ makeSingleMessageEffect m,
      x = .stopTelemetryTimer ∨ ∃ m : Message, x = .sendMessage m ∧ m.TextFits := by
    intro m fits x hx
    exact .inr ⟨m, List.mem_singleton.mp hx, fits⟩
  cases event with
  | transportConnected drawn =>
    right
    intro x hx
    rcases List.mem_cons.mp hx with stop | hello
    · exact .inl stop
    · exact single (MessageFactory.makeHello drawn) trivial x hello
  | transportDisconnected => exact .inr fun x hx => .inl (List.mem_singleton.mp hx)
  | cpuSampleReady sample =>
    right
    simp only [doStep, handleCpuSampleReady]
    split_ifs
    · exact nofun
    · exact single _ trivial
  | messageReceived message =>
    cases message with
    | hello hello =>
      right
      change ∀ x ∈ (handleHelloMessage s hello).2, _
      by_cases hv : hello.protocolVersion = PROTOCOL_VERSION
      · rw [handleHelloMessage_current s hello hv]
        intro x hx
        rcases List.mem_append.mp hx with answer | stop
        · split_ifs at answer
          · exact single (MessageFactory.makeHello s.instanceId) trivial x answer
          · cases answer
        · split_ifs at stop
          · exact .inl (List.mem_singleton.mp stop)
          · cases stop
      · rw [handleHelloMessage_other s hello hv]
        exact single _ (by decide)
    | telemetryStart _ => exact .inl rfl
    | error _ | capabilitySet _ => exact .inr nofun
    | cpuSample _ | pong _ => exact .inr (single _ (by decide))
    | ping _ => exact .inr (single _ trivial)

end RdpExt.LogicServer
