import RdpExt.LogicEvents

set_option autoImplicit false

/-! # The client's state machine: `client/state_machine.cpp` -/
namespace RdpExt.LogicClient
open ProtocolMessage LogicStates LogicEvents

structure ClientState where
  connectionState : ConnectionState := .disconnected
  handshakeState : HandshakeState := {}
  instanceId : InstanceId := {}
  telemetryRequested : Bool := false
  deriving DecidableEq, Repr

def makeSingleMessageEffect (message : Message) : ClientEffects := [.sendMessage message]

def handleTransportConnected (s : ClientState) (drawn : InstanceId) : ClientState × ClientEffects :=
  ({ s with
      connectionState := .awaitingHandshake
      telemetryRequested := false
      instanceId := drawn
      handshakeState := s.handshakeState.reset.localHelloSent },
    [.stopPing, .sendMessage (MessageFactory.makeHello drawn)])

def handleTransportDisconnected (s : ClientState) : ClientState × ClientEffects :=
  ({ s with
      connectionState := .disconnected
      telemetryRequested := false
      handshakeState := s.handshakeState.reset },
    [.stopPing])

def handlePingRequest (s : ClientState) (drawn : UInt32) : ClientState × ClientEffects :=
  if !s.handshakeState.isCompleted then (s, [])
  else (s, makeSingleMessageEffect (MessageFactory.makePing drawn))

def handleErrorMessage (s : ClientState) (_m : ErrorMessage) : ClientState × ClientEffects := (s, [])

def handleHelloMessage (s : ClientState) (m : HelloMessage) : ClientState × ClientEffects :=
  if m.protocolVersion ≠ PROTOCOL_VERSION then
    ({ s with handshakeState := s.handshakeState.reset },
      makeSingleMessageEffect (MessageFactory.makeWrongProtocolVersionError PROTOCOL_VERSION))
  else
    let received := s.handshakeState.remoteHelloReceived m.instanceId
    let (handshake, answer) : HandshakeState × ClientEffects :=
      if received.isLocalHelloNeeded then
        (received.localHelloSent, [.sendMessage (MessageFactory.makeHello s.instanceId)])
      else (received, [])
    if handshake.isCompleted then
      if !s.telemetryRequested then
        ({ s with handshakeState := handshake, telemetryRequested := true },
          answer ++ [.sendMessage MessageFactory.makeTelemetryStart])
      else ({ s with handshakeState := handshake }, answer)
    else ({ s with handshakeState := handshake, telemetryRequested := false }, answer)

def handleCapabilitySetMessage (s : ClientState) (_m : CapabilitySetMessage) :
    ClientState × ClientEffects :=
  (s, makeSingleMessageEffect
    (MessageFactory.makeUnsupportedMessageTypeError (text "CapabilitySetMessage")))

def handleTelemetryStartMessage (s : ClientState) (_m : TelemetryStartMessage) :
    ClientState × ClientEffects :=
  (s, makeSingleMessageEffect
    (MessageFactory.makeUnsupportedMessageTypeError (text "TelemetryStartMessage")))

def handleCpuSampleMessage (s : ClientState) (_m : CpuSampleMessage) : ClientState × ClientEffects :=
  (s, [])

def handlePingMessage (s : ClientState) (_m : PingMessage) : ClientState × ClientEffects :=
  (s, makeSingleMessageEffect (MessageFactory.makeUnsupportedMessageTypeError (text "PingMessage")))

def handlePongMessage (s : ClientState) (_m : PongMessage) : ClientState × ClientEffects := (s, [])

def handleMessageReceived (s : ClientState) : Message → ClientState × ClientEffects
  | .error m => handleErrorMessage s m
  | .hello m => handleHelloMessage s m
  | .capabilitySet m => handleCapabilitySetMessage s m
  | .telemetryStart m => handleTelemetryStartMessage s m
  | .cpuSample m => handleCpuSampleMessage s m
  | .ping m => handlePingMessage s m
  | .pong m => handlePongMessage s m

def doStep (s : ClientState) : ClientEvent → ClientState × ClientEffects
  | .transportConnected drawn => handleTransportConnected s drawn
  | .transportDisconnected => handleTransportDisconnected s
  | .messageReceived message => handleMessageReceived s message
  | .pingRequest drawn => handlePingRequest s drawn

/-- What a Hello of the own version does: the record counts it, the first two of
    an id are answered, and one that completes asks for telemetry once. -/
theorem handleHelloMessage_current (s : ClientState) (m : HelloMessage)
    (hv : m.protocolVersion = PROTOCOL_VERSION) :
    handleHelloMessage s m =
      ({ s with
          handshakeState := (s.handshakeState.remoteHelloReceived m.instanceId).localHelloSent
          telemetryRequested := decide (1 ≤ s.handshakeState.heard m.instanceId) },
        (if s.handshakeState.heard m.instanceId < 2 then
            [.sendMessage (MessageFactory.makeHello s.instanceId)] else []) ++
          (if 1 ≤ s.handshakeState.heard m.instanceId ∧ s.telemetryRequested = false then
            [.sendMessage MessageFactory.makeTelemetryStart] else [])) := by
  unfold handleHelloMessage
  simp only [hv, ne_eq, not_true_eq_false, ↓reduceIte]
  obtain ⟨first, needed, completed⟩ | ⟨second, needed, completed⟩ |
      ⟨later, needed, completed, settled⟩ :=
    s.handshakeState.remoteHelloReceived_cases m.instanceId
  · simp [needed, completed, first]
  · cases s.telemetryRequested <;> simp [needed, completed, second]
  · cases s.telemetryRequested <;> simp [needed, completed, later, settled]

theorem handleHelloMessage_other (s : ClientState) (m : HelloMessage)
    (hv : m.protocolVersion ≠ PROTOCOL_VERSION) :
    handleHelloMessage s m = ({ s with handshakeState := s.handshakeState.reset },
      makeSingleMessageEffect (MessageFactory.makeWrongProtocolVersionError PROTOCOL_VERSION)) := by
  unfold handleHelloMessage
  rw [if_pos hv]

end RdpExt.LogicClient
