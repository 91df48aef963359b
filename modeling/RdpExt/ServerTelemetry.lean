import RdpExt.LogicServer
import RdpExt.TraceInvariant

set_option autoImplicit false

/-!
# When the server's telemetry runs outside a session

The server machine with the timer that its effects drive, against any peer. Two
events can leave telemetry on without a completed handshake, and no others.
-/
namespace RdpExt.ServerTelemetry
open ProtocolMessage LogicStates LogicEvents LogicServer TraceInvariant

/-- `timerRunning`: the last timer effect was StartTelemetryTimerEffect. -/
structure TimedServer where
  server : ServerState := {}
  timerRunning : Bool := false
  deriving DecidableEq, Repr

def timerEffect (running : Bool) : ServerEffect → Bool
  | .startTelemetryTimer => true
  | .stopTelemetryTimer => false
  | _ => running

def timedStep (t : TimedServer) (event : ServerEvent) : TimedServer where
  server := (doStep t.server event).1
  timerRunning := (doStep t.server event).2.foldl timerEffect t.timerRunning

def Inside (t : TimedServer) : Prop :=
  (t.server.telemetryEnabled = true → t.server.handshakeState.isCompleted = true) ∧
    (t.timerRunning = true → t.server.handshakeState.isCompleted = true)

instance (t : TimedServer) : Decidable (Inside t) := inferInstanceAs (Decidable (_ ∧ _))

/-- Not one of the two events after which telemetry is on outside a session. -/
def Permitted (t : TimedServer) : ServerEvent → Prop
  | .messageReceived (.telemetryStart _) => t.server.handshakeState.isCompleted = true
  | .messageReceived (.hello m) =>
    m.protocolVersion ≠ PROTOCOL_VERSION → t.server.telemetryEnabled = false
  | _ => True

def Following (t : TimedServer) : Prop := t.timerRunning = t.server.telemetryEnabled

theorem following_step (t : TimedServer) (event : ServerEvent) (h : Following t) :
    Following (timedStep t event) := by
  unfold Following at h
  cases event with
  | transportConnected drawn | transportDisconnected => rfl
  | cpuSampleReady sample =>
    change List.foldl timerEffect t.timerRunning (handleCpuSampleReady t.server sample).2 =
      (handleCpuSampleReady t.server sample).1.telemetryEnabled
    unfold handleCpuSampleReady
    split_ifs <;> exact h
  | messageReceived message =>
    cases message with
    | hello m =>
      change List.foldl timerEffect t.timerRunning (handleHelloMessage t.server m).2 =
        (handleHelloMessage t.server m).1.telemetryEnabled
      by_cases hv : m.protocolVersion = PROTOCOL_VERSION
      · rw [handleHelloMessage_current t.server m hv]
        by_cases unheard : t.server.handshakeState.heard m.instanceId = 0
        · simp [unheard, timerEffect]
        · have heard : 1 ≤ t.server.handshakeState.heard m.instanceId := by omega
          rw [if_neg unheard, List.append_nil]
          simp only [heard, decide_true, Bool.and_true]
          split_ifs <;> exact h
      · rw [handleHelloMessage_other t.server m hv]
        exact h
    | telemetryStart m => rfl
    | _ => exact h

theorem inside_step_iff (t : TimedServer) (event : ServerEvent) (following : Following t)
    (h : Inside t) : Inside (timedStep t event) ↔ Permitted t event := by
  have follows := following_step t event following
  unfold Following at follows
  unfold Inside
  rw [follows, and_self]
  cases event with
  | transportConnected drawn | transportDisconnected =>
    exact iff_of_true (fun enabled => by cases enabled) trivial
  | cpuSampleReady sample =>
    refine iff_of_true ?_ trivial
    change (handleCpuSampleReady t.server sample).1.telemetryEnabled = true →
      (handleCpuSampleReady t.server sample).1.handshakeState.isCompleted = true
    unfold handleCpuSampleReady
    split_ifs <;> exact h.1
  | messageReceived message =>
    cases message with
    | hello m =>
      change ((handleHelloMessage t.server m).1.telemetryEnabled = true →
          (handleHelloMessage t.server m).1.handshakeState.isCompleted = true) ↔
        (m.protocolVersion ≠ PROTOCOL_VERSION → t.server.telemetryEnabled = false)
      by_cases hv : m.protocolVersion = PROTOCOL_VERSION
      · rw [handleHelloMessage_current t.server m hv]
        refine iff_of_true (fun enabled => ?_) (fun other => absurd hv other)
        simp only [Bool.and_eq_true, decide_eq_true_eq] at enabled
        exact (t.server.handshakeState.isCompleted_remoteHelloReceived m.instanceId).mpr enabled.2
      · -- The record is reset, flag and timer are not.
        rw [handleHelloMessage_other t.server m hv]
        simp [hv]
    | telemetryStart m =>
      constructor
      · exact fun inside => inside rfl
      · exact fun completed _ => completed
    | _ => exact iff_of_true h.1 trivial

/-- Telemetry stays inside the session, flag and timer, in exactly those runs where
    no TelemetryStart comes before the handshake is complete and no Hello of another
    version while telemetry is on. -/
theorem telemetry_inside_session_iff (events : List ServerEvent) :
    Throughout timedStep Inside {} events ↔ EveryStep timedStep Permitted {} events := by
  have start : Following {} := rfl
  refine throughout_iff_everyStep Following following_step ?_ start ⟨?_, ?_⟩ events
  · intro t event following inside
    exact inside_step_iff t event following inside
  · intro enabled
    cases enabled
  · intro running
    cases running

/-- A request before any Hello is granted, and a Hello of another version resets the
    handshake of a session whose timer goes on running. -/
theorem telemetry_outside_session :
    ¬ Throughout timedStep Inside {} [.transportConnected ⟨1, 1⟩,
      .messageReceived MessageFactory.makeTelemetryStart] ∧
    ¬ Throughout timedStep Inside {} [.transportConnected ⟨1, 1⟩,
      .messageReceived (MessageFactory.makeHello ⟨2, 2⟩),
      .messageReceived (MessageFactory.makeHello ⟨2, 2⟩),
      .messageReceived MessageFactory.makeTelemetryStart,
      .messageReceived (.hello ⟨0x0102, ⟨2, 2⟩⟩)] := by
  constructor
  · intro h
    have last := h _ (List.prefix_refl _)
    revert last
    decide
  · intro h
    have last := h _ (List.prefix_refl _)
    revert last
    decide

end RdpExt.ServerTelemetry
