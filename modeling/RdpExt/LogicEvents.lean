import RdpExt.LogicStates

set_option autoImplicit false

/-!
# Events and effects

`events.h`, `effects.h` and the variants of the two `state_machine.h`. A value the
machine draws while it handles an event (the instance id of a connect, the id of
a ping) comes with the event.
-/
namespace RdpExt.LogicEvents
open ProtocolMessage

structure CpuSample where
  cpuLoad : FloatBits
  deriving DecidableEq, Repr

inductive ServerEvent where
  | transportConnected (drawn : InstanceId)
  | transportDisconnected
  | messageReceived (message : Message)
  | cpuSampleReady (sample : CpuSample)
  deriving DecidableEq, Repr

inductive ClientEvent where
  | transportConnected (drawn : InstanceId)
  | transportDisconnected
  | messageReceived (message : Message)
  | pingRequest (drawn : UInt32)
  deriving DecidableEq, Repr

inductive ServerEffect where
  | sendMessage (message : Message)
  | startTelemetryTimer
  | stopTelemetryTimer
  | closeTransport
  deriving DecidableEq, Repr

inductive ClientEffect where
  | sendMessage (message : Message)
  | startPing
  | stopPing
  | closeTransport
  deriving DecidableEq, Repr

abbrev ServerEffects := List ServerEffect
abbrev ClientEffects := List ClientEffect

def ServerEffect.message? : ServerEffect → Option Message
  | .sendMessage m => some m
  | _ => none

def ClientEffect.message? : ClientEffect → Option Message
  | .sendMessage m => some m
  | _ => none

/-- The messages of the effects, in order: what a step puts on the wire. -/
def serverMessages (effects : ServerEffects) : List Message := effects.filterMap (·.message?)

def clientMessages (effects : ClientEffects) : List Message := effects.filterMap (·.message?)

@[simp] theorem serverMessages_nil : serverMessages [] = [] := rfl
@[simp] theorem serverMessages_send (m : Message) (effects : ServerEffects) :
    serverMessages (.sendMessage m :: effects) = m :: serverMessages effects := rfl

@[simp] theorem serverMessages_stop (effects : ServerEffects) :
    serverMessages (.stopTelemetryTimer :: effects) = serverMessages effects := rfl

@[simp] theorem clientMessages_append (xs ys : ClientEffects) :
    clientMessages (xs ++ ys) = clientMessages xs ++ clientMessages ys := List.filterMap_append

end RdpExt.LogicEvents
