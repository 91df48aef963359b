import Mathlib.Tactic.Common
import Mathlib.Algebra.Ring.Nat

set_option autoImplicit false

/-!
# The messages of the virtual channel and their factory

`message.h` and `message_factory.cpp`. Texts and buffers are byte lists, as
`std::string` and `std::vector<std::byte>` are; a `float` is its bit pattern.
-/
namespace RdpExt.ProtocolMessage

abbrev Text := List UInt8
abbrev Buffer := List UInt8
abbrev FloatBits := UInt32

/-- The bytes of an ASCII literal of the source. -/
def text (literal : String) : Text := literal.toList.map fun c => c.toNat.toUInt8

def PROTOCOL_VERSION : UInt16 := 0x0103

/-- An `enum class` over `uint16_t`: the archive may store any pattern in it,
    so it is its underlying value and the enumerators are constants. -/
structure ErrorCode where
  value : UInt16
  deriving DecidableEq, Repr

namespace ErrorCode
def internalError : ErrorCode := ⟨1⟩
def wrongProtocolVersion : ErrorCode := ⟨2⟩
def unsupportedMessageType : ErrorCode := ⟨5⟩
end ErrorCode

structure InstanceId where
  timestamp : UInt64 := 0
  id : UInt32 := 0
  deriving DecidableEq, Repr

structure HelloMessage where
  protocolVersion : UInt16 := PROTOCOL_VERSION
  instanceId : InstanceId := {}
  deriving DecidableEq, Repr

structure ErrorMessage where
  code : ErrorCode
  message : Text
  deriving DecidableEq, Repr

/-- The object representation of a `bool`, which the archive copies like any
    other one-byte scalar. -/
structure BoolByte where
  byte : UInt8
  deriving DecidableEq, Repr

structure CapabilitySetMessage where
  isPingSupported : BoolByte
  isTelemetrySupported : BoolByte
  deriving DecidableEq, Repr

structure TelemetryStartMessage where
  deriving DecidableEq, Repr

structure CpuSampleMessage where
  cpuLoad : FloatBits
  deriving DecidableEq, Repr

structure PingMessage where
  id : UInt32
  deriving DecidableEq, Repr

structure PongMessage where
  id : UInt32
  deriving DecidableEq, Repr

/-- The alternatives stand in the order of the source's `std::variant`. -/
inductive Message where
  | error (m : ErrorMessage)
  | hello (m : HelloMessage)
  | capabilitySet (m : CapabilitySetMessage)
  | telemetryStart (m : TelemetryStartMessage)
  | cpuSample (m : CpuSampleMessage)
  | ping (m : PingMessage)
  | pong (m : PongMessage)
  deriving DecidableEq, Repr

namespace MessageFactory

def makeHello (instanceId : InstanceId) : Message :=
  .hello { protocolVersion := PROTOCOL_VERSION, instanceId := instanceId }

def makeTelemetryStart : Message := .telemetryStart {}

def makeCpuSample (cpuLoad : FloatBits) : Message := .cpuSample { cpuLoad := cpuLoad }

def makePing (id : UInt32) : Message := .ping { id := id }

def makePong (id : UInt32) : Message := .pong { id := id }

def makeError (code : ErrorCode) (message : Text) : Message :=
  .error { code := code, message := message }

/-- `std::format("{:04X}", version)`. -/
def upperHex4 (version : UInt16) : Text :=
  [12, 8, 4, 0].map fun shift =>
    let digit := version.toNat / 2 ^ shift % 16
    (if digit < 10 then 48 + digit else 55 + digit).toUInt8

def makeWrongProtocolVersionError (version : UInt16) : Message :=
  makeError .wrongProtocolVersion
    (text "Unsupported protocol version, required version 0x" ++ upperHex4 version)

def makeUnsupportedMessageTypeError (messageType : Text) : Message :=
  makeError .unsupportedMessageType (text "UnsupportedMessageType: " ++ messageType)

end MessageFactory

/-- The length field of a text has four bytes. -/
def Message.TextFits : Message → Prop
  | .error m => m.message.length < 2 ^ 32
  | _ => True

instance : DecidablePred Message.TextFits
  | .error m => inferInstanceAs (Decidable (m.message.length < 2 ^ 32))
  | .hello _ | .capabilitySet _ | .telemetryStart _ | .cpuSample _ | .ping _ | .pong _ =>
    inferInstanceAs (Decidable True)

example : MessageFactory.upperHex4 PROTOCOL_VERSION = text "0103" := by decide

end RdpExt.ProtocolMessage
