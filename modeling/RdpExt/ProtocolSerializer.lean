import RdpExt.ProtocolMessage
import RdpExt.WireFormat

set_option autoImplicit false

/-!
# The serializer

`serializer.cpp` over the zpp_bits archives. The archives are a parameter; what
the code relies on of them is `ZppBits.Documented`, which speaks of the byte
layout only. That the two directions fit together is proved from the layout.
-/
namespace RdpExt.ProtocolSerializer
open ProtocolMessage WireFormat

def uint8Wire : Wire UInt8 :=
  word 1 UInt8.toNat Nat.toUInt8 (fun a => a.toNat_lt) (fun a => by simp)
    (fun n h => by simp; omega)

def uint16Wire : Wire UInt16 :=
  word 2 UInt16.toNat Nat.toUInt16 (fun a => a.toNat_lt) (fun a => by simp)
    (fun n h => by simp; omega)

def uint32Wire : Wire UInt32 :=
  word 4 UInt32.toNat Nat.toUInt32 (fun a => a.toNat_lt) (fun a => by simp)
    (fun n h => by simp; omega)

def uint64Wire : Wire UInt64 :=
  word 8 UInt64.toNat Nat.toUInt64 (fun a => a.toNat_lt) (fun a => by simp)
    (fun n h => by simp; omega)

def boolWire : Wire BoolByte :=
  uint8Wire.via BoolByte.mk BoolByte.byte (fun _ => rfl) (fun _ => rfl)

def instanceIdWire : Wire InstanceId :=
  (uint64Wire.pair uint32Wire).via (fun p => ⟨p.1, p.2⟩) (fun a => (a.timestamp, a.id))
    (fun _ => rfl) (fun _ => rfl)

def errorWire : Wire ErrorMessage :=
  (uint16Wire.pair countedBytes).via (fun p => ⟨⟨p.1⟩, p.2⟩) (fun m => (m.code.value, m.message))
    (fun _ => rfl) (fun _ => rfl)

def helloWire : Wire HelloMessage :=
  (uint16Wire.pair instanceIdWire).via (fun p => ⟨p.1, p.2⟩)
    (fun m => (m.protocolVersion, m.instanceId)) (fun _ => rfl) (fun _ => rfl)

def capabilitySetWire : Wire CapabilitySetMessage :=
  (boolWire.pair boolWire).via (fun p => ⟨p.1, p.2⟩)
    (fun m => (m.isPingSupported, m.isTelemetrySupported)) (fun _ => rfl) (fun _ => rfl)

def telemetryStartWire : Wire TelemetryStartMessage := nothing {} (fun _ => rfl)

def cpuSampleWire : Wire CpuSampleMessage :=
  uint32Wire.via CpuSampleMessage.mk CpuSampleMessage.cpuLoad (fun _ => rfl) (fun _ => rfl)

def pingWire : Wire PingMessage :=
  uint32Wire.via PingMessage.mk PingMessage.id (fun _ => rfl) (fun _ => rfl)

def pongWire : Wire PongMessage :=
  uint32Wire.via PongMessage.mk PongMessage.id (fun _ => rfl) (fun _ => rfl)

/-- The alternatives of the variant by index. -/
def Alternative : Fin 7 → Type
  | 0 => ErrorMessage
  | 1 => HelloMessage
  | 2 => CapabilitySetMessage
  | 3 => TelemetryStartMessage
  | 4 => CpuSampleMessage
  | 5 => PingMessage
  | 6 => PongMessage

def alternativeWire : ∀ i, Wire (Alternative i)
  | 0 => errorWire
  | 1 => helloWire
  | 2 => capabilitySetWire
  | 3 => telemetryStartWire
  | 4 => cpuSampleWire
  | 5 => pingWire
  | 6 => pongWire

def ofAlternative : (i : Fin 7) × Alternative i → Message
  | ⟨0, m⟩ => .error m
  | ⟨1, m⟩ => .hello m
  | ⟨2, m⟩ => .capabilitySet m
  | ⟨3, m⟩ => .telemetryStart m
  | ⟨4, m⟩ => .cpuSample m
  | ⟨5, m⟩ => .ping m
  | ⟨6, m⟩ => .pong m

def toAlternative : Message → (i : Fin 7) × Alternative i
  | .error m => ⟨0, m⟩
  | .hello m => ⟨1, m⟩
  | .capabilitySet m => ⟨2, m⟩
  | .telemetryStart m => ⟨3, m⟩
  | .cpuSample m => ⟨4, m⟩
  | .ping m => ⟨5, m⟩
  | .pong m => ⟨6, m⟩

theorem ofAlternative_toAlternative (m : Message) : ofAlternative (toAlternative m) = m := by
  cases m <;> rfl

theorem toAlternative_ofAlternative (v : (i : Fin 7) × Alternative i) :
    toAlternative (ofAlternative v) = v := by
  obtain ⟨i, m⟩ := v
  match i, m with
  | 0, _ | 1, _ | 2, _ | 3, _ | 4, _ | 5, _ | 6, _ => rfl

def messageWire : Wire Message :=
  (tagged 7 (by decide) Alternative alternativeWire).via ofAlternative toAlternative
    ofAlternative_toAlternative toAlternative_ofAlternative

theorem messageWire_fits (m : Message) (h : m.TextFits) : messageWire.fits m := by
  cases m with
  | error m => exact ⟨trivial, h⟩
  | hello m => exact ⟨trivial, trivial, trivial⟩
  | capabilitySet m => exact ⟨trivial, trivial⟩
  | telemetryStart m => exact trivial
  | cpuSample m => exact trivial
  | ping m => exact trivial
  | pong m => exact trivial

/-- `std::errc`, known by the text `std::make_error_code` gives it. -/
structure Errc where
  message : Text
  deriving DecidableEq, Repr

/-- The archives at `Message`: `archiveOut` takes the content the vector has
    when the archive is built on it and gives its content afterwards. -/
structure ZppBits where
  archiveOut : Buffer → Message → Except Errc Buffer
  archiveIn : Buffer → Except Errc Message

structure ZppBits.Documented (zpp : ZppBits) : Prop where
  /-- Writes from position 0 and resizes the vector to what it wrote. -/
  out_writes : ∀ prior m, m.TextFits → zpp.archiveOut prior m = .ok (messageWire.write m)
  /-- Whatever follows the last byte read is left unread. -/
  in_reads : ∀ data m rest, messageWire.read data = .ok (m, rest) → zpp.archiveIn data = .ok m
  in_fails : ∀ data fault, messageWire.read data = .error fault →
    ∃ e, zpp.archiveIn data = .error e

/-- The exception, by what `what()` returns. -/
structure SerializationError where
  what : Text
  deriving DecidableEq, Repr

namespace Serializer

def serialize (zpp : ZppBits) (message : Message) : Except SerializationError Buffer :=
  match zpp.archiveOut [] message with
  | .ok data => .ok data
  | .error result => .error ⟨text "Serialization failed: " ++ result.message⟩

/-- The overload that fills the caller's buffer, which it clears first. -/
def serializeInto (zpp : ZppBits) (message : Message) (buffer : Buffer) :
    Except SerializationError Buffer :=
  let cleared := buffer.take 0
  match zpp.archiveOut cleared message with
  | .ok data => .ok data
  | .error result => .error ⟨text "Serialization failed: " ++ result.message⟩

def deserialize (zpp : ZppBits) (data : Buffer) : Except SerializationError Message :=
  match zpp.archiveIn data with
  | .ok message => .ok message
  | .error result => .error ⟨text "Deserialization failed: " ++ result.message⟩

end Serializer

section
variable {zpp : ZppBits} (documented : zpp.Documented)
include documented

theorem serialize_documented {m : Message} (h : m.TextFits) :
    Serializer.serialize zpp m = .ok (messageWire.write m) := by
  simp only [Serializer.serialize, documented.out_writes [] m h]

theorem serializeInto_documented {m : Message} (h : m.TextFits) (buffer : Buffer) :
    Serializer.serializeInto zpp m buffer = .ok (messageWire.write m) := by
  simp only [Serializer.serializeInto, documented.out_writes _ m h]

theorem deserialize_documented {data rest : Buffer} {m : Message}
    (h : messageWire.read data = .ok (m, rest)) :
    Serializer.deserialize zpp data = .ok m := by
  simp only [Serializer.deserialize, documented.in_reads data m rest h]

theorem deserialize_fails {data : Buffer} {fault : ReadFault}
    (h : messageWire.read data = .error fault) : ∃ e, Serializer.deserialize zpp data = .error e := by
  obtain ⟨e, failed⟩ := documented.in_fails data fault h
  refine ⟨⟨text "Deserialization failed: " ++ e.message⟩, ?_⟩
  simp only [Serializer.deserialize, failed]

end

/-- Both encoders produce the same bytes whatever the buffer held before, and
    decoding them gives the message back. -/
theorem serialize_round_trip (zpp : ZppBits) (documented : zpp.Documented) (m : Message)
    (h : m.TextFits) (buffer : Buffer) : ∃ bytes,
    Serializer.serialize zpp m = .ok bytes ∧
      Serializer.serializeInto zpp m buffer = .ok bytes ∧
      Serializer.deserialize zpp bytes = .ok m := by
  refine ⟨messageWire.write m, serialize_documented documented h,
    serializeInto_documented documented h buffer, ?_⟩
  exact deserialize_documented documented (messageWire.read_own m (messageWire_fits m h))

/-- The archives as documented, with the texts of the usual C++ runtime. -/
def layoutArchives : ZppBits where
  archiveOut _ m := .ok (messageWire.write m)
  archiveIn data :=
    match messageWire.read data with
    | .ok (m, _) => .ok m
    | .error .shortInput => .error ⟨text "Numerical result out of range"⟩
    | .error .badIndex => .error ⟨text "Bad message"⟩

theorem layoutArchives_documented : layoutArchives.Documented where
  out_writes _ _ _ := rfl
  in_reads data m rest h := by simp only [layoutArchives, h]
  in_fails data fault h := by
    cases fault with
    | shortInput => exact ⟨⟨text "Numerical result out of range"⟩, by simp only [layoutArchives, h]⟩
    | badIndex => exact ⟨⟨text "Bad message"⟩, by simp only [layoutArchives, h]⟩

/-- The error message of the tests' mock data, over a buffer that held more. -/
theorem serialize_round_trip_error : ∃ bytes,
    Serializer.serialize layoutArchives
        (.error ⟨.internalError, text "test_error_message"⟩) = .ok bytes ∧
      Serializer.serializeInto layoutArchives
        (.error ⟨.internalError, text "test_error_message"⟩) (List.replicate 64 0xff) = .ok bytes ∧
      Serializer.deserialize layoutArchives bytes =
        .ok (.error ⟨.internalError, text "test_error_message"⟩) :=
  serialize_round_trip layoutArchives layoutArchives_documented _ (by decide) _

example : messageWire.write (.ping ⟨0x12345678⟩) = [5, 0x78, 0x56, 0x34, 0x12] := by decide

end RdpExt.ProtocolSerializer
