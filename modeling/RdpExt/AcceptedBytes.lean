import RdpExt.ProtocolSerializer

set_option autoImplicit false

/-!
# Which buffers the serializer takes for which message

A buffer is taken for the message whose bytes it begins with, and there is at most
one. Whatever stands behind these bytes is not looked at.
-/
namespace RdpExt.AcceptedBytes
open ProtocolMessage WireFormat ProtocolSerializer

theorem messageWire_fits_iff (m : Message) : messageWire.fits m ↔ m.TextFits := by
  constructor
  · intro fits
    cases m with
    | error m => exact fits.2
    | _ => exact trivial
  · exact messageWire_fits m

section
variable {zpp : ZppBits} (documented : zpp.Documented)
include documented

theorem serialize_ok_iff {m : Message} (h : m.TextFits) {bytes : Buffer} :
    Serializer.serialize zpp m = .ok bytes ↔ messageWire.write m = bytes := by
  rw [serialize_documented documented h, Except.ok.injEq]

/-- A buffer is taken for a message just when it begins with the message's bytes. -/
theorem deserialize_ok_iff {data : Buffer} {m : Message} :
    Serializer.deserialize zpp data = .ok m ↔ m.TextFits ∧ messageWire.write m <+: data := by
  constructor
  · intro accepted
    cases result : messageWire.read data with
    | error fault =>
      obtain ⟨e, failed⟩ := deserialize_fails documented result
      rw [failed] at accepted
      cases accepted
    | ok parsed =>
      obtain ⟨m', rest⟩ := parsed
      rw [deserialize_documented documented result] at accepted
      cases accepted
      obtain ⟨fits, begins⟩ := messageWire.read_sound _ _ _ result
      exact ⟨(messageWire_fits_iff m).mp fits, rest, begins.symm⟩
  · rintro ⟨fits, rest, begins⟩
    have read := messageWire.read_write m rest (messageWire_fits m fits)
    rw [begins] at read
    exact deserialize_documented documented read

theorem deserialize_error_iff {data : Buffer} :
    (∃ e, Serializer.deserialize zpp data = .error e) ↔
      ∀ m : Message, m.TextFits → ¬ messageWire.write m <+: data := by
  constructor
  · rintro ⟨e, failed⟩ m fits begins
    rw [(deserialize_ok_iff documented).mpr ⟨fits, begins⟩] at failed
    cases failed
  · intro none
    cases result : Serializer.deserialize zpp data with
    | error e => exact ⟨e, rfl⟩
    | ok m =>
      obtain ⟨fits, begins⟩ := (deserialize_ok_iff documented).mp result
      exact absurd begins (none m fits)

end

/-- What is accepted begins with the bytes of the message it is taken for, what is not
    accepted begins with the bytes of none. -/
theorem accepted_bytes_begin (zpp : ZppBits) (documented : zpp.Documented) (data : Buffer) :
    (∀ m, Serializer.deserialize zpp data = .ok m ↔
      m.TextFits ∧ ∃ bytes rest, Serializer.serialize zpp m = .ok bytes ∧ data = bytes ++ rest) ∧
    ((∃ e, Serializer.deserialize zpp data = .error e) ↔
      ∀ m bytes, m.TextFits → Serializer.serialize zpp m = .ok bytes → ¬ bytes <+: data) := by
  constructor
  · intro m
    rw [deserialize_ok_iff documented, and_congr_right_iff]
    intro fits
    constructor
    · rintro ⟨rest, begins⟩
      exact ⟨_, rest, serialize_documented documented fits, begins.symm⟩
    · rintro ⟨bytes, rest, encoded, begins⟩
      rw [serialize_ok_iff documented fits] at encoded
      exact ⟨rest, by rw [encoded, begins]⟩
  · rw [deserialize_error_iff documented]
    refine forall_congr' fun m => ?_
    constructor
    · intro none bytes fits encoded
      rw [serialize_ok_iff documented fits] at encoded
      rw [← encoded]
      exact none fits
    · exact fun none fits => none _ fits (serialize_documented documented fits)

theorem accepted_bytes_begin_joined : ∃ bytes rest,
    Serializer.serialize layoutArchives (MessageFactory.makePing 7) = .ok bytes ∧
      messageWire.write (MessageFactory.makePing 7) ++
        messageWire.write (MessageFactory.makePong 9) = bytes ++ rest :=
  (((accepted_bytes_begin layoutArchives layoutArchives_documented _).1
    (MessageFactory.makePing 7)).mp (by rfl)).2

/-- A Ping with a Pong behind it is taken for the Ping alone. -/
theorem trailing_bytes_dropped : ¬ ∀ data m,
    Serializer.deserialize layoutArchives data = .ok m →
      Serializer.serialize layoutArchives m = .ok data := by
  intro canonical
  have joined := canonical (messageWire.write (MessageFactory.makePing 7) ++
    messageWire.write (MessageFactory.makePong 9)) (MessageFactory.makePing 7) (by rfl)
  revert joined
  decide

/-- No part of a message's bytes that lacks their end is accepted, and the bytes of no
    message begin with those of another one. -/
theorem truncation_detected (zpp : ZppBits) (documented : zpp.Documented) (m : Message)
    (fits : m.TextFits) (bytes : Buffer) (encoded : Serializer.serialize zpp m = .ok bytes) :
    (∀ start, start <+: bytes → start ≠ bytes →
      ∃ e, Serializer.deserialize zpp start = .error e) ∧
    (∀ m' bytes', m'.TextFits → Serializer.serialize zpp m' = .ok bytes' → bytes <+: bytes' →
      m = m') := by
  rw [serialize_ok_iff documented fits] at encoded
  constructor
  · rintro start ⟨cut, split⟩ proper
    have missing : cut ≠ [] := by
      rintro rfl
      rw [List.append_nil] at split
      exact proper split
    obtain ⟨fault, unread⟩ := messageWire.read_truncated (messageWire_fits m fits)
      (encoded.trans split.symm) missing
    exact deserialize_fails documented unread
  · rintro m' bytes' fits' encoded' ⟨rest, begins⟩
    rw [serialize_ok_iff documented fits'] at encoded'
    have same : messageWire.write m ++ rest = messageWire.write m' ++ [] := by
      rw [List.append_nil, encoded, encoded', begins]
    exact (messageWire.write_append_inj (messageWire_fits m fits) (messageWire_fits m' fits')
      same).1

/-- An error cut off inside the length field of its text. -/
theorem truncation_detected_error : ∃ e,
    Serializer.deserialize layoutArchives
      ((messageWire.write (.error ⟨.internalError, text "test_error_message"⟩)).take 5) =
        .error e := by
  refine (truncation_detected layoutArchives layoutArchives_documented
    (.error ⟨.internalError, text "test_error_message"⟩) (by decide) _ rfl).1 _
    (List.take_prefix _ _) ?_
  decide

end RdpExt.AcceptedBytes
