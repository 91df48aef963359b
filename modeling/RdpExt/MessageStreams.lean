import RdpExt.AcceptedBytes
import RdpExt.WireStreams

set_option autoImplicit false

/-!
# Messages in a stream of bytes

Nothing but the channel keeps two messages apart: a buffer is read from its front, and
what it has left is dropped.
-/
namespace RdpExt.MessageStreams
open ProtocolMessage WireFormat WireStreams ProtocolSerializer AcceptedBytes InformationTheory

theorem messageWire_written (m : Message) (_fits : messageWire.fits m) : messageWire.write m ≠ [] := by
  cases m <;> exact List.cons_ne_nil _ _

/-- The bytes of one message and no more. -/
def Whole (zpp : ZppBits) (piece : Buffer) : Prop :=
  ∃ m, Serializer.deserialize zpp piece = .ok m ∧ Serializer.serialize zpp m = .ok piece

section
variable {zpp : ZppBits} (documented : zpp.Documented)
include documented

theorem whole_iff {piece : Buffer} :
    Whole zpp piece ↔ ∃ m : Message, m.TextFits ∧ messageWire.write m = piece := by
  constructor
  · rintro ⟨m, read, written⟩
    have fits := ((deserialize_ok_iff documented).mp read).1
    exact ⟨m, fits, (serialize_ok_iff documented fits).mp written⟩
  · rintro ⟨m, fits, rfl⟩
    exact ⟨m, (deserialize_ok_iff documented).mpr ⟨fits, List.prefix_refl _⟩,
      serialize_documented documented fits⟩

/-- Behind buffers that were whole messages, a buffer that is read at all is read as the
    message that is next in the stream. -/
theorem read_next {ms : List Message} (fits : ∀ m ∈ ms, m.TextFits) {pieces : List Buffer}
    (cut : pieces.flatten = stream messageWire ms) {i : ℕ} {piece : Buffer} {m : Message}
    (whole : ∀ j < i, ∀ before, pieces[j]? = some before → Whole zpp before)
    (here : pieces[i]? = some piece) (read : Serializer.deserialize zpp piece = .ok m) :
    ms[i]? = some m := by
  have all : ∀ m ∈ ms, messageWire.fits m := fun m hm => messageWire_fits m (fits m hm)
  induction i generalizing ms pieces with
  | zero =>
    cases pieces with
    | nil => cases here
    | cons first pieces =>
      cases here
      obtain ⟨fit, rest, rfl⟩ := (deserialize_ok_iff documented).mp read
      rw [List.flatten_cons, List.append_assoc] at cut
      obtain ⟨later, rfl, _⟩ :=
        stream_begins messageWire_written (messageWire_fits m fit) all cut.symm
      rfl
  | succ i ih =>
    cases pieces with
    | nil => cases here
    | cons first pieces =>
      obtain ⟨m₀, fit, rfl⟩ := (whole_iff documented).mp (whole 0 (Nat.succ_pos i) first rfl)
      rw [List.flatten_cons] at cut
      obtain ⟨later, rfl, behind⟩ :=
        stream_begins messageWire_written (messageWire_fits m₀ fit) all cut.symm
      exact ih (fun m hm => fits m (List.mem_cons_of_mem _ hm)) behind.symm
        (fun j less before found => whole (j + 1) (Nat.succ_lt_succ less) before found) here
        (fun m hm => all m (List.mem_cons_of_mem _ hm))

theorem begins_of_read {ms : List Message} {pieces : List Buffer}
    (read : pieces.map (Serializer.deserialize zpp) = ms.map .ok) :
    List.Forall₂ (fun m piece => messageWire.write m <+: piece) ms pieces := by
  induction pieces generalizing ms with
  | nil =>
    rw [List.map_eq_nil_iff.mp read.symm]
    exact .nil
  | cons piece pieces ih =>
    cases ms with
    | nil => cases read
    | cons m ms =>
      rw [List.map_cons, List.map_cons, List.cons.injEq] at read
      exact .cons ((deserialize_ok_iff documented).mp read.1).2 (ih read.2)

theorem encoded_iff {ms : List Message} (fits : ∀ m ∈ ms, m.TextFits) {bytes : List Buffer} :
    ms.map (Serializer.serialize zpp) = bytes.map .ok ↔ bytes = ms.map messageWire.write := by
  induction ms generalizing bytes with
  | nil => exact ⟨fun h => List.map_eq_nil_iff.mp h.symm, fun h => by rw [h]; rfl⟩
  | cons m ms ih =>
    cases bytes with
    | nil => exact ⟨nofun, nofun⟩
    | cons buffer bytes =>
      rw [List.map_cons, List.map_cons, List.map_cons, List.cons.injEq, List.cons.injEq,
        ih fun m hm => fits m (List.mem_cons_of_mem _ hm),
        serialize_ok_iff documented (fits m List.mem_cons_self), eq_comm]

end

/-- Messages written one behind the other are told apart by their bytes alone; however a
    channel cuts these into buffers, none is read as another message than the next before
    one has failed or was not a whole message; and all are read as sent only if every
    buffer is a message. -/
theorem stream_read_in_order (zpp : ZppBits) (documented : zpp.Documented) (ms : List Message)
    (fits : ∀ m ∈ ms, m.TextFits) (bytes : List Buffer)
    (encoded : ms.map (Serializer.serialize zpp) = bytes.map .ok) (pieces : List Buffer)
    (cut : pieces.flatten = bytes.flatten) :
    UniquelyDecodable {piece | Whole zpp piece} ∧
    (∀ (i : ℕ) (piece : Buffer) (m : Message),
      (∀ j < i, ∀ before, pieces[j]? = some before → Whole zpp before) →
      pieces[i]? = some piece → Serializer.deserialize zpp piece = .ok m → ms[i]? = some m) ∧
    (pieces.map (Serializer.deserialize zpp) = ms.map .ok ↔ pieces = bytes) := by
  obtain rfl := (encoded_iff documented fits).mp encoded
  refine ⟨?_, fun i piece m whole here read => read_next documented fits cut whole here read, ?_⟩
  · have pieces_written : {piece | Whole zpp piece} =
        {bytes | ∃ m, messageWire.fits m ∧ messageWire.write m = bytes} := by
      ext piece
      exact (whole_iff documented).trans
        (exists_congr fun m => and_congr_left fun _ => (messageWire_fits_iff m).symm)
    rw [pieces_written]
    exact uniquelyDecodable_written messageWire_written
  · constructor
    · exact fun read => pieces_eq (begins_of_read documented read) cut
    · rintro rfl
      rw [List.map_map, List.map_inj_left]
      intro m hm
      exact (deserialize_ok_iff documented).mpr ⟨fits m hm, List.prefix_refl _⟩

theorem stream_read_in_order_joined : ∃ m,
    Serializer.deserialize layoutArchives (messageWire.write (MessageFactory.makePing 7) ++
      messageWire.write (MessageFactory.makePong 9)) = .ok m ∧
      [MessageFactory.makePing 7, MessageFactory.makePong 9][0]? = some m := by
  refine ⟨MessageFactory.makePing 7, by rfl, ?_⟩
  refine (stream_read_in_order layoutArchives layoutArchives_documented
    [MessageFactory.makePing 7, MessageFactory.makePong 9] ?_
    [messageWire.write (MessageFactory.makePing 7), messageWire.write (MessageFactory.makePong 9)]
    (by rfl)
    [messageWire.write (MessageFactory.makePing 7) ++ messageWire.write (MessageFactory.makePong 9)]
    (by rfl)).2.1 0 _ _ nofun rfl (by rfl)
  intro m hm
  rcases List.mem_cons.mp hm with rfl | hm
  · trivial
  · rw [List.mem_singleton.mp hm]
    trivial

end RdpExt.MessageStreams
