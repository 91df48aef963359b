import RdpExt.WtsChannel
import RdpExt.ProtocolSerializer

set_option autoImplicit false

/-!
# Messages the read loop hands on

The loop keeps nothing between two reads: what one read returns is what the bytes
handler gets, be it a message or a piece of one.
-/
namespace RdpExt.WtsReads
open ProtocolMessage ProtocolSerializer WtsChannel WtsTransport

/-- A message as the channel hands it to reads. A read may also return no bytes. -/
structure Delivery where
  pieces : List Buffer
  fits : ∀ piece ∈ pieces, piece.length ≤ READ_BUFFER_SIZE

namespace Delivery

def message (d : Delivery) : Buffer := d.pieces.flatten

def reads (d : Delivery) : List ReadResult := d.pieces.map .reads

def fragments (d : Delivery) : List Buffer := d.pieces.filter fun piece => decide (piece.length > 0)

theorem flatten_fragments (d : Delivery) : d.fragments.flatten = d.message := by
  unfold fragments message
  induction d.pieces with
  | nil => rfl
  | cons piece pieces ih =>
    by_cases some : piece.length > 0
    · rw [List.filter_cons_of_pos (by simpa using some), List.flatten_cons, List.flatten_cons, ih]
    · have none : piece = [] := List.length_eq_zero_iff.mp (by omega)
      rw [List.filter_cons_of_neg (by simpa using some), ih, none, List.flatten_cons,
        List.nil_append]

theorem length_pos_of_mem {d : Delivery} {piece : Buffer} (h : piece ∈ d.fragments) :
    0 < piece.length := of_decide_eq_true (List.mem_filter.mp h).2

/-- One read does not return a message that is longer than its buffer. -/
theorem not_whole_of_long (d : Delivery) (long : READ_BUFFER_SIZE < d.message.length) :
    d.fragments.length ≠ 1 := by
  intro single
  obtain ⟨piece, only⟩ := List.length_eq_one_iff.mp single
  have here : piece ∈ d.pieces := by
    have mem : piece ∈ d.fragments := by
      rw [only]
      exact List.mem_singleton_self piece
    exact (List.mem_filter.mp mem).1
  have bound := d.fits piece here
  rw [← d.flatten_fragments, only, List.flatten_singleton] at long
  omega

end Delivery

theorem readOnce_reads {w : WtsTransport} (usable : w.usable = true) (bytes : Buffer) :
    w.readOnce (.reads bytes) = (w.use.handle bytes, true) := by
  obtain ⟨running, _⟩ := usable_iff.mp usable
  simp [readOnce, usable, running]

theorem usable_handle {w : WtsTransport} (usable : w.usable = true) (bytes : Buffer) :
    (w.use.handle bytes).usable = true := usable

theorem handled_handle (w : WtsTransport) (bytes : Buffer) :
    (w.use.handle bytes).handled =
      w.handled ++ [bytes].filter fun piece => decide (piece.length > 0) := by
  change w.handled ++ (if bytes.length > 0 then [bytes] else []) = _
  by_cases some : bytes.length > 0
  · rw [if_pos some, List.filter_cons_of_pos (by simpa using some), List.filter_nil]
  · rw [if_neg some, List.filter_cons_of_neg (by simpa using some), List.filter_nil]

theorem handled_readLoop {w : WtsTransport} (usable : w.usable = true) (pieces : List Buffer) :
    (w.readLoop (pieces.map .reads)).handled =
      w.handled ++ pieces.filter fun piece => decide (piece.length > 0) := by
  induction pieces generalizing w with
  | nil => exact (List.append_nil _).symm
  | cons piece pieces ih =>
    obtain ⟨running, _⟩ := usable_iff.mp usable
    have once : w.readLoop ((piece :: pieces).map .reads) =
        (w.use.handle piece).readLoop (pieces.map .reads) := by
      simp [readLoop, running, readOnce_reads usable]
    rw [once, ih (usable_handle usable piece), handled_handle, List.append_assoc,
      ← List.filter_append, List.singleton_append]

theorem fragments_eq_messages_iff (messages : List Delivery) :
    messages.flatMap Delivery.fragments = messages.map Delivery.message ↔
      ∀ d ∈ messages, d.fragments.length = 1 := by
  induction messages with
  | nil => exact iff_of_true rfl nofun
  | cons d rest ih =>
    have whole := d.flatten_fragments
    rw [List.flatMap_cons, List.map_cons, List.forall_mem_cons, ← ih]
    match split : d.fragments with
    | [] =>
      -- The message is empty, and no buffer that is handed on is.
      rw [split, List.flatten_nil] at whole
      refine iff_of_false (fun same => ?_) (fun h => absurd h.1 nofun)
      rw [List.nil_append, ← whole] at same
      have empty : [] ∈ rest.flatMap Delivery.fragments := by
        rw [same]
        exact List.mem_cons_self
      obtain ⟨other, _, mem⟩ := List.mem_flatMap.mp empty
      exact absurd (Delivery.length_pos_of_mem mem) (Nat.lt_irrefl 0)
    | [only] =>
      rw [split, List.flatten_singleton] at whole
      rw [List.singleton_append, ← whole, List.cons_inj_right]
      exact ⟨fun same => ⟨rfl, same⟩, And.right⟩
    | first :: second :: more =>
      refine iff_of_false (fun same => ?_) (fun h => absurd h.1 (by simp))
      have positive : 0 < second.length := by
        refine Delivery.length_pos_of_mem (d := d) ?_
        rw [split]
        exact List.mem_cons_of_mem first List.mem_cons_self
      have head : first = d.message := (List.cons.inj same).1
      rw [split, ← head] at whole
      have lengths := congrArg List.length whole
      simp only [List.flatten_cons, List.length_append] at lengths
      omega

/-- The bytes handler gets exactly the messages sent in exactly those runs of the read
    loop where every message is returned by one read alone. -/
theorem messages_handled_iff (w : WtsTransport) (usable : w.usable = true)
    (messages : List Delivery) :
    (w.readLoop (messages.flatMap Delivery.reads)).handled =
        w.handled ++ messages.map Delivery.message ↔
      ∀ d ∈ messages, d.fragments.length = 1 := by
  have reads : messages.flatMap Delivery.reads =
      (messages.flatMap Delivery.pieces).map .reads := by
    rw [List.map_flatMap]
    rfl
  rw [reads, handled_readLoop usable, List.append_right_inj, List.filter_flatMap]
  exact fragments_eq_messages_iff messages

theorem messages_handled_iff_short :
    (firstOpened.readLoop [.reads [3], .reads [], .reads [5, 1, 0, 0, 0]]).handled =
      [[3], [5, 1, 0, 0, 0]] :=
  (messages_handled_iff firstOpened rfl
    [⟨[[3], []], by decide⟩, ⟨[[5, 1, 0, 0, 0]], by decide⟩]).mpr (by decide)

def errorBytes (description : Text) : Buffer :=
  messageWire.write (.error ⟨.internalError, description⟩)

theorem errorBytes_length (description : Text) :
    (errorBytes description).length = description.length + 7 := by
  change (0 :: (WireFormat.littleEndian 2 _ ++
    (WireFormat.littleEndian 4 _ ++ description))).length = _
  simp only [List.length_cons, List.length_append, WireFormat.littleEndian_length]
  omega

/-- An error whose text has 4096 characters takes two reads, and the bytes handler gets
    two buffers. -/
theorem long_error_torn :
    (firstOpened.readLoop [
      .reads ((errorBytes (List.replicate 4096 0x41)).take READ_BUFFER_SIZE),
      .reads ((errorBytes (List.replicate 4096 0x41)).drop READ_BUFFER_SIZE)]).handled ≠
        [errorBytes (List.replicate 4096 0x41)] := by
  have total := errorBytes_length (List.replicate 4096 0x41)
  rw [List.length_replicate] at total
  generalize errorBytes (List.replicate 4096 0x41) = bytes at total ⊢
  have first : (bytes.take READ_BUFFER_SIZE).length > 0 := by
    rw [List.length_take, READ_BUFFER_SIZE]
    omega
  have second : (bytes.drop READ_BUFFER_SIZE).length > 0 := by
    rw [List.length_drop, READ_BUFFER_SIZE]
    omega
  have handled := handled_readLoop (w := firstOpened) rfl
    [bytes.take READ_BUFFER_SIZE, bytes.drop READ_BUFFER_SIZE]
  rw [List.filter_cons_of_pos (by simpa using first), List.filter_cons_of_pos (by simpa using second),
    List.filter_nil] at handled
  intro whole
  rw [List.map_cons, List.map_cons, List.map_nil, whole] at handled
  have lengths := congrArg List.length handled
  cases lengths

end RdpExt.WtsReads
