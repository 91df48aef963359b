import RdpExt.ProtocolMessage

set_option autoImplicit false

/-!
# Data that the RDP client hands over: `mstsc_transport.cpp`

The client delivers a message in chunks, the first and the last of them flagged.
Both handlers collect a chunk in a buffer of their own and pass it on when it is a
last one, so what reaches the bytes handler is the last chunk of each message.
-/
namespace RdpExt.MstscOpenEvents
open ProtocolMessage

def CHANNEL_FLAG_FIRST : UInt32 := 0x01
def CHANNEL_FLAG_LAST : UInt32 := 0x02

/-- A call of an open event handler, by its `event` argument with what the handler
    reads for it. `data` of a write event is the pointer given to that write. -/
inductive OpenEvent where
  | dataReceived (data : Buffer) (totalLength dataFlags : UInt32)
  | writeComplete (data : ℕ)
  | writeCancelled (data : ℕ)
  | other (event : UInt32)
  deriving DecidableEq, Repr

/-- `bytesHandler`: one is set. `pendingWrites`: the addresses of the buffers kept. -/
structure MstscTransport where
  bytesHandler : Bool := false
  pendingWrites : List ℕ := []
  deriving DecidableEq, Repr

/-- The second component: the calls of the bytes handler. -/
def receive (t : MstscTransport) (data : Buffer) (dataFlags : UInt32) : List Buffer :=
  let buffer : Buffer := [] ++ data
  if dataFlags &&& CHANNEL_FLAG_LAST ≠ 0 then
    if t.bytesHandler then [buffer] else []
  else []

def onOpenEvent (t : MstscTransport) : OpenEvent → MstscTransport × List Buffer
  | .dataReceived data _totalLength dataFlags => (t, receive t data dataFlags)
  | .writeComplete _ => (t, [])
  | .writeCancelled _ => (t, [])
  | .other _ => (t, [])

def onOpenEventEx (t : MstscTransport) : OpenEvent → MstscTransport × List Buffer
  | .dataReceived data _totalLength dataFlags => (t, receive t data dataFlags)
  | .writeComplete data => ({ t with pendingWrites := t.pendingWrites.filter (· ≠ data) }, [])
  | .writeCancelled data => ({ t with pendingWrites := t.pendingWrites.filter (· ≠ data) }, [])
  | .other _ => (t, [])

/-- All calls of the bytes handler over a run of events. -/
def handled (onEvent : MstscTransport → OpenEvent → MstscTransport × List Buffer) :
    MstscTransport → List OpenEvent → List Buffer
  | _, [] => []
  | t, event :: events => (onEvent t event).2 ++ handled onEvent (onEvent t event).1 events

/-- A message as it was split. -/
structure Chunks where
  pieces : List Buffer
  nonempty : pieces ≠ []

namespace Chunks

def message (c : Chunks) : Buffer := c.pieces.flatten

def final (c : Chunks) : Buffer := c.pieces.getLast c.nonempty

/-- One event a piece; only the final one carries CHANNEL_FLAG_LAST. -/
def deliver (totalLength : UInt32) : UInt32 → List Buffer → List OpenEvent
  | _, [] => []
  | first, [piece] => [.dataReceived piece totalLength (first ||| CHANNEL_FLAG_LAST)]
  | first, piece :: next :: rest =>
    .dataReceived piece totalLength first :: deliver totalLength 0 (next :: rest)

def events (c : Chunks) : List OpenEvent :=
  deliver (UInt32.ofNat c.message.length) CHANNEL_FLAG_FIRST c.pieces

end Chunks

def Receives (onEvent : MstscTransport → OpenEvent → MstscTransport × List Buffer) : Prop :=
  ∀ t data totalLength dataFlags,
    onEvent t (.dataReceived data totalLength dataFlags) = (t, receive t data dataFlags)

theorem onOpenEvent_receives : Receives onOpenEvent := fun _ _ _ _ => rfl

theorem onOpenEventEx_receives : Receives onOpenEventEx := fun _ _ _ _ => rfl

section
variable {onEvent : MstscTransport → OpenEvent → MstscTransport × List Buffer}

theorem handled_deliver (receives : Receives onEvent) (pending : List ℕ) (totalLength : UInt32)
    {first : UInt32} (hfirst : first = 0 ∨ first = CHANNEL_FLAG_FIRST) (pieces : List Buffer)
    (nonempty : pieces ≠ []) (later : List OpenEvent) :
    handled onEvent ⟨true, pending⟩ (Chunks.deliver totalLength first pieces ++ later) =
      pieces.getLast nonempty :: handled onEvent ⟨true, pending⟩ later := by
  induction pieces generalizing first with
  | nil => exact absurd rfl nonempty
  | cons piece rest ih =>
    cases rest with
    | nil =>
      have last : (first ||| CHANNEL_FLAG_LAST) &&& CHANNEL_FLAG_LAST ≠ 0 := by
        rcases hfirst with rfl | rfl <;> decide
      have passed : onEvent ⟨true, pending⟩ (.dataReceived piece totalLength
          (first ||| CHANNEL_FLAG_LAST)) = (⟨true, pending⟩, [piece]) := by
        rw [receives, receive, if_pos last]
        rfl
      simp only [Chunks.deliver, List.cons_append, List.nil_append, handled, passed,
        List.getLast_singleton]
    | cons next rest =>
      have inner : ¬ first &&& CHANNEL_FLAG_LAST ≠ 0 := by
        rcases hfirst with rfl | rfl <;> decide
      have dropped : onEvent ⟨true, pending⟩ (.dataReceived piece totalLength first) =
          (⟨true, pending⟩, []) := by
        rw [receives, receive, if_neg inner]
      simp only [Chunks.deliver, List.cons_append, handled, dropped, List.nil_append]
      rw [ih (.inl rfl) (List.cons_ne_nil _ _), List.getLast_cons_cons]

/-- What reaches the bytes handler: the final piece of each message. -/
theorem handled_events (receives : Receives onEvent) (pending : List ℕ) (messages : List Chunks) :
    handled onEvent ⟨true, pending⟩ (messages.flatMap Chunks.events) =
      messages.map Chunks.final := by
  induction messages with
  | nil => rfl
  | cons c rest ih =>
    have one := handled_deliver receives pending (UInt32.ofNat c.message.length) (.inr rfl)
      c.pieces c.nonempty (rest.flatMap Chunks.events)
    rw [List.flatMap_cons, List.map_cons, ← ih]
    exact one

end

def Chunks.DataInFinal (c : Chunks) : Prop := ∀ piece ∈ c.pieces.dropLast, piece = []

theorem Chunks.final_eq_message_iff (c : Chunks) : c.final = c.message ↔ c.DataInFinal := by
  have split : c.message = c.pieces.dropLast.flatten ++ c.final := by
    have joined := congrArg List.flatten (List.dropLast_concat_getLast c.nonempty)
    rw [List.flatten_append, List.flatten_singleton] at joined
    exact joined.symm
  rw [split, List.self_eq_append_left, List.flatten_eq_nil_iff]
  rfl

/-- Both handlers pass on every message whole in exactly those runs where no message
    has data in front of its final chunk. -/
theorem chunks_reassembled_iff (pending : List ℕ) (messages : List Chunks) :
    (handled onOpenEvent ⟨true, pending⟩ (messages.flatMap Chunks.events) =
        messages.map Chunks.message ↔ ∀ c ∈ messages, c.DataInFinal) ∧
      (handled onOpenEventEx ⟨true, pending⟩ (messages.flatMap Chunks.events) =
        messages.map Chunks.message ↔ ∀ c ∈ messages, c.DataInFinal) := by
  rw [handled_events onOpenEvent_receives, handled_events onOpenEventEx_receives, and_self,
    List.map_inj_left]
  exact forall₂_congr fun c _ => c.final_eq_message_iff

/-- A message in two chunks arrives as its second half. -/
theorem two_chunks_torn :
    handled onOpenEvent { bytesHandler := true } (Chunks.events ⟨[[1, 2], [3]], by decide⟩) ≠
        [[1, 2, 3]] ∧
      handled onOpenEventEx { bytesHandler := true } (Chunks.events ⟨[[1, 2], [3]], by decide⟩) ≠
        [[1, 2, 3]] := by
  decide

end RdpExt.MstscOpenEvents
