import RdpExt.MstscOpenEvents
import RdpExt.TraceInvariant
import Mathlib.Data.List.Perm.Basic
import Mathlib.Data.List.Nodup

set_option autoImplicit false

/-!
# Buffers of asynchronous writes: `MstscTransport::send`

A write call is accepted or rejected at once and ends later with an event that carries
the user data it was given. Both variants pass none, so neither can tell which write
an event is about.
-/
namespace RdpExt.MstscWrites
open ProtocolMessage MstscOpenEvents TraceInvariant

inductive Variant where
  | windows
  | freerdp
  deriving DecidableEq, Repr

def nullptr : ℕ := 0

/-- A call of pVirtualChannelWrite or pVirtualChannelWriteEx: where its buffer is, the
    length, and the user data. -/
structure Write where
  buffer : ℕ
  length : UInt32
  userData : ℕ
  deriving DecidableEq, Repr

def emplace (pending : List ℕ) (buffer : ℕ) : List ℕ :=
  if buffer ∈ pending then pending else pending ++ [buffer]

def erase (pending : List ℕ) (buffer : ℕ) : List ℕ := pending.filter (· ≠ buffer)

/-- `address` is where the buffer is: on Windows the caller's own, else a new one. -/
def send (variant : Variant) (t : MstscTransport) (address : ℕ) (bytes : Buffer)
    (accepted : Bool) : MstscTransport × Write :=
  let write : Write := ⟨address, UInt32.ofNat bytes.length, nullptr⟩
  match variant with
  | .windows => (t, write)
  | .freerdp =>
    let kept := emplace t.pendingWrites address
    if accepted then ({ t with pendingWrites := kept }, write)
    else ({ t with pendingWrites := erase kept address }, write)

def onEvent : Variant → MstscTransport → OpenEvent → MstscTransport × List Buffer
  | .windows => onOpenEvent
  | .freerdp => onOpenEventEx

/-- `outstanding`: the accepted writes that have not ended. -/
structure Writing where
  transport : MstscTransport := {}
  outstanding : List Write := []
  deriving DecidableEq, Repr

/-- A send with the answer to its write call, and the end of an outstanding write. -/
inductive WriteEvent where
  | send (address : ℕ) (bytes : Buffer) (accepted : Bool)
  | ended (index : ℕ) (cancelled : Bool)
  deriving DecidableEq, Repr

/-- No buffer is at null, or where another one is kept. -/
def Writing.Free (s : Writing) (address : ℕ) : Prop :=
  address ≠ nullptr ∧ address ∉ s.transport.pendingWrites

instance (s : Writing) (address : ℕ) : Decidable (s.Free address) :=
  inferInstanceAs (Decidable (_ ∧ _))

def endOf (write : Write) (cancelled : Bool) : OpenEvent :=
  if cancelled then .writeCancelled write.userData else .writeComplete write.userData

/-- What cannot happen, a buffer that is not free or the end of no write, changes nothing. -/
def step (variant : Variant) (s : Writing) : WriteEvent → Writing
  | .send address bytes accepted =>
    if s.Free address then
      let (transport, write) := send variant s.transport address bytes accepted
      { transport, outstanding := s.outstanding ++ if accepted then [write] else [] }
    else s
  | .ended index cancelled =>
    match s.outstanding[index]? with
    | some write =>
      { transport := (onEvent variant s.transport (endOf write cancelled)).1
        outstanding := s.outstanding.eraseIdx index }
    | none => s

def Writing.buffers (s : Writing) : List ℕ := s.outstanding.map Write.buffer

/-- The buffers kept are those of the outstanding writes. -/
def Exact (s : Writing) : Prop :=
  (∀ buffer ∈ s.buffers, buffer ∈ s.transport.pendingWrites) ∧
    ∀ buffer ∈ s.transport.pendingWrites, buffer ∈ s.buffers

instance (s : Writing) : Decidable (Exact s) := inferInstanceAs (Decidable (_ ∧ _))

/-- On Windows no write is accepted, with FreeRDP none ends. -/
def Spares (s : Writing) : Variant → WriteEvent → Prop
  | .windows, .send address _ accepted => s.Free address → accepted = false
  | .windows, .ended _ _ => True
  | .freerdp, .send _ _ _ => True
  | .freerdp, .ended index _ => s.outstanding.length ≤ index

@[simp] theorem mem_emplace {pending : List ℕ} {buffer x : ℕ} :
    x ∈ emplace pending buffer ↔ x ∈ pending ∨ x = buffer := by
  unfold emplace
  split_ifs with kept
  · constructor
    · exact .inl
    · rintro (old | rfl)
      · exact old
      · exact kept
  · rw [List.mem_append, List.mem_singleton]

theorem erase_of_not_mem {pending : List ℕ} {buffer : ℕ} (h : buffer ∉ pending) :
    erase pending buffer = pending := by
  unfold erase
  rw [List.filter_eq_self]
  intro x hx
  rw [decide_eq_true_iff]
  rintro rfl
  exact h hx

def KeepsNone (s : Writing) : Prop := s.transport.pendingWrites = []

theorem onOpenEvent_transport (t : MstscTransport) (event : OpenEvent) :
    (onOpenEvent t event).1 = t := by
  cases event <;> rfl

theorem keepsNone_step (s : Writing) (event : WriteEvent) (h : KeepsNone s) :
    KeepsNone (step .windows s event) := by
  cases event with
  | send address bytes accepted =>
    simp only [step]
    split_ifs <;> exact h
  | ended index cancelled =>
    simp only [step]
    cases s.outstanding[index]? with
    | none => exact h
    | some write =>
      change (onOpenEvent s.transport _).1.pendingWrites = []
      rw [onOpenEvent_transport]
      exact h

theorem KeepsNone.exact_iff {s : Writing} (h : KeepsNone s) : Exact s ↔ s.outstanding = [] := by
  unfold Exact Writing.buffers
  rw [h]
  constructor
  · rintro ⟨kept, _⟩
    cases outstanding : s.outstanding with
    | nil => rfl
    | cons write rest =>
      rw [outstanding] at kept
      exact absurd (kept write.buffer List.mem_cons_self) List.not_mem_nil
  · intro none
    rw [none]
    exact ⟨nofun, nofun⟩

theorem exact_step_windows (s : Writing) (event : WriteEvent) (base : KeepsNone s)
    (h : Exact s) : Exact (step .windows s event) ↔ Spares s .windows event := by
  have none := base.exact_iff.mp h
  rw [(keepsNone_step s event base).exact_iff]
  cases event with
  | send address bytes accepted =>
    simp only [step, Spares]
    by_cases free : s.Free address
    · cases accepted with
      | false => simp [free, none]
      | true => simp [free]
    · simp [free, none]
  | ended index cancelled => simp [step, Spares, none]

/-- What the FreeRDP variant keeps in every run: the events carry null, and every
    outstanding write has a buffer of its own that is kept. -/
structure Keyless (s : Writing) : Prop where
  userData : ∀ write ∈ s.outstanding, write.userData = nullptr
  null : nullptr ∉ s.transport.pendingWrites
  distinct : s.buffers.Nodup
  kept : ∀ buffer ∈ s.buffers, buffer ∈ s.transport.pendingWrites

/-- The event of a write erases null, so it releases nothing. -/
theorem Keyless.ended {s : Writing} (h : Keyless s) {write : Write}
    (outstanding : write ∈ s.outstanding) (cancelled : Bool) :
    (onOpenEventEx s.transport (endOf write cancelled)).1 = s.transport := by
  have erased : (onOpenEventEx s.transport (endOf write cancelled)).1 =
      { s.transport with pendingWrites := erase s.transport.pendingWrites write.userData } := by
    cases cancelled <;> rfl
  rw [erased, h.userData write outstanding, erase_of_not_mem h.null]

theorem Keyless.accepted {s : Writing} (h : Keyless s) {address : ℕ} (free : s.Free address)
    (length : UInt32) :
    Keyless
      { transport := { s.transport with pendingWrites := emplace s.transport.pendingWrites address }
        outstanding := s.outstanding ++ [⟨address, length, nullptr⟩] } := by
  have fresh : address ∉ s.buffers := fun old => free.2 (h.kept address old)
  refine ⟨?_, ?_, ?_, ?_⟩
  · intro write hw
    rcases List.mem_append.mp hw with old | new
    · exact h.userData write old
    · rw [List.mem_singleton.mp new]
  · change nullptr ∉ emplace _ _
    rw [mem_emplace]
    rintro (old | new)
    · exact h.null old
    · exact free.1 new.symm
  · change ((s.outstanding ++ [_]).map Write.buffer).Nodup
    rw [List.map_append, List.nodup_append]
    refine ⟨h.distinct, by simp, ?_⟩
    rintro old hold _ hnew rfl
    rw [List.map_singleton, List.mem_singleton] at hnew
    change old = address at hnew
    rw [hnew] at hold
    exact fresh hold
  · intro buffer hb
    change buffer ∈ (s.outstanding ++ [_]).map Write.buffer at hb
    change buffer ∈ emplace _ _
    rw [mem_emplace]
    rw [List.map_append, List.mem_append, List.map_singleton, List.mem_singleton] at hb
    exact hb.imp_left (h.kept buffer)

theorem Keyless.rejected {s : Writing} {address : ℕ} (free : s.Free address) (bytes : Buffer) :
    step .freerdp s (.send address bytes false) = s := by
  have back : erase (emplace s.transport.pendingWrites address) address =
      s.transport.pendingWrites := by
    unfold emplace erase
    rw [if_neg free.2, List.filter_append]
    have same := erase_of_not_mem free.2
    unfold erase at same
    rw [same]
    simp
  simp [step, free, send, back]

theorem keyless_step (s : Writing) (event : WriteEvent) (h : Keyless s) :
    Keyless (step .freerdp s event) := by
  cases event with
  | send address bytes accepted =>
    by_cases free : s.Free address
    · cases accepted with
      | false =>
        rw [Keyless.rejected free bytes]
        exact h
      | true =>
        simp only [step, if_pos free]
        exact h.accepted free _
    · simp only [step, if_neg free]
      exact h
  | ended index cancelled =>
    simp only [step]
    cases found : s.outstanding[index]? with
    | none => exact h
    | some write =>
      have sublist := List.eraseIdx_sublist s.outstanding index
      have fewer := sublist.map Write.buffer
      change Keyless ⟨(onOpenEventEx s.transport (endOf write cancelled)).1, _⟩
      rw [h.ended (List.mem_of_getElem? found) cancelled]
      exact ⟨fun w hw => h.userData w (sublist.subset hw), h.null, h.distinct.sublist fewer,
        fun buffer hb => h.kept buffer (fewer.subset hb)⟩

theorem exact_step_freerdp (s : Writing) (event : WriteEvent) (base : Keyless s) (h : Exact s) :
    Exact (step .freerdp s event) ↔ Spares s .freerdp event := by
  cases event with
  | send address bytes accepted =>
    refine iff_of_true ?_ trivial
    by_cases free : s.Free address
    · cases accepted with
      | false =>
        rw [Keyless.rejected free bytes]
        exact h
      | true =>
        have kept := (base.accepted free (UInt32.ofNat bytes.length)).kept
        simp only [step, if_pos free]
        refine ⟨kept, fun buffer hb => ?_⟩
        change buffer ∈ emplace _ _ at hb
        change buffer ∈ (s.outstanding ++ [_]).map Write.buffer
        rw [mem_emplace] at hb
        rw [List.map_append, List.mem_append, List.map_singleton, List.mem_singleton]
        exact hb.imp_left (h.2 buffer)
    · simp only [step, if_neg free]
      exact h
  | ended index cancelled =>
    simp only [step, Spares]
    cases found : s.outstanding[index]? with
    | none => exact iff_of_true h (List.getElem?_eq_none_iff.mp found)
    | some write =>
      have outstanding := List.mem_of_getElem? found
      obtain ⟨bound, here⟩ := List.getElem?_eq_some_iff.mp found
      refine iff_of_false (fun after => ?_) (by omega)
      change Exact ⟨(onOpenEventEx s.transport (endOf write cancelled)).1, _⟩ at after
      rw [base.ended outstanding cancelled] at after
      -- Its buffer is still kept, and belongs to no other write.
      have left : write.buffer ∈ (s.outstanding.eraseIdx index).map Write.buffer :=
        after.2 _ (base.kept _ (List.mem_map_of_mem outstanding))
      have whole := (List.getElem_cons_eraseIdx_perm bound).map Write.buffer
      have distinct := whole.nodup_iff.mpr base.distinct
      rw [here, List.map_cons, List.nodup_cons] at distinct
      exact distinct.1 left

/-- Exactly the buffers of the outstanding writes are kept in exactly those runs where,
    on Windows, no write is accepted and, with FreeRDP, no accepted write ends. -/
theorem pending_writes_exact_iff (variant : Variant) (trace : List WriteEvent) :
    Throughout (step variant) Exact {} trace ↔
      EveryStep (step variant) (fun s event => Spares s variant event) {} trace := by
  have start : Exact {} := by decide
  cases variant with
  | windows =>
    have none : KeepsNone {} := rfl
    exact throughout_iff_everyStep KeepsNone keepsNone_step exact_step_windows none start trace
  | freerdp =>
    have keyless : Keyless {} :=
      { userData := nofun, null := nofun, distinct := List.nodup_nil, kept := start.1 }
    exact throughout_iff_everyStep Keyless keyless_step exact_step_freerdp keyless start trace

/-- A Windows write whose buffer is not kept, and a FreeRDP buffer kept after its write
    is complete. -/
theorem write_buffers_misplaced :
    ¬ Throughout (step .windows) Exact {} [.send 16 [1, 2, 3] true] ∧
      ¬ Throughout (step .freerdp) Exact {} [.send 16 [1, 2, 3] true, .ended 0 false] := by
  constructor
  · intro h
    have last := h _ (List.prefix_refl _)
    revert last
    decide
  · intro h
    have last := h _ (List.prefix_refl _)
    revert last
    decide

end RdpExt.MstscWrites
