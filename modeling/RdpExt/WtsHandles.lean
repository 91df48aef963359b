import RdpExt.HandleLedger

set_option autoImplicit false

/-!
# The owner of a channel's handle: `wts_channel_handle.cpp`

Each function comes with the calls it makes of the WTS API, in their order.
-/
namespace RdpExt.WtsHandles
open HandleLedger

/-- 0 is `nullptr`. -/
abbrev HANDLE := ℕ

def INVALID_HANDLE_VALUE : HANDLE := 0xFFFFFFFFFFFFFFFF

def sizeofHANDLE : ℕ := 8

/-- What a channel's handle is passed for. A read on Windows is made on the file handle
    instead, which is named here too; `answer` is what `queryFileHandle` made of the query. -/
inductive Use where
  | queried (answer : HANDLE)
  | read (file : HANDLE)
  | written
  deriving DecidableEq, Repr

/-- An open that gives `nullptr` opens no handle and leaves no entry. -/
abbrev ApiCall := Act HANDLE Use

/-- How WTSVirtualChannelQuery ends: the handle in the buffer, if there is a buffer. -/
inductive Query where
  | fails
  | returns (buffer : Option HANDLE) (bytesReturned : ℕ)
  deriving DecidableEq, Repr

/-- What WTSVirtualChannelOpen returns, and the query if one is made. -/
structure Opening where
  channelHandle : HANDLE
  query : Query
  deriving DecidableEq, Repr

def queryFileHandle : Query → HANDLE
  | .fails => 0
  | .returns none _ => 0
  | .returns (some fileHandle) bytesReturned =>
    if bytesReturned < sizeofHANDLE then 0
    else if fileHandle = 0 ∨ fileHandle = INVALID_HANDLE_VALUE then 0
    else fileHandle

structure WtsChannelHandle where
  channelHandle : HANDLE := 0
  fileHandle : HANDLE := 0
  deriving DecidableEq, Repr

namespace WtsChannelHandle

def valid (self : WtsChannelHandle) : Bool :=
  self.channelHandle ≠ 0 && self.fileHandle ≠ 0 && self.fileHandle ≠ INVALID_HANDLE_VALUE

def reset (self : WtsChannelHandle) (newChannelHandle newFileHandle : HANDLE) :
    WtsChannelHandle × List ApiCall :=
  (⟨newChannelHandle, newFileHandle⟩,
    if self.channelHandle ≠ 0 then [.closed self.channelHandle] else [])

def destroy (self : WtsChannelHandle) : List ApiCall := (self.reset 0 0).2

/-- The move constructor: the new object, and what it leaves of the other. -/
def moveFrom (other : WtsChannelHandle) : WtsChannelHandle × WtsChannelHandle :=
  (⟨other.channelHandle, other.fileHandle⟩, ⟨0, 0⟩)

/-- The move assignment from another object, and what it leaves of that. -/
def moveAssign (self other : WtsChannelHandle) :
    WtsChannelHandle × WtsChannelHandle × List ApiCall :=
  let released := (self.reset 0 0).2
  let (moved, left) := moveFrom other
  (moved, left, released)

/-- `open`; the object it builds is moved into the optional and then destroyed. -/
def openHandle (opening : Opening) : Option WtsChannelHandle × List ApiCall :=
  if opening.channelHandle = 0 then (none, [])
  else
    let fileHandle := queryFileHandle opening.query
    let queried : List ApiCall :=
      [.opened opening.channelHandle, .used (.queried fileHandle) opening.channelHandle]
    if fileHandle = 0 then (none, queried ++ [.closed opening.channelHandle])
    else
      let (returned, left) := moveFrom ⟨opening.channelHandle, fileHandle⟩
      (some returned, queried ++ left.destroy)

def owned (self : WtsChannelHandle) : List HANDLE :=
  if self.channelHandle ≠ 0 then [self.channelHandle] else []

theorem queryFileHandle_valid {channelHandle : HANDLE} {query : Query}
    (nonnull : channelHandle ≠ 0) (found : queryFileHandle query ≠ 0) :
    (WtsChannelHandle.mk channelHandle (queryFileHandle query)).valid = true := by
  have other : queryFileHandle query ≠ INVALID_HANDLE_VALUE := by
    intro invalid
    cases query with
    | fails => exact found rfl
    | returns buffer bytesReturned =>
      cases buffer with
      | none => exact found rfl
      | some fileHandle =>
        simp only [queryFileHandle] at found invalid
        split_ifs at found invalid with short bad
        · exact found rfl
        · exact found rfl
        · exact bad (.inr invalid)
  simp [valid, nonnull, found, other]

theorem nonnull_of_valid {self : WtsChannelHandle} (valid : self.valid = true) :
    self.channelHandle ≠ 0 := by
  simp only [WtsChannelHandle.valid, ne_eq, Bool.and_eq_true, decide_eq_true_eq] at valid
  exact valid.1.1

theorem destroy_eq (self : WtsChannelHandle) : self.destroy = self.owned.map .closed := by
  unfold destroy reset owned
  split_ifs <;> rfl

@[simp] theorem owned_null : (WtsChannelHandle.mk 0 0).owned = [] := rfl

theorem owned_of_valid {self : WtsChannelHandle} (valid : self.valid = true) :
    self.owned = [self.channelHandle] := if_pos (nonnull_of_valid valid)

theorem owned_length_le (self : WtsChannelHandle) : self.owned.length ≤ 1 := by
  unfold owned
  split_ifs
  · exact le_refl 1
  · exact Nat.zero_le 1

/-- All that an open can do: nothing, open a channel and close it again, or give it to
    the caller. -/
theorem openHandle_cases (opening : Opening) :
    openHandle opening = (none, []) ∨
      (∃ h, openHandle opening = (none, [.opened h, .used (.queried 0) h, .closed h])) ∨
      ∃ handle : WtsChannelHandle, handle.valid = true ∧ openHandle opening =
        (some handle, [.opened handle.channelHandle,
          .used (.queried handle.fileHandle) handle.channelHandle]) := by
  unfold openHandle
  by_cases null : opening.channelHandle = 0
  · rw [if_pos null]
    exact .inl rfl
  rw [if_neg null]
  by_cases unanswered : queryFileHandle opening.query = 0
  · refine .inr (.inl ⟨opening.channelHandle, ?_⟩)
    simp only [unanswered, if_true]
    rfl
  · refine .inr (.inr ⟨_, queryFileHandle_valid null unanswered, ?_⟩)
    simp only [unanswered, if_false]
    rfl

end WtsChannelHandle

end RdpExt.WtsHandles
