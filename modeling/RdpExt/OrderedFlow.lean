import Mathlib.Data.List.Basic

set_option autoImplicit false

/-!
# What passes through a queue

What a queue held and what entered it has left it or is held in it now, in this order,
but for what was lost. Flows follow each other in time, and one queue may feed another.
-/
namespace RdpExt.OrderedFlow

variable {α β : Type}

/-- Nothing is lost where `whole` holds. -/
structure Flow (whole : Prop) (before entered left after : List α) : Prop where
  ordered : (left ++ after).Sublist (before ++ entered)
  complete : whole → left ++ after = before ++ entered

namespace Flow

variable {whole : Prop} {before entered left after : List α}

theorem exact (same : left ++ after = before ++ entered) : Flow whole before entered left after :=
  ⟨same ▸ List.Sublist.refl _, fun _ => same⟩

theorem idle (held : List α) : Flow whole held [] [] held := exact (List.append_nil held).symm

theorem enters (held new : List α) : Flow whole held new [] (held ++ new) := exact rfl

theorem leaves (first held : List α) : Flow whole (first ++ held) [] first held :=
  exact (List.append_nil _).symm

theorem loses {held kept : List α} (sub : kept.Sublist held) : Flow False held [] [] kept :=
  ⟨by rw [List.append_nil]; exact sub, False.elim⟩

theorem weaken {whole' : Prop} (less : whole' → whole) (h : Flow whole before entered left after) :
    Flow whole' before entered left after := ⟨h.ordered, fun here => h.complete (less here)⟩

theorem filterMap (f : α → Option β) (h : Flow whole before entered left after) :
    Flow whole (before.filterMap f) (entered.filterMap f) (left.filterMap f)
      (after.filterMap f) := by
  constructor
  · rw [← List.filterMap_append, ← List.filterMap_append]
    exact h.ordered.filterMap f
  · intro here
    rw [← List.filterMap_append, ← List.filterMap_append, h.complete here]

theorem trans {entered' left' later : List α} (h : Flow whole before entered left after)
    (h' : Flow whole after entered' left' later) :
    Flow whole before (entered ++ entered') (left ++ left') later := by
  constructor
  · rw [List.append_assoc, ← List.append_assoc before]
    refine (h'.ordered.append_left left).trans ?_
    rw [← List.append_assoc]
    exact h.ordered.append_right entered'
  · intro here
    rw [List.append_assoc, h'.complete here, ← List.append_assoc, h.complete here,
      List.append_assoc]

section
variable {later : List α} (h : Flow whole before entered left after)
include h

theorem then_enters {entered' : List α} (h' : Flow whole after entered' [] later) :
    Flow whole before (entered ++ entered') left later := by
  rw [← List.append_nil left]
  exact h.trans h'

theorem then_leaves {left' : List α} (h' : Flow whole after [] left' later) :
    Flow whole before entered (left ++ left') later := by
  rw [← List.append_nil entered]
  exact h.trans h'

theorem then_stays (h' : Flow whole after [] [] later) : Flow whole before entered left later := by
  rw [← List.append_nil entered]
  exact h.then_enters h'

end

/-- What leaves one queue enters the next. -/
theorem join {before' left' after' : List α} (h : Flow whole before entered left after)
    (h' : Flow whole before' left left' after') :
    Flow whole (before' ++ before) entered left' (after' ++ after) := by
  constructor
  · rw [← List.append_assoc]
    refine (h'.ordered.append_right after).trans ?_
    rw [List.append_assoc, List.append_assoc]
    exact h.ordered.append_left before'
  · intro here
    rw [← List.append_assoc, h'.complete here, List.append_assoc, h.complete here,
      List.append_assoc]

end Flow

end RdpExt.OrderedFlow
