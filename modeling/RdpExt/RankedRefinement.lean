import Mathlib.Logic.Relation
import Mathlib.Order.WellFounded

set_option autoImplicit false

/-!
# Refinement of one step relation by another, with a rank

A step below is answered by steps above, possibly by none. Where a rank falls with
every step below, the runs below are bounded, and each can be carried on to its end.
-/
namespace RdpExt.RankedRefinement

variable {α β : Type}

/-- Every step from a state related to one above ends in a state related to one that
    steps above lead to. -/
def Answers (step : α → α → Prop) (above : β → β → Prop) (R : α → β → Prop) : Prop :=
  ∀ ⦃a a' b⦄, R a b → step a a' → ∃ b', Relation.ReflTransGen above b b' ∧ R a' b'

theorem Answers.run {step : α → α → Prop} {above : β → β → Prop} {R : α → β → Prop}
    (answers : Answers step above R) {a a' : α} {b : β} (related : R a b)
    (run : Relation.ReflTransGen step a a') :
    ∃ b', Relation.ReflTransGen above b b' ∧ R a' b' := by
  induction run with
  | refl => exact ⟨b, .refl, related⟩
  | tail _ last ih =>
    obtain ⟨b₁, first, related₁⟩ := ih
    obtain ⟨b₂, second, related₂⟩ := answers related₁ last
    exact ⟨b₂, first.trans second, related₂⟩

def Settled (step : α → α → Prop) (a : α) : Prop := ∀ a', ¬ step a a'

def Falls (step : α → α → Prop) (R : α → β → Prop) (rank : α → β → ℕ) : Prop :=
  ∀ ⦃a a' b⦄, R a b → step a a' → ∃ b', R a' b' ∧ rank a' b' < rank a b

theorem Falls.bounded {step : α → α → Prop} {R : α → β → Prop} {rank : α → β → ℕ}
    (falls : Falls step R rank) (run : ℕ → α) {b : β} (related : R (run 0) b) (n : ℕ)
    (steps : ∀ i < n, step (run i) (run (i + 1))) :
    ∃ b', R (run n) b' ∧ rank (run n) b' + n ≤ rank (run 0) b := by
  induction n with
  | zero => exact ⟨b, related, Nat.le_refl _⟩
  | succ n ih =>
    obtain ⟨b₁, related₁, before⟩ := ih fun i hi => steps i (Nat.lt_succ_of_lt hi)
    obtain ⟨b₂, related₂, lower⟩ := falls related₁ (steps n (Nat.lt_succ_self n))
    exact ⟨b₂, related₂, by omega⟩

/-- Some run goes on until no step leads on. -/
theorem Falls.settles {step : α → α → Prop} {R : α → β → Prop} {rank : α → β → ℕ}
    (falls : Falls step R rank) {a : α} {b : β} (related : R a b) :
    ∃ a', Relation.ReflTransGen step a a' ∧ Settled step a' := by
  induction height : rank a b using Nat.strongRecOn generalizing a b with
  | _ n ih =>
    by_cases settled : Settled step a
    · exact ⟨a, .refl, settled⟩
    · unfold Settled at settled
      push Not at settled
      obtain ⟨a₁, first⟩ := settled
      obtain ⟨b₁, related₁, lower⟩ := falls related first
      obtain ⟨a₂, rest, settled₂⟩ := ih _ (height ▸ lower) related₁ rfl
      exact ⟨a₂, .head first rest, settled₂⟩

end RdpExt.RankedRefinement
