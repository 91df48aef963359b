import Mathlib.Data.Nat.Notation
import Mathlib.Logic.Relation

set_option autoImplicit false

/-!
# Runs within a guard

Steps are made by one of several parties. A guard says which of them a party may make
where; the runs within it are those of which every step is allowed where it is made.
-/
namespace RdpExt.GuardedRuns

variable {σ ε : Type} (step : σ → ε → σ → Prop) (allowed : σ → ε → Prop)

def Reaches : σ → σ → Prop := Relation.ReflTransGen fun s s' => ∃ party, step s party s'

def ReachesWithin : σ → σ → Prop :=
  Relation.ReflTransGen fun s s' => ∃ party, allowed s party ∧ step s party s'

variable {step allowed}

theorem Reaches.refl {s : σ} : Reaches step s s := Relation.ReflTransGen.refl

theorem Reaches.tail {s t u : σ} {party : ε} (run : Reaches step s t) (last : step t party u) :
    Reaches step s u := Relation.ReflTransGen.tail run ⟨party, last⟩

theorem Reaches.single {s t : σ} {party : ε} (only : step s party t) : Reaches step s t :=
  Reaches.refl.tail only

theorem ReachesWithin.refl {s : σ} : ReachesWithin step allowed s s := Relation.ReflTransGen.refl

theorem ReachesWithin.tail {s t u : σ} {party : ε} (run : ReachesWithin step allowed s t)
    (ok : allowed t party) (last : step t party u) : ReachesWithin step allowed s u :=
  Relation.ReflTransGen.tail run ⟨party, ok, last⟩

theorem ReachesWithin.reaches {s t : σ} (run : ReachesWithin step allowed s t) :
    Reaches step s t := by
  induction run with
  | refl => exact .refl
  | tail _ last ih =>
    obtain ⟨party, _, made⟩ := last
    exact ih.tail made

theorem ReachesWithin.mono {allowed' : σ → ε → Prop}
    (wider : ∀ s party, allowed s party → allowed' s party) {s t : σ}
    (run : ReachesWithin step allowed s t) : ReachesWithin step allowed' s t := by
  induction run with
  | refl => exact .refl
  | tail _ last ih =>
    obtain ⟨party, ok, made⟩ := last
    exact ih.tail (wider _ party ok) made

theorem Reaches.keeps {Base : σ → Prop} (kept : ∀ s party t, Base s → step s party t → Base t)
    {s t : σ} (run : Reaches step s t) (holds : Base s) : Base t := by
  induction run with
  | refl => exact holds
  | tail _ last ih =>
    obtain ⟨party, made⟩ := last
    exact kept _ party _ ih made

/-- What every allowed step keeps, on top of what every step keeps. -/
theorem ReachesWithin.keeps {Base Inv : σ → Prop}
    (base : ∀ s party t, Base s → step s party t → Base t)
    (kept : ∀ s party t, Base s → Inv s → allowed s party → step s party t → Inv t)
    {s t : σ} (run : ReachesWithin step allowed s t) (holdsBase : Base s) (holds : Inv s) :
    Inv t := by
  have both : Base t ∧ Inv t := by
    induction run with
    | refl => exact ⟨holdsBase, holds⟩
    | tail _ last ih =>
      obtain ⟨party, ok, made⟩ := last
      exact ⟨base _ party _ ih.1 made, kept _ party _ ih.1 ih.2 ok made⟩
  exact both.2

/-- A run within the guard, with the number of steps that one party made in it. -/
inductive CountedRun (step : σ → ε → σ → Prop) (allowed : σ → ε → Prop) (own : ε) (s : σ) :
    ℕ → σ → Prop where
  | refl : CountedRun step allowed own s 0 s
  | own {n : ℕ} {t u : σ} (run : CountedRun step allowed own s n t) (ok : allowed t own)
      (last : step t own u) : CountedRun step allowed own s (n + 1) u
  | others {n : ℕ} {t u : σ} {party : ε} (run : CountedRun step allowed own s n t)
      (ok : allowed t party) (different : party ≠ own) (last : step t party u) :
      CountedRun step allowed own s n u

theorem CountedRun.keeps {own : ε} {Base : σ → Prop}
    (kept : ∀ s party t, Base s → allowed s party → step s party t → Base t) {n : ℕ} {s t : σ}
    (run : CountedRun step allowed own s n t) (holds : Base s) : Base t := by
  induction run with
  | refl => exact holds
  | own _ ok last ih => exact kept _ _ _ ih ok last
  | others _ ok _ last ih => exact kept _ _ _ ih ok last

/-- A rank that the party's own steps lower and the others' leave alone bounds how many
    steps it makes, however many the others make. -/
theorem CountedRun.bounded {own : ε} {Base : σ → Prop} {rank : σ → ℕ}
    (kept : ∀ s party t, Base s → allowed s party → step s party t → Base t)
    (lower : ∀ s t, Base s → allowed s own → step s own t → rank t < rank s)
    (level : ∀ s party t, party ≠ own → step s party t → rank t = rank s) {n : ℕ} {s t : σ}
    (run : CountedRun step allowed own s n t) (holds : Base s) : n + rank t ≤ rank s := by
  induction run with
  | refl => omega
  | own run ok last ih =>
    have falls := lower _ _ (run.keeps kept holds) ok last
    omega
  | others _ ok different last ih =>
    have same := level _ _ _ different last
    omega

end RdpExt.GuardedRuns
