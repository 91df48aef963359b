import Mathlib.Tactic.Common

set_option autoImplicit false

/-!
# Machines that answer each event

A step takes a state and an event to the next state and the outputs of this step.
-/
namespace RdpExt.MealyMachine

variable {σ ε ω : Type}

def state (step : σ → ε → σ × List ω) (s : σ) (events : List ε) : σ :=
  events.foldl (fun s event => (step s event).1) s

def outputs (step : σ → ε → σ × List ω) : σ → List ε → List (List ω)
  | _, [] => []
  | s, event :: events => (step s event).2 :: outputs step (step s event).1 events

@[simp] theorem state_concat (step : σ → ε → σ × List ω) (s : σ) (events : List ε) (event : ε) :
    state step s (events ++ [event]) = (step (state step s events) event).1 := by
  simp [state]

/-- Related states answer alike and stay related. -/
structure Bisimulation (step : σ → ε → σ × List ω) (R : σ → σ → Prop) : Prop where
  answers : ∀ s t event, R s t → (step s event).2 = (step t event).2
  kept : ∀ s t event, R s t → R (step s event).1 (step t event).1

theorem Bisimulation.outputs_eq {step : σ → ε → σ × List ω} {R : σ → σ → Prop}
    (h : Bisimulation step R) {s t : σ} (related : R s t) (events : List ε) :
    outputs step s events = outputs step t events := by
  induction events generalizing s t with
  | nil => rfl
  | cons event events ih =>
    rw [outputs, outputs, h.answers s t event related, ih (h.kept s t event related)]

section
variable {σ' ε' ω' : Type} {step : σ → ε → σ × List ω} {step' : σ' → ε' → σ' × List ω'}

/-- Part of a machine is a machine of its own: of the events it reads some, and the others
    leave its part of the state and of the outputs alone. -/
structure Projection (step : σ → ε → σ × List ω) (step' : σ' → ε' → σ' × List ω') (view : σ → σ')
    (reads : ε → Option ε') (shows : ω → Option ω') : Prop where
  read : ∀ s event event', reads event = some event' →
    view (step s event).1 = (step' (view s) event').1 ∧
      (step s event).2.filterMap shows = (step' (view s) event').2
  unread : ∀ s event, reads event = none →
    view (step s event).1 = view s ∧ (step s event).2.filterMap shows = []

variable {view : σ → σ'} {reads : ε → Option ε'} {shows : ω → Option ω'}

theorem Projection.run (h : Projection step step' view reads shows) (s : σ) (events : List ε) :
    view (state step s events) = state step' (view s) (events.filterMap reads) ∧
      (outputs step s events).flatten.filterMap shows =
        (outputs step' (view s) (events.filterMap reads)).flatten := by
  induction events generalizing s with
  | nil => exact ⟨rfl, rfl⟩
  | cons event events ih =>
    obtain ⟨state_eq, outputs_eq⟩ := ih (step s event).1
    rw [outputs, List.flatten_cons, List.filterMap_append, outputs_eq]
    cases found : reads event with
    | none =>
      obtain ⟨same, nothing⟩ := h.unread s event found
      rw [List.filterMap_cons_none found, nothing, List.nil_append]
      rw [same] at state_eq ⊢
      exact ⟨state_eq, rfl⟩
    | some event' =>
      obtain ⟨same, shown⟩ := h.read s event event' found
      rw [List.filterMap_cons_some found, outputs, List.flatten_cons, shown]
      rw [same] at state_eq ⊢
      exact ⟨state_eq, rfl⟩

end

end RdpExt.MealyMachine
