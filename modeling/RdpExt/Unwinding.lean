import RdpExt.TraceInvariant

set_option autoImplicit false

/-!
# Parties that share a machine without noticing each other

Every event belongs to one party, and each party sees part of the state. Where an event
changes nothing that another party sees, and what its own party sees decides what it does,
a party's run is the run over its own events alone.
-/
namespace RdpExt.Unwinding
open TraceInvariant

variable {σ ε ι ο : Type} (step : σ → ε → σ) (out : σ → ε → List ο) (party : ε → ι)
  (Alike : ι → σ → σ → Prop)

/-- `Base` holds all through the run; `Ok` is asked of every step. -/
structure Isolates (Base : σ → Prop) (Ok : σ → ε → Prop) : Prop where
  equivalence : ∀ i, Equivalence (Alike i)
  base : ∀ s event, Base s → Ok s event → Base (step s event)
  others : ∀ s event i, Base s → Ok s event → party event ≠ i → Alike i (step s event) s
  own : ∀ s s' event, Base s → Ok s event → Alike (party event) s s' →
    Ok s' event ∧ Alike (party event) (step s event) (step s' event) ∧ out s event = out s' event

def allOutputs : σ → List ε → List ο
  | _, [] => []
  | s, event :: trace => out s event ++ allOutputs (step s event) trace

variable [DecidableEq ι]

def ownEvents (i : ι) (trace : List ε) : List ε := trace.filter (party · = i)

def ownOutputs (i : ι) : σ → List ε → List ο
  | _, [] => []
  | s, event :: trace =>
    (if party event = i then out s event else []) ++ ownOutputs i (step s event) trace

variable {step out party Alike} {Base : σ → Prop} {Ok : σ → ε → Prop}

theorem ownEvents_own {i : ι} {event : ε} (mine : party event = i) (trace : List ε) :
    ownEvents party i (event :: trace) = event :: ownEvents party i trace :=
  List.filter_cons_of_pos (decide_eq_true mine)

theorem ownEvents_other {i : ι} {event : ε} (foreign : party event ≠ i) (trace : List ε) :
    ownEvents party i (event :: trace) = ownEvents party i trace :=
  List.filter_cons_of_neg (ne_true_of_eq_false (decide_eq_false foreign))

theorem ownOutputs_ownEvents (i : ι) (s : σ) (trace : List ε) :
    ownOutputs step out party i s (ownEvents party i trace) =
      allOutputs step out s (ownEvents party i trace) := by
  induction trace generalizing s with
  | nil => rfl
  | cons event trace ih =>
    by_cases mine : party event = i
    · rw [ownEvents_own mine, ownOutputs, allOutputs, if_pos mine, ih]
    · rw [ownEvents_other mine, ih]

/-- The run over a party's own events is allowed, and to the party it is the whole run. -/
theorem Isolates.run (h : Isolates step out party Alike Base Ok) {i : ι} {s s' : σ}
    (base : Base s) (alike : Alike i s s') {trace : List ε}
    (ok : EveryStep step Ok s trace) :
    EveryStep step Ok s' (ownEvents party i trace) ∧
      Alike i (trace.foldl step s) ((ownEvents party i trace).foldl step s') ∧
      ownOutputs step out party i s trace =
        ownOutputs step out party i s' (ownEvents party i trace) := by
  induction trace generalizing s s' with
  | nil => exact ⟨everyStep_nil, alike, rfl⟩
  | cons event trace ih =>
    obtain ⟨here, later⟩ := everyStep_cons.mp ok
    by_cases mine : party event = i
    · subst mine
      obtain ⟨here', after, same⟩ := h.own s s' event base here alike
      obtain ⟨run, seen, said⟩ := ih (h.base s event base here) after later
      rw [ownEvents_own rfl]
      refine ⟨everyStep_cons.mpr ⟨here', run⟩, seen, ?_⟩
      rw [ownOutputs, ownOutputs, if_pos rfl, if_pos rfl, same, said]
    · have kept := h.others s event i base here mine
      obtain ⟨run, seen, said⟩ :=
        ih (h.base s event base here) ((h.equivalence i).trans kept alike) later
      rw [ownEvents_other mine]
      refine ⟨run, seen, ?_⟩
      rw [ownOutputs, if_neg mine, List.nil_append, said]

/-- Where every output has an owner, the event's party. -/
theorem Isolates.filter_allOutputs (h : Isolates step out party Alike Base Ok) (owner : ο → ι)
    (owned : ∀ s event, Base s → Ok s event → ∀ o ∈ out s event, owner o = party event) {s : σ}
    (base : Base s) {trace : List ε} (ok : EveryStep step Ok s trace) (i : ι) :
    (allOutputs step out s trace).filter (owner · = i) = ownOutputs step out party i s trace := by
  induction trace generalizing s with
  | nil => rfl
  | cons event trace ih =>
    obtain ⟨here, later⟩ := everyStep_cons.mp ok
    have belongs := owned s event base here
    rw [allOutputs, List.filter_append, ownOutputs, ih (h.base s event base here) later]
    congr 1
    split_ifs with mine
    · rw [List.filter_eq_self]
      exact fun o member => decide_eq_true ((belongs o member).trans mine)
    · rw [List.filter_eq_nil_iff]
      exact fun o member same => mine ((belongs o member).symm.trans (of_decide_eq_true same))

end RdpExt.Unwinding
