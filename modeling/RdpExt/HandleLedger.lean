import RdpExt.TraceInvariant
import Mathlib.Data.List.Nodup

set_option autoImplicit false

/-!
# Ledgers of handles

What was done to handles that are opened, used and closed, and which of them are open at
its end. Values may come back: a handle that was closed may be opened again.
-/
namespace RdpExt.HandleLedger
open TraceInvariant

variable {α κ : Type}

/-- `κ` is what a handle is used for. -/
inductive Act (α κ : Type) where
  | opened (handle : α)
  | used (use : κ) (handle : α)
  | closed (handle : α)
  deriving DecidableEq, Repr

variable [DecidableEq α]

/-- The handles that are open, before an act and behind it. -/
def Act.on (held : List α) : Act α κ → List α
  | .opened handle => handle :: held
  | .used _ _ => held
  | .closed handle => held.erase handle

/-- Nothing is opened twice, and what is used or closed is open. -/
def Act.Proper (held : List α) : Act α κ → Prop
  | .opened handle => handle ∉ held
  | .used _ handle => handle ∈ held
  | .closed handle => handle ∈ held

def live (held : List α) (ledger : List (Act α κ)) : List α := ledger.foldl Act.on held

def Proper (held : List α) (ledger : List (Act α κ)) : Prop :=
  EveryStep Act.on Act.Proper held ledger

@[simp] theorem live_nil (held : List α) : live held ([] : List (Act α κ)) = held := rfl

@[simp] theorem live_cons (held : List α) (act : Act α κ) (ledger : List (Act α κ)) :
    live held (act :: ledger) = live (act.on held) ledger := rfl

theorem live_append (held : List α) (ledger later : List (Act α κ)) :
    live held (ledger ++ later) = live (live held ledger) later := List.foldl_append

theorem proper_nil (held : List α) : Proper held ([] : List (Act α κ)) := everyStep_nil

theorem proper_cons (held : List α) (act : Act α κ) (ledger : List (Act α κ)) :
    Proper held (act :: ledger) ↔ act.Proper held ∧ Proper (act.on held) ledger := everyStep_cons

theorem proper_append (held : List α) (ledger later : List (Act α κ)) :
    Proper held (ledger ++ later) ↔ Proper held ledger ∧ Proper (live held ledger) later :=
  everyStep_append

theorem Proper.of_prefix {held : List α} {before ledger : List (Act α κ)}
    (proper : Proper held ledger) (part : before <+: ledger) : Proper held before := by
  obtain ⟨rest, rfl⟩ := part
  exact ((proper_append held before rest).mp proper).1

theorem Proper.nodup {held : List α} {ledger : List (Act α κ)} (proper : Proper held ledger)
    (distinct : held.Nodup) : (live held ledger).Nodup := by
  induction ledger generalizing held with
  | nil => exact distinct
  | cons act ledger ih =>
    obtain ⟨here, later⟩ := (proper_cons held act ledger).mp proper
    refine ih later ?_
    cases act with
    | opened other => exact List.nodup_cons.mpr ⟨here, distinct⟩
    | used use other => exact distinct
    | closed other => exact distinct.erase other

variable [DecidableEq κ]

/-- Opened as often as closed, but for what is still open. -/
theorem Proper.accounts {held : List α} {ledger : List (Act α κ)} (proper : Proper held ledger)
    (handle : α) : held.count handle + ledger.count (.opened handle) =
      (live held ledger).count handle + ledger.count (.closed handle) := by
  induction ledger generalizing held with
  | nil => rfl
  | cons act ledger ih =>
    obtain ⟨here, later⟩ := (proper_cons held act ledger).mp proper
    have rest := ih later
    rw [live_cons]
    cases act with
    | opened other =>
      simp only [Act.on, List.count_cons, beq_iff_eq, Act.opened.injEq, reduceCtorEq, if_false,
        Nat.add_zero] at rest ⊢
      omega
    | used use other =>
      simp only [Act.on, List.count_cons, beq_iff_eq, reduceCtorEq, if_false, Nat.add_zero]
        at rest ⊢
      exact rest
    | closed other =>
      simp only [Act.on, List.count_erase, List.count_cons, beq_iff_eq, Act.closed.injEq,
        reduceCtorEq, if_false, Nat.add_zero] at rest ⊢
      by_cases same : other = handle
      · subst same
        have open_ : 0 < held.count other := List.count_pos_iff.mpr here
        simp only [if_true] at rest ⊢
        omega
      · simp only [same, if_false] at rest ⊢
        omega

/-- From a ledger on, opens and closes of one handle alternate. -/
theorem Proper.alternates {ledger : List (Act α κ)} (proper : Proper [] ledger) (handle : α) :
    ledger.count (.closed handle) ≤ ledger.count (.opened handle) ∧
      ledger.count (.opened handle) ≤ ledger.count (.closed handle) + 1 := by
  have accounts := proper.accounts handle
  have once : (live [] ledger).count handle ≤ 1 :=
    List.nodup_iff_count_le_one.mp (proper.nodup List.nodup_nil) handle
  rw [List.count_nil] at accounts
  omega

theorem Proper.used_open {before : List (Act α κ)} {use : κ} {handle : α}
    (proper : Proper [] (before ++ [.used use handle])) :
    before.count (.opened handle) = before.count (.closed handle) + 1 := by
  obtain ⟨past, now⟩ := (proper_append [] before [.used use handle]).mp proper
  have held : handle ∈ live [] before := ((proper_cons _ _ []).mp now).1
  have accounts := past.accounts handle
  have one : (live [] before).count handle = 1 :=
    List.count_eq_one_of_mem (past.nodup List.nodup_nil) held
  rw [List.count_nil] at accounts
  omega

end RdpExt.HandleLedger
