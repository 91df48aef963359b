import RdpExt.ChannelChanges

set_option autoImplicit false

/-!
# Do connected and disconnected alternate?

The channel changes under the lock and is reported behind it. One change at a time is
reported in turn; where both threads have a change to report, they may do so in either
order, and one of the two is out of turn.
-/
namespace RdpExt.HandlerAlternation
open WtsChannel GuardedRuns WtsThreads

/-- The call that is due behind `n` others. -/
def turn (n : ℕ) : HandlerCall := if n % 2 = 0 then .connected else .disconnected

def Alternates (calls : List HandlerCall) : Prop :=
  ∀ i (bound : i < calls.length), calls[i] = turn i

instance (calls : List HandlerCall) : Decidable (Alternates calls) :=
  inferInstanceAs (Decidable (∀ i (bound : i < calls.length), calls[i] = turn i))

theorem turn_eq_connected_iff (n : ℕ) : turn n = .connected ↔ n % 2 = 0 := by
  unfold turn
  split_ifs with even
  · exact iff_of_true rfl even
  · exact iff_of_false nofun even

theorem turn_succ_ne (n : ℕ) : turn (n + 1) ≠ turn n := by
  intro same
  have now := turn_eq_connected_iff n
  have next := turn_eq_connected_iff (n + 1)
  rw [same, now] at next
  omega

theorem alternates_concat {calls : List HandlerCall} {call : HandlerCall} :
    Alternates (calls ++ [call]) ↔ Alternates calls ∧ call = turn calls.length := by
  constructor
  · intro h
    refine ⟨fun i bound => ?_, ?_⟩
    · rw [← h i (by rw [List.length_append]; omega), List.getElem_append_left bound]
    · rw [← h calls.length (by simp), List.getElem_concat_length rfl]
  · rintro ⟨h, last⟩ i bound
    rw [List.length_append, List.length_singleton] at bound
    by_cases old : i < calls.length
    · rw [List.getElem_append_left old, h i old]
    · obtain rfl : i = calls.length := by omega
      rw [List.getElem_concat_length rfl, last]

theorem Alternates.last_iff {calls : List HandlerCall} (h : Alternates calls) :
    calls.getLast? = some .connected ↔ calls.length % 2 = 1 := by
  rcases List.eq_nil_or_concat calls with rfl | ⟨front, call, rfl⟩
  · exact iff_of_false nofun nofun
  · rw [List.concat_eq_append] at h ⊢
    have last := (alternates_concat.mp h).2
    have even := turn_eq_connected_iff front.length
    rw [List.getLast?_concat, List.length_append, List.length_singleton, Option.some_inj, last,
      even]
    omega

/-- The changes made and not reported. -/
def due (w : System) : List HandlerCall :=
  (w.unreported .transport).toList ++ (w.unreported .executor).toList

/-- The channel is changed only where no earlier change is left to report. -/
def Ordered (w : System) (party : Party) : Prop :=
  w.changes party = true → ∀ bystander, w.unreported bystander = none

/-- At most one change is unreported, and with it the calls alternate and end with the
    channel as it is. -/
structure Announced (w : System) : Prop where
  short : (due w).length ≤ 1
  alternates : Alternates (w.wts.calls ++ due w)
  parity : (w.wts.calls ++ due w).length % 2 = 1 ↔ w.isOpen = true

theorem due_eq_nil {w : System} (nothing : ∀ party, w.unreported party = none) : due w = [] := by
  unfold due
  rw [nothing .transport, nothing .executor]
  rfl

theorem due_eq_singleton {w : System} {party : Party} {call : HandlerCall}
    (owes : w.unreported party = some call)
    (others : ∀ bystander, bystander ≠ party → w.unreported bystander = none) : due w = [call] := by
  unfold due
  cases party with
  | transport =>
    rw [owes, others .executor nofun]
    rfl
  | executor =>
    rw [owes, others .transport nofun]
    rfl
  | other => cases owes

theorem others_owe_nothing {w : System} {party : Party} {call : HandlerCall}
    (owes : w.unreported party = some call) (short : (due w).length ≤ 1) :
    ∀ bystander, bystander ≠ party → w.unreported bystander = none := by
  intro bystander different
  unfold due at short
  rw [List.length_append] at short
  cases party with
  | transport =>
    rw [owes, Option.toList_some, List.length_singleton] at short
    cases bystander with
    | transport => exact absurd rfl different
    | executor => exact Option.toList_eq_nil_iff.mp (List.length_eq_zero_iff.mp (by omega))
    | other => rfl
  | executor =>
    rw [owes, Option.toList_some, List.length_singleton] at short
    cases bystander with
    | transport => exact Option.toList_eq_nil_iff.mp (List.length_eq_zero_iff.mp (by omega))
    | executor => exact absurd rfl different
    | other => rfl
  | other => cases owes

theorem due_of_quiet {w w' : System} {party : Party} (step : Step w party w')
    (before : w.unreported party = none) (after : w'.unreported party = none) :
    due w' = due w := by
  have same (bystander : Party) : w'.unreported bystander = w.unreported bystander := by
    by_cases acting : bystander = party
    · rw [acting, before, after]
    · exact step.others acting
  unfold due
  rw [same .transport, same .executor]

theorem announced_step (w : System) (party : Party) (w' : System) (sound : Sound w)
    (h : Announced w) (ordered : Ordered w party) (step : Step w party w') : Announced w' := by
  obtain ⟨short, alternates, parity⟩ := h
  cases sound.effect step with
  | quiet stays calls isOpen before after =>
    have same := due_of_quiet step before after
    refine ⟨?_, ?_, ?_⟩
    · rw [same]
      exact short
    · rw [same, calls]
      exact alternates
    · rw [same, calls, isOpen]
      exact parity
  | changes changes calls isOpen before after =>
    have nothing := ordered changes
    have owed := due_eq_singleton after fun bystander different => by
      rw [step.others different, nothing bystander]
    rw [due_eq_nil nothing, List.append_nil] at alternates parity
    -- The call that is owed is the one whose turn it is.
    have inTurn : (if w'.isOpen then HandlerCall.connected else .disconnected) =
        turn w.wts.calls.length := by
      unfold turn
      rw [isOpen]
      cases openBefore : w.isOpen with
      | true =>
        have odd := parity.mpr openBefore
        exact (if_neg (by omega)).symm
      | false =>
        rw [openBefore] at parity
        have even : w.wts.calls.length % 2 ≠ 1 := fun odd => absurd (parity.mp odd) nofun
        exact (if_pos (by omega)).symm
    refine ⟨?_, ?_, ?_⟩
    · rw [owed, List.length_singleton]
    · rw [owed, calls]
      exact alternates_concat.mpr ⟨alternates, inTurn⟩
    · rw [owed, calls, isOpen, List.length_append, List.length_singleton, Bool.not_eq_true',
        ← Bool.not_eq_true, ← parity]
      omega
  | reports call stays calls isOpen before after =>
    have nothing := others_owe_nothing before short
    have owed := due_eq_singleton before nothing
    have paid : due w' = [] := due_eq_nil fun bystander => by
      by_cases acting : bystander = party
      · rw [acting, after]
      · rw [step.others acting, nothing bystander acting]
    rw [owed] at alternates parity
    refine ⟨?_, ?_, ?_⟩
    · rw [paid]
      exact Nat.zero_le 1
    · rw [paid, calls, List.append_nil]
      exact alternates
    · rw [paid, calls, List.append_nil, isOpen]
      exact parity

theorem announced_initial : Announced {} where
  short := Nat.zero_le 1
  alternates := nofun
  parity := iff_of_false nofun nofun

/-- A thread that owes a report makes it in its next step. -/
theorem transport_reports {w : System} {call : HandlerCall}
    (owes : w.unreported .transport = some call) :
    ∃ w', Step w .transport w' ∧ w'.wts.calls = w.wts.calls ++ [call] := by
  unfold System.unreported TransportPoint.unreported at owes
  cases here : w.transport <;> rw [here] at owes <;> cases owes
  · exact ⟨_, .reportsOpen w here, rfl⟩
  · exact ⟨_, .reportsClose w _ here, rfl⟩

theorem executor_reports {w : System} {call : HandlerCall}
    (owes : w.unreported .executor = some call) :
    ∃ w', Step w .executor w' ∧ w'.wts.calls = w.wts.calls ++ [call] := by
  unfold System.unreported ExecutorPoint.unreported at owes
  cases here : w.executor <;> rw [here] at owes <;> cases owes
  exact ⟨_, .executorReports w here, rfl⟩

/-- Two reports that may come in either order. -/
theorem out_of_turn {w : System} {first second : HandlerCall}
    (transport : w.unreported .transport = some first)
    (executor : w.unreported .executor = some second) :
    ∃ later, Reaches Step w later ∧ ¬ Alternates later.wts.calls := by
  by_contra inTurn
  push Not at inTurn
  obtain ⟨w₁, opens, calls₁⟩ := transport_reports transport
  obtain ⟨w₂, opensThenCloses, calls₂⟩ :=
    executor_reports ((opens.others (show Party.executor ≠ .transport from nofun)).trans executor)
  obtain ⟨w₃, closes, calls₃⟩ := executor_reports executor
  have behind := inTurn w₂ ((Reaches.single opens).tail opensThenCloses)
  have ahead := inTurn w₃ (.single closes)
  rw [calls₂, alternates_concat, calls₁, List.length_append, List.length_singleton] at behind
  rw [calls₃, alternates_concat] at ahead
  exact turn_succ_ne w.wts.calls.length (behind.2.symm.trans ahead.2)

/-- The calls alternate in every run whose steps change the channel only where no earlier
    change is left to report. Behind another step, as behind any that has such a step to
    come, a run may go on to calls that do not. -/
theorem calls_alternate (w : System) :
    (ReachesWithin Step Ordered {} w → Alternates w.wts.calls ∧
      ((∀ party, w.unreported party = none) →
        (w.wts.calls.getLast? = some .connected ↔ w.wts.channel ≠ none))) ∧
    ∀ party w', w.Reachable → ¬ Ordered w party → Step w party w' →
      ∃ later, Reaches Step w' later ∧ ¬ Alternates later.wts.calls := by
  constructor
  · intro run
    have h : Announced w := run.keeps sound_step announced_step sound_initial announced_initial
    have alternates : Alternates w.wts.calls := by
      intro i bound
      have whole := h.alternates i (by rw [List.length_append]; omega)
      rwa [List.getElem_append_left bound] at whole
    refine ⟨alternates, fun nothing => ?_⟩
    have parity := h.parity
    rw [due_eq_nil nothing, List.append_nil] at parity
    rw [alternates.last_iff, parity]
    exact Option.isSome_iff_ne_none
  · intro party w' reachable disordered step
    unfold Ordered at disordered
    push Not at disordered
    obtain ⟨changes, bystander, owes⟩ := disordered
    obtain ⟨owed, theirs⟩ := Option.ne_none_iff_exists'.mp owes
    cases reachable.sound.effect step with
    | quiet stays _ _ _ _ | reports _ stays _ _ _ _ => exact absurd (changes.symm.trans stays) nofun
    | changes _ _ _ before after =>
      have different : bystander ≠ party := by
        rintro rfl
        exact absurd (before.symm.trans theirs) nofun
      have still := (step.others different).trans theirs
      cases party with
      | other => cases changes
      | transport =>
        cases bystander with
        | transport => exact absurd rfl different
        | executor => exact out_of_turn after still
        | other => cases theirs
      | executor =>
        cases bystander with
        | transport => exact out_of_turn still after
        | executor => exact absurd rfl different
        | other => cases theirs

theorem ordered_of_alone (w : System) (party : Party) (alone : Alone w party) : Ordered w party := by
  obtain ⟨rfl, idle⟩ := alone
  intro changes bystander
  cases bystander with
  | transport =>
    unfold System.changes at changes
    unfold System.unreported
    cases here : w.transport <;> rw [here] at changes <;> first | rfl | cases changes
  | executor =>
    unfold System.unreported
    rw [idle]
    rfl
  | other => rfl

theorem calls_alternate_connected :
    Alternates firstConnected.wts.calls ∧
      (firstConnected.wts.calls.getLast? = some .connected ↔ firstConnected.wts.channel ≠ none) := by
  have within := (calls_alternate firstConnected).1 (firstConnected_alone.mono ordered_of_alone)
  refine ⟨within.1, within.2 fun party => ?_⟩
  cases party <;> rfl

/-- The executor closes channel 1, the transport's thread opens channel 2 and reports it,
    and only then does the executor report. -/
theorem disconnected_while_open :
    ∃ w : System, w.Reachable ∧ (∀ party, w.unreported party = none) ∧
      w.wts.channel = some 2 ∧
      w.wts.calls = [.connected, .connected, .disconnected] ∧ ¬ Alternates w.wts.calls := by
  have closed : Reaches Step {} _ :=
    ((firstConnected_alone.reaches.tail (.sends _ [1] rfl)).tail (.writeFails _ [1] rfl)).tail
      (.executorCloses _ (some 1) rfl)
  have noticed : Reaches Step {} _ :=
    ((closed.tail (.innerLoop _ rfl)).tail (.readChecks _ rfl)).tail (.closes _ none false rfl)
  have reopened : Reaches Step {} _ :=
    (((noticed.tail (.outerLoop _ rfl)).tail (.tries _ rfl)).tail (.opens _ rfl)).tail
      (.installs _ 2 rfl)
  have reported := (reopened.tail (.reportsOpen _ rfl)).tail (.executorReports _ rfl)
  refine ⟨_, reported, fun party => ?_, rfl, rfl, by decide⟩
  cases party <;> rfl

end RdpExt.HandlerAlternation
