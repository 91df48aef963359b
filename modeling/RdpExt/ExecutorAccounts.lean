import RdpExt.ExecutorTimers
import RdpExt.RankedRefinement
import Mathlib.Data.List.Perm.Subperm
import Mathlib.Algebra.Ring.Nat

set_option autoImplicit false

/-!
# What becomes of every task: `executor.cpp`

A task is accepted where the first look of `post` or `schedule` finds `stopping_` clear.
The account keeps what was accepted and what got into the strand's queue beside the
executor; no step reads it.
-/
namespace RdpExt.ExecutorTimers
open ExecutorLifecycle (Task)
open GuardedRuns RankedRefinement

def CallPoint.task : CallPoint → Task
  | .posts task | .registers _ task | .waits _ task => task

/-- What the handler will execute: a cancelled wait's will execute nothing. -/
def Handler.task? : Handler → Option Task
  | .posted task => some task
  | .waited _ task error => if error then none else some task

def WorkerPoint.task? : WorkerPoint → Option Task
  | .unregisters _ task error | .looks task error => if error then none else some task
  | .begins task => some task
  | .loops | .runs | .returned => none

namespace Executor

def queued (e : Executor) : List Task := e.worker.task?.toList ++ e.queue.filterMap Handler.task?

/-- All that is accepted and may still be executed. -/
def pending (e : Executor) : List Task :=
  e.queued ++ (e.waiting.map Prod.snd ++ e.calls.map CallPoint.task)

end Executor

/-- The tasks of the calls that the step lets in, which come behind the others. -/
def accepts (e e' : Executor) : List Task := (e'.calls.drop e.calls.length).map CallPoint.task

/-- The tasks of the handlers that the step puts at the end of the queue. -/
def enqueues (e e' : Executor) : List Task :=
  (e'.queue.drop e.queue.length).filterMap Handler.task?

theorem accepts_none {e e' : Executor} (fewer : e'.calls.length ≤ e.calls.length) :
    accepts e e' = [] := by
  rw [accepts, List.drop_eq_nil_of_le fewer]
  rfl

theorem accepts_new {e e' : Executor} (new : List CallPoint) (grown : e'.calls = e.calls ++ new) :
    accepts e e' = new.map CallPoint.task := by
  rw [accepts, grown, List.drop_left]

theorem enqueues_none {e e' : Executor} (fewer : e'.queue.length ≤ e.queue.length) :
    enqueues e e' = [] := by
  rw [enqueues, List.drop_eq_nil_of_le fewer]
  rfl

theorem enqueues_new {e e' : Executor} (new : List Handler) (grown : e'.queue = e.queue ++ new) :
    enqueues e e' = new.filterMap Handler.task? := by
  rw [enqueues, grown, List.drop_left]

structure Flows (e e' : Executor) : Prop where
  atMost : ∀ task, (e'.executed ++ e'.pending).count task ≤
    (e.executed ++ e.pending).count task + (accepts e e').count task
  inOrder : (e'.executed ++ e'.queued).Sublist (e.executed ++ e.queued ++ enqueues e e')

/-- None is lost. -/
structure Keeps (e e' : Executor) : Prop where
  all : ∀ task, (e'.executed ++ e'.pending).count task =
    (e.executed ++ e.pending).count task + (accepts e e').count task
  order : e'.executed ++ e'.queued = e.executed ++ e.queued ++ enqueues e e'

theorem Keeps.flows {e e' : Executor} (h : Keeps e e') : Flows e e' :=
  ⟨fun task => Nat.le_of_eq (h.all task), h.order ▸ List.Sublist.refl _⟩

theorem keeps_calls {e e' : Executor} (executed : e'.executed = e.executed)
    (worker : e'.worker = e.worker) (queue : e'.queue = e.queue)
    (all : ∀ task, (e'.waiting.map Prod.snd ++ e'.calls.map CallPoint.task).count task =
      (e.waiting.map Prod.snd ++ e.calls.map CallPoint.task).count task +
        (accepts e e').count task) : Keeps e e' := by
  have queued : e'.queued = e.queued := by
    unfold Executor.queued
    rw [worker, queue]
  constructor
  · intro task
    have here := all task
    unfold Executor.pending
    rw [executed, queued]
    simp only [List.count_append] at here ⊢
    omega
  · rw [executed, queued, enqueues_none (queue ▸ Nat.le_refl _), List.append_nil]

theorem keeps_worker {e e' : Executor} (calls : e'.calls = e.calls)
    (waiting : e'.waiting = e.waiting) (fewer : e'.queue.length ≤ e.queue.length)
    (same : e'.executed ++ e'.queued = e.executed ++ e.queued) : Keeps e e' := by
  constructor
  · intro task
    unfold Executor.pending
    rw [accepts_none (calls ▸ Nat.le_refl _), calls, waiting, ← List.append_assoc, same,
      List.append_assoc]
    rfl
  · rw [same, enqueues_none fewer, List.append_nil]

theorem keeps_same {e e' : Executor} (executed : e'.executed = e.executed)
    (worker : e'.worker = e.worker) (queue : e'.queue = e.queue) (calls : e'.calls = e.calls)
    (waiting : e'.waiting = e.waiting) : Keeps e e' := by
  apply keeps_worker calls waiting (queue ▸ Nat.le_refl _)
  unfold Executor.queued
  rw [executed, worker, queue]

theorem callSteps_fewer (e : Executor) (before later : List CallPoint) (point : CallPoint)
    (here : e.calls = before ++ point :: later) :
    (e.callSteps before later point).calls.length ≤ e.calls.length := by
  cases point with
  | posts task | waits timer task => simp [Executor.callSteps, here]
  | registers timer task =>
    simp only [Executor.callSteps]
    split_ifs <;> simp [here]

theorem callSteps_flows (e : Executor) (before later : List CallPoint) (point : CallPoint)
    (here : e.calls = before ++ point :: later) :
    Keeps e (e.callSteps before later point) ∨
      e.stopping = true ∧ Flows e (e.callSteps before later point) := by
  have none := accepts_none (callSteps_fewer e before later point here)
  cases point with
  | posts task =>
    have added : enqueues e (e.callSteps before later (.posts task)) = [task] :=
      enqueues_new [.posted task] rfl
    left
    constructor
    · intro other
      rw [none]
      simp [Executor.callSteps, Executor.pending, Executor.queued, here, CallPoint.task,
        Handler.task?, List.count_cons]
      omega
    · rw [added]
      simp [Executor.callSteps, Executor.queued, Handler.task?]
  | waits timer task =>
    left
    refine keeps_calls rfl rfl rfl fun other => ?_
    rw [none]
    simp [Executor.callSteps, here, CallPoint.task, List.count_cons]
    omega
  | registers timer task =>
    cases stopping : e.stopping with
    | false =>
      left
      apply keeps_calls <;> simp only [Executor.callSteps, stopping, Bool.false_eq_true, if_false]
      intro other
      rw [accepts_none (by simp [here])]
      simp [here, CallPoint.task]
    | true =>
      -- The call ends here, and its task with it.
      refine .inr ⟨rfl, fun other => ?_, ?_⟩
      · rw [none]
        simp [Executor.callSteps, stopping, Executor.pending, Executor.queued, here,
          CallPoint.task, List.count_cons]
      · simp [Executor.callSteps, stopping, Executor.queued]

theorem handlerLooks_flows (e : Executor) (task : Task) (error : Bool)
    (here : e.worker = .looks task error) :
    Keeps e (e.handlerLooks task error) ∨
      e.stopping = true ∧ Flows e (e.handlerLooks task error) := by
  cases error with
  | true =>
    left
    refine keeps_worker rfl rfl (Nat.le_refl _) ?_
    simp [Executor.handlerLooks, Executor.queued, here, WorkerPoint.task?]
  | false =>
    cases stopping : e.stopping with
    | false =>
      left
      refine keeps_worker rfl rfl (Nat.le_refl _) ?_
      simp [Executor.handlerLooks, Executor.queued, here, WorkerPoint.task?, stopping]
    | true =>
      have none : accepts e (e.handlerLooks task false) = [] := accepts_none (Nat.le_refl _)
      refine .inr ⟨rfl, fun other => ?_, ?_⟩
      · rw [none]
        simp [Executor.handlerLooks, stopping, Executor.pending, Executor.queued, here,
          WorkerPoint.task?, List.count_cons]
      · simp [Executor.handlerLooks, stopping, Executor.queued, here, WorkerPoint.task?]

theorem cancelAllTimers_flows (e : Executor) : Flows e e.cancelAllTimers := by
  have nothing : ∀ waits : List (ℕ × Task), (waits.map fun wait =>
      Handler.waited wait.1 wait.2 true).filterMap Handler.task? = [] := by
    intro waits
    induction waits with
    | nil => rfl
    | cons wait waits ih => exact ih
  have queued : e.cancelAllTimers.queued = e.queued := by
    simp [Executor.cancelAllTimers, Executor.queued, nothing]
  constructor
  · intro task
    have fewer : (e.cancelAllTimers.waiting.map Prod.snd).Sublist (e.waiting.map Prod.snd) :=
      List.filter_sublist.map _
    have counted := fewer.count_le task
    have none : accepts e e.cancelAllTimers = [] := accepts_none (Nat.le_refl _)
    unfold Executor.pending
    rw [none, queued]
    change (e.executed ++ (e.queued ++ (_ ++ e.calls.map CallPoint.task))).count task ≤ _
    simp only [List.count_append]
    omega
  · rw [queued]
    exact List.sublist_append_left _ _

theorem step_flows {e e' : Executor} {party : Party} (h : Ending e) (step : Step e party e') :
    Keeps e e' ∨ e.stopping = true ∧ Flows e e' := by
  cases step with
  | postLooks task =>
    left
    unfold Executor.postLooks
    split_ifs
    · exact keeps_same rfl rfl rfl rfl rfl
    · refine keeps_calls rfl rfl rfl fun other => ?_
      rw [accepts_new [.posts task] rfl]
      simp [Nat.add_assoc]
  | scheduleLooks task =>
    left
    unfold Executor.scheduleLooks
    split_ifs
    · exact keeps_same rfl rfl rfl rfl rfl
    · refine keeps_calls rfl rfl rfl fun other => ?_
      rw [accepts_new [.registers e.nextTimer task] rfl]
      simp [Nat.add_assoc]
  | callSteps before later point here => exact callSteps_flows e before later point here
  | expires before later wait here =>
    have added : enqueues e (e.expires before later wait) = [wait.2] :=
      enqueues_new [.waited wait.1 wait.2 false] rfl
    left
    have none : accepts e (e.expires before later wait) = [] := accepts_none (Nat.le_refl _)
    constructor
    · intro other
      rw [none]
      simp [Executor.expires, Executor.pending, Executor.queued, here, Handler.task?,
        List.count_cons]
      omega
    · rw [added]
      simp [Executor.expires, Executor.queued, Handler.task?]
  | takes first rest here live head =>
    left
    cases first with
    | posted task =>
      refine keeps_worker rfl rfl (by simp [Executor.takes, head]) ?_
      simp [Executor.takes, Executor.queued, here, head, WorkerPoint.task?, Handler.task?]
    | waited timer task error =>
      refine keeps_worker rfl rfl (by simp [Executor.takes, head]) ?_
      cases error <;>
        simp [Executor.takes, Executor.queued, here, head, WorkerPoint.task?, Handler.task?]
  | unregisters timer task error here =>
    left
    refine keeps_worker rfl rfl (Nat.le_refl _) ?_
    simp [Executor.unregisterTimer, Executor.queued, here, WorkerPoint.task?]
  | looks task error here => exact handlerLooks_flows e task error here
  | begins task here =>
    left
    refine keeps_worker rfl rfl (Nat.le_refl _) ?_
    unfold Executor.executeTask Executor.queued
    cases task.leavesRun <;> simp [here, WorkerPoint.task?]
  | entersRun here | leavesRun here done =>
    left
    refine keeps_worker rfl rfl (Nat.le_refl _) ?_
    simp [Executor.queued, here, WorkerPoint.task?]
  | stopLooks here => exact .inl (keeps_same rfl rfl rfl rfl rfl)
  | stopClaims here =>
    left
    unfold Executor.stopClaims
    split_ifs <;> exact keeps_same rfl rfl rfl rfl rfl
  | cancels here => exact .inr ⟨h.claimed (by rw [here]; rfl), cancelAllTimers_flows e⟩
  | resetsGuard | stopsContext | joins | clears => exact .inl (keeps_same rfl rfl rfl rfl rfl)

/-! ## The account of a run -/

structure Account where
  executor : Executor
  accepted : List Task
  enqueued : List Task

/-- All there is at the start counts as accepted. -/
def Executor.account (e : Executor) : Account where
  executor := e
  accepted := e.executed ++ e.pending
  enqueued := e.executed ++ e.queued

inductive Account.Step : Account → Party → Account → Prop where
  | step (a : Account) (party : Party) (e : Executor)
      (made : ExecutorTimers.Step a.executor party e) :
      Account.Step a party
        { executor := e, accepted := a.accepted ++ accepts a.executor e
          enqueued := a.enqueued ++ enqueues a.executor e }

/-- None is executed twice, or before its turn; until the executor is stopping none is lost. -/
structure Accounted (a : Account) : Prop where
  ending : Ending a.executor
  atMost : (a.executor.executed ++ a.executor.pending).Subperm a.accepted
  inOrder : (a.executor.executed ++ a.executor.queued).Sublist a.enqueued
  all : a.executor.stopping = false →
    a.accepted.Perm (a.executor.executed ++ a.executor.pending) ∧
      a.enqueued = a.executor.executed ++ a.executor.queued

theorem accounted_start {e : Executor} (ending : Ending e) : Accounted e.account :=
  ⟨ending, List.Subperm.refl _, List.Sublist.refl _, fun _ => ⟨List.Perm.refl _, rfl⟩⟩

theorem stopping_step {e e' : Executor} {party : Party} (step : Step e party e')
    (stopping : e.stopping = true) : e'.stopping = true := by
  by_cases stopper : party = .stopper
  · subst stopper
    cases step with
    | stopClaims here =>
      unfold Executor.stopClaims
      rw [if_pos stopping]
      exact stopping
    | stopLooks | cancels | resetsGuard | stopsContext | joins | clears => exact stopping
  · exact (step.leaves stopper).stopping.trans stopping

theorem stopping_before {e e' : Executor} {party : Party} (step : Step e party e')
    (running : e'.stopping = false) : e.stopping = false := by
  cases stopping : e.stopping with
  | false => rfl
  | true =>
    rw [stopping_step step stopping] at running
    cases running

theorem step_keeps {e e' : Executor} {party : Party} (h : Ending e) (running : e.stopping = false)
    (step : Step e party e') : Keeps e e' := by
  rcases step_flows h step with keeps | ⟨set, _⟩
  · exact keeps
  · rw [running] at set
    cases set

theorem accounted_step (a : Account) (party : Party) (a' : Account) (h : Accounted a)
    (step : Account.Step a party a') : Accounted a' := by
  cases step with
  | step e made =>
    have flows : Flows a.executor e := by
      rcases step_flows h.ending made with keeps | ⟨_, flows⟩
      · exact keeps.flows
      · exact flows
    refine ⟨ending_step _ _ _ h.ending made, ?_, ?_, fun running => ?_⟩
    · rw [List.subperm_ext_iff]
      intro task _
      calc (e.executed ++ e.pending).count task
          ≤ (a.executor.executed ++ a.executor.pending).count task +
              (accepts a.executor e).count task := flows.atMost task
        _ ≤ a.accepted.count task + (accepts a.executor e).count task :=
            Nat.add_le_add_right (h.atMost.count_le task) _
        _ = (a.accepted ++ accepts a.executor e).count task := List.count_append.symm
    · exact flows.inOrder.trans (h.inOrder.append_right _)
    · have before := stopping_before made running
      have keeps := step_keeps h.ending before made
      obtain ⟨perm, order⟩ := h.all before
      constructor
      · rw [List.perm_iff_count]
        intro task
        change (a.accepted ++ accepts a.executor e).count task = _
        rw [List.count_append, perm.count_eq, ← keeps.all task]
      · change a.enqueued ++ enqueues a.executor e = _
        rw [order, keeps.order]

/-- Whatever the interleaving of any number of calls, timers, the worker and one stop:
    tasks are executed at most once each and in the order their handlers were queued, and
    until `stopping_` is set each accepted task was executed or is still pending. -/
theorem tasks_accounted (e₀ : Executor) (started : e₀.Started) (a : Account)
    (run : Reaches Account.Step e₀.account a) :
    a.executor.executed.Sublist a.enqueued ∧
      (a.executor.executed ++ a.executor.pending).Subperm a.accepted ∧
      (a.executor.stopping = false →
        a.accepted.Perm (a.executor.executed ++ a.executor.pending) ∧
          a.enqueued = a.executor.executed ++ a.executor.queued) := by
  have kept : Accounted a := run.keeps accounted_step (accounted_start started.ending)
  exact ⟨(List.sublist_append_left _ _).trans kept.inOrder, kept.atMost, kept.all⟩

def bothCalled : Account :=
  { executor := (freshlyStarted.postLooks ⟨1, .returns⟩).scheduleLooks ⟨2, .returns⟩
    accepted := [⟨1, .returns⟩, ⟨2, .returns⟩], enqueued := [] }

theorem bothCalled_reached : Reaches Account.Step freshlyStarted.account bothCalled :=
  (Reaches.single (.step _ .callers _ (.postLooks _ ⟨1, .returns⟩))).tail
    (.step _ .callers _ (.scheduleLooks _ ⟨2, .returns⟩))

theorem tasks_accounted_called :
    [⟨1, .returns⟩, ⟨2, .returns⟩].Perm (bothCalled.executor.executed ++ bothCalled.executor.pending) :=
  ((tasks_accounted freshlyStarted ⟨rfl, rfl, rfl⟩ bothCalled bothCalled_reached).2.2 rfl).1

/-! ## Until it is stopped, all is executed -/

/-- The steps that end calls and tasks and begin none. -/
inductive Drains : Executor → Executor → Prop where
  | calls (e : Executor) (before later : List CallPoint) (point : CallPoint)
      (here : e.calls = before ++ point :: later) : Drains e (e.callSteps before later point)
  | clock {e e' : Executor} (step : Step e .clock e') : Drains e e'
  | worker {e e' : Executor} (step : Step e .worker e') : Drains e e'

theorem Drains.step {e e' : Executor} (drains : Drains e e') :
    ∃ party, party ≠ .stopper ∧ Step e party e' := by
  cases drains with
  | calls before later point here => exact ⟨.callers, nofun, .callSteps e before later point here⟩
  | clock step => exact ⟨.clock, nofun, step⟩
  | worker step => exact ⟨.worker, nofun, step⟩

/-- How many steps each has in front of it at most. -/
def CallPoint.steps : CallPoint → ℕ
  | .posts _ => 5
  | .waits _ _ => 7
  | .registers _ _ => 8

def Handler.steps : Handler → ℕ
  | .posted _ => 4
  | .waited _ _ _ => 5

def WorkerPoint.steps : WorkerPoint → ℕ
  | .returned => 0
  | .runs => 1
  | .loops => 2
  | .begins _ => 3
  | .looks _ _ => 4
  | .unregisters _ _ _ => 5

def Executor.steps (e : Executor) : ℕ :=
  (e.calls.map CallPoint.steps).sum + 6 * e.waiting.length + (e.queue.map Handler.steps).sum +
    e.worker.steps

theorem drains_steps {e e' : Executor} (drains : Drains e e') : e'.steps < e.steps := by
  unfold Executor.steps
  cases drains with
  | calls before later point here =>
    cases point with
    | posts task =>
      simp [Executor.callSteps, here, CallPoint.steps, Handler.steps]
      omega
    | waits timer task =>
      simp [Executor.callSteps, here, CallPoint.steps]
      omega
    | registers timer task =>
      simp only [Executor.callSteps]
      split_ifs <;> simp [here, CallPoint.steps]
  | clock step =>
    cases step with
    | expires before later wait here =>
      simp [Executor.expires, here, Handler.steps]
      omega
  | worker step =>
    cases step with
    | entersRun here | leavesRun here done => simp [here, WorkerPoint.steps]
    | takes first rest here live head =>
      cases first <;> simp [Executor.takes, here, head, WorkerPoint.steps, Handler.steps] <;> omega
    | unregisters timer task error here =>
      simp [Executor.unregisterTimer, here, WorkerPoint.steps]
    | looks task error here =>
      unfold Executor.handlerLooks
      split_ifs <;> simp [here, WorkerPoint.steps]
    | begins task here =>
      unfold Executor.executeTask
      split_ifs <;> simp [here, WorkerPoint.steps]

structure Executor.Serving (e : Executor) : Prop where
  started : e.Started
  guard : e.guard = true
  live : e.stopped = false
  present : e.worker ≠ .returned

/-- Until `stopping_` is set the worker is not let go. -/
structure Live (e : Executor) : Prop where
  ending : Ending e
  serving : e.stopping = false → e.guard = true ∧ e.stopped = false ∧ e.worker ≠ .returned

theorem live_step (e : Executor) (party : Party) (e' : Executor) (h : Live e)
    (step : Step e party e') : Live e' := by
  refine ⟨ending_step e party e' h.ending step, fun running => ?_⟩
  have before := stopping_before step running
  have late : e.stop.ahead = true := by
    cases ahead : e.stop.ahead with
    | true => rfl
    | false =>
      rw [h.ending.claimed ahead] at before
      cases before
  obtain ⟨guard, live, present⟩ := h.serving before
  cases step with
  | postLooks task =>
    unfold Executor.postLooks
    split_ifs <;> exact ⟨guard, live, present⟩
  | scheduleLooks task =>
    unfold Executor.scheduleLooks
    split_ifs <;> exact ⟨guard, live, present⟩
  | callSteps before later point here =>
    cases point with
    | posts task | waits timer task => exact ⟨guard, live, present⟩
    | registers timer task =>
      simp only [Executor.callSteps]
      split_ifs <;> exact ⟨guard, live, present⟩
  | expires before later wait here => exact ⟨guard, live, present⟩
  | entersRun here | unregisters timer task error here =>
    exact ⟨guard, live, by simp [Executor.unregisterTimer]⟩
  | takes first rest here alive head =>
    cases first with
    | posted task | waited timer task error => exact ⟨guard, live, by simp [Executor.takes]⟩
  | looks task error here =>
    refine ⟨guard, live, ?_⟩
    unfold Executor.handlerLooks
    split_ifs <;> simp
  | begins task here =>
    refine ⟨guard, live, ?_⟩
    unfold Executor.executeTask
    split_ifs <;> simp
  | leavesRun here done =>
    rcases done with stopped | ⟨released, _⟩
    · rw [live] at stopped
      cases stopped
    · rw [guard] at released
      cases released
  | stopLooks here => exact ⟨guard, live, present⟩
  | stopClaims here =>
    unfold Executor.stopClaims
    split_ifs <;> exact ⟨guard, live, present⟩
  | cancels here | resetsGuard here | stopsContext here | joins here | clears here =>
    rw [here] at late
    cases late

theorem Drains.calls_fewer {e e' : Executor} (drains : Drains e e') :
    e'.calls.length ≤ e.calls.length := by
  cases drains with
  | calls before later point here => exact callSteps_fewer e before later point here
  | clock step =>
    cases step with
    | expires => exact Nat.le_refl _
  | worker step =>
    cases step with
    | takes first => cases first <;> exact Nat.le_refl _
    | entersRun | unregisters | looks | begins | leavesRun => exact Nat.le_refl _

theorem Drains.stopping {e e' : Executor} (drains : Drains e e') : e'.stopping = e.stopping := by
  obtain ⟨_, other, step⟩ := drains.step
  exact (step.leaves other).stopping

theorem settled_pending {e : Executor} (live : Live e) (running : e.stopping = false)
    (settled : Settled Drains e) : e.pending = [] := by
  obtain ⟨_, alive, present⟩ := live.serving running
  have calls : e.calls = [] := by
    match here : e.calls with
    | [] => rfl
    | point :: later => exact (settled _ (.calls e [] later point here)).elim
  have waiting : e.waiting = [] := by
    match here : e.waiting with
    | [] => rfl
    | wait :: later => exact (settled _ (.clock (.expires e [] later wait here))).elim
  have runs : e.worker = .runs := by
    match here : e.worker with
    | .runs => rfl
    | .loops => exact (settled _ (.worker (.entersRun e here))).elim
    | .unregisters timer task error =>
      exact (settled _ (.worker (.unregisters e timer task error here))).elim
    | .looks task error => exact (settled _ (.worker (.looks e task error here))).elim
    | .begins task => exact (settled _ (.worker (.begins e task here))).elim
    | .returned => exact absurd here present
  have queue : e.queue = [] := by
    match head : e.queue with
    | [] => rfl
    | first :: rest => exact (settled _ (.worker (.takes e first rest runs alive head))).elim
  unfold Executor.pending Executor.queued
  rw [calls, waiting, runs, queue]
  rfl

structure Draining (a : Account) (e : Executor) : Prop where
  live : Live e
  running : e.stopping = false
  all : a.accepted.Perm (e.executed ++ e.pending)
  order : a.enqueued <+: e.executed ++ e.queued

theorem draining_step {a : Account} {e e' : Executor} (h : Draining a e) (drains : Drains e e') :
    Draining a e' := by
  obtain ⟨party, _, step⟩ := drains.step
  have keeps := step_keeps h.live.ending h.running step
  have none : accepts e e' = [] := accepts_none drains.calls_fewer
  refine ⟨live_step e party e' h.live step, drains.stopping.trans h.running, ?_, ?_⟩
  · refine h.all.trans (List.perm_iff_count.mpr fun task => ?_)
    rw [keeps.all task, none]
    rfl
  · rw [keeps.order]
    exact h.order.trans (List.prefix_append _ _)

theorem draining_run {a : Account} {e e' : Executor} (h : Draining a e)
    (drained : Relation.ReflTransGen Drains e e') : Draining a e' := by
  induction drained with
  | refl => exact h
  | tail _ last ih => exact draining_step ih last

def Sound (a : Account) : Prop := Accounted a ∧ Live a.executor

theorem sound_start {e : Executor} (serving : e.Serving) : Sound e.account :=
  ⟨accounted_start serving.started.ending,
    ⟨serving.started.ending, fun _ => ⟨serving.guard, serving.live, serving.present⟩⟩⟩

theorem sound_step (a : Account) (party : Party) (a' : Account) (h : Sound a)
    (step : Account.Step a party a') : Sound a' := by
  refine ⟨accounted_step a party a' h.1 step, ?_⟩
  cases step with
  | step e made => exact live_step _ _ _ h.2 made

/-- Until `stop` sets `stopping_`, every interleaving of the calls under way, the timers
    and the worker comes to its end, and there each task accepted has been executed
    exactly once, those in the queue first and in its order. -/
theorem every_task_executed (e₀ : Executor) (serving : e₀.Serving) (a : Account)
    (run : Reaches Account.Step e₀.account a) (running : a.executor.stopping = false) :
    (∀ trace : ℕ → Executor, trace 0 = a.executor → ∀ n,
      (∀ i < n, Drains (trace i) (trace (i + 1))) → n ≤ a.executor.steps) ∧
    (∀ e, Relation.ReflTransGen Drains a.executor e → Settled Drains e →
      e.executed.Perm a.accepted ∧ a.enqueued <+: e.executed) ∧
    ∃ e, Relation.ReflTransGen Drains a.executor e ∧ Settled Drains e := by
  have falls : Falls Drains (fun _ (_ : Unit) => True) fun e _ => e.steps :=
    fun _ _ _ _ drains => ⟨(), trivial, drains_steps drains⟩
  obtain ⟨accounted, live⟩ : Sound a := run.keeps sound_step (sound_start serving)
  obtain ⟨all, order⟩ := accounted.all running
  refine ⟨?_, fun e drained settled => ?_, falls.settles (b := ()) trivial⟩
  · intro trace start n steps
    obtain ⟨_, _, bounded⟩ := falls.bounded trace (b := ()) trivial n steps
    rw [start] at bounded
    omega
  · have here : Draining a e :=
      draining_run ⟨live, running, all, order ▸ List.prefix_refl _⟩ drained
    have pending := settled_pending here.live here.running settled
    have queued : e.queued = [] := (List.append_eq_nil_iff.mp pending).1
    refine ⟨?_, ?_⟩
    · have all' := here.all
      rw [pending, List.append_nil] at all'
      exact all'.symm
    · have order' := here.order
      rw [queued, List.append_nil] at order'
      exact order'

theorem freshlyStarted_serving : freshlyStarted.Serving :=
  ⟨⟨rfl, rfl, rfl⟩, rfl, rfl, nofun⟩

theorem every_task_executed_called : ∃ e, Relation.ReflTransGen Drains bothCalled.executor e ∧
    e.executed.Perm [⟨1, .returns⟩, ⟨2, .returns⟩] := by
  obtain ⟨_, executed, e, drained, settled⟩ :=
    every_task_executed freshlyStarted freshlyStarted_serving bothCalled bothCalled_reached rfl
  exact ⟨e, drained, (executed e drained settled).1⟩

end RdpExt.ExecutorTimers
