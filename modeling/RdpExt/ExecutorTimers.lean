import RdpExt.ExecutorLifecycle
import RdpExt.GuardedRuns

set_option autoImplicit false

/-!
# The executor's timers beside one stop: `executor.cpp`

Any number of threads call `schedule` and `post` while the worker runs handlers and one
thread calls `stop`. A step is one access of a flag, one block under `timers_mutex_`,
one call of asio or one task.
-/
namespace RdpExt.ExecutorTimers
open ExecutorLifecycle (Task)
open GuardedRuns

/-- Where a call of `post` or `schedule` that found `stopping_` clear has come to: in
    front of asio's post, of the block of `registerTimer`, of `async_wait`. -/
inductive CallPoint where
  | posts (task : Task)
  | registers (timer : ℕ) (task : Task)
  | waits (timer : ℕ) (task : Task)
  deriving DecidableEq, Repr

/-- A handler of the strand; a wait that was cancelled ends with an error. -/
inductive Handler where
  | posted (task : Task)
  | waited (timer : ℕ) (task : Task) (error : Bool)
  deriving DecidableEq, Repr

/-- In front of the named step of a handler, or outside of all. -/
inductive WorkerPoint where
  | loops
  | runs
  | unregisters (timer : ℕ) (task : Task) (error : Bool)
  | looks (task : Task) (error : Bool)
  | begins (task : Task)
  | returned
  deriving DecidableEq, Repr

inductive StopPoint where
  | uncalled
  | claims
  | cancels
  | resetsGuard
  | stopsContext
  | joins
  | clears
  | returned
  deriving DecidableEq, Repr

/-- `stopping_` is yet to be set. -/
def StopPoint.ahead : StopPoint → Bool
  | .uncalled | .claims => true
  | _ => false

/-- `cancelAllTimers` is behind it. -/
def StopPoint.cancelled : StopPoint → Bool
  | .uncalled | .claims | .cancels => false
  | .resetsGuard | .stopsContext | .joins | .clears | .returned => true

def StopPoint.joined : StopPoint → Bool
  | .clears | .returned => true
  | _ => false

/-- `timers` is `timers_`; `waiting` the waits that asio has and that have not ended.
    `executed`: the tasks whose execution has begun. -/
structure Executor where
  started : Bool
  stopping : Bool
  guard : Bool
  stopped : Bool
  worker : WorkerPoint
  timers : List ℕ
  waiting : List (ℕ × Task)
  queue : List Handler
  calls : List CallPoint
  stop : StopPoint
  nextTimer : ℕ
  executed : List Task
  deriving DecidableEq, Repr

namespace Executor

def postLooks (e : Executor) (task : Task) : Executor :=
  if e.stopping then e else { e with calls := e.calls ++ [.posts task] }

/-- The first look of `schedule`, and the timer it makes. -/
def scheduleLooks (e : Executor) (task : Task) : Executor :=
  if e.stopping then e
  else { e with calls := e.calls ++ [.registers e.nextTimer task], nextTimer := e.nextTimer + 1 }

/-- The next step of a call, which stands between `before` and `later`. -/
def callSteps (e : Executor) (before later : List CallPoint) : CallPoint → Executor
  | .posts task => { e with calls := before ++ later, queue := e.queue ++ [.posted task] }
  | .registers timer task =>
    if e.stopping then { e with calls := before ++ later }
    else { e with calls := before ++ .waits timer task :: later, timers := e.timers ++ [timer] }
  | .waits timer task => { e with calls := before ++ later, waiting := e.waiting ++ [(timer, task)] }

def expires (e : Executor) (before later : List (ℕ × Task)) (wait : ℕ × Task) : Executor :=
  { e with waiting := before ++ later, queue := e.queue ++ [.waited wait.1 wait.2 false] }

def takes (e : Executor) (rest : List Handler) : Handler → Executor
  | .posted task => { e with queue := rest, worker := .looks task false }
  | .waited timer task error => { e with queue := rest, worker := .unregisters timer task error }

def unregisterTimer (e : Executor) (timer : ℕ) (task : Task) (error : Bool) : Executor :=
  { e with timers := e.timers.filter (· ≠ timer), worker := .looks task error }

def handlerLooks (e : Executor) (task : Task) (error : Bool) : Executor :=
  { e with worker := if error || e.stopping then .runs else .begins task }

def executeTask (e : Executor) (task : Task) : Executor :=
  { e with
    executed := e.executed ++ [task]
    worker := if task.leavesRun then .loops else .runs }

def stopLooks (e : Executor) : Executor :=
  { e with stop := if e.started then .claims else .returned }

/-- The compare_exchange. -/
def stopClaims (e : Executor) : Executor :=
  if e.stopping then { e with stop := .returned } else { e with stopping := true, stop := .cancels }

/-- The waits of the registered timers end with an error. -/
def cancelAllTimers (e : Executor) : Executor :=
  { e with
    waiting := e.waiting.filter fun wait => wait.1 ∉ e.timers
    queue := e.queue ++
      (e.waiting.filter fun wait => wait.1 ∈ e.timers).map fun wait => .waited wait.1 wait.2 true
    timers := []
    stop := .resetsGuard }

end Executor

inductive Party where
  | callers
  | clock
  | worker
  | stopper
  deriving DecidableEq, Repr

inductive Step : Executor → Party → Executor → Prop where
  | postLooks (e : Executor) (task : Task) : Step e .callers (e.postLooks task)
  | scheduleLooks (e : Executor) (task : Task) : Step e .callers (e.scheduleLooks task)
  | callSteps (e : Executor) (before later : List CallPoint) (point : CallPoint)
      (here : e.calls = before ++ point :: later) : Step e .callers (e.callSteps before later point)
  | expires (e : Executor) (before later : List (ℕ × Task)) (wait : ℕ × Task)
      (here : e.waiting = before ++ wait :: later) : Step e .clock (e.expires before later wait)
  | entersRun (e : Executor) (here : e.worker = .loops) : Step e .worker { e with worker := .runs }
  | takes (e : Executor) (first : Handler) (rest : List Handler) (here : e.worker = .runs)
      (live : e.stopped = false) (head : e.queue = first :: rest) : Step e .worker (e.takes rest first)
  | unregisters (e : Executor) (timer : ℕ) (task : Task) (error : Bool)
      (here : e.worker = .unregisters timer task error) :
      Step e .worker (e.unregisterTimer timer task error)
  | looks (e : Executor) (task : Task) (error : Bool) (here : e.worker = .looks task error) :
      Step e .worker (e.handlerLooks task error)
  | begins (e : Executor) (task : Task) (here : e.worker = .begins task) :
      Step e .worker (e.executeTask task)
  | leavesRun (e : Executor) (here : e.worker = .runs)
      (done : e.stopped = true ∨ e.guard = false ∧ e.queue = [] ∧ e.waiting = []) :
      Step e .worker { e with worker := .returned, stopped := true }
  | stopLooks (e : Executor) (here : e.stop = .uncalled) : Step e .stopper e.stopLooks
  | stopClaims (e : Executor) (here : e.stop = .claims) : Step e .stopper e.stopClaims
  | cancels (e : Executor) (here : e.stop = .cancels) : Step e .stopper e.cancelAllTimers
  | resetsGuard (e : Executor) (here : e.stop = .resetsGuard) :
      Step e .stopper { e with guard := false, stop := .stopsContext }
  | stopsContext (e : Executor) (here : e.stop = .stopsContext) :
      Step e .stopper { e with stopped := true, stop := .joins }
  | joins (e : Executor) (here : e.stop = .joins) (joined : e.worker = .returned) :
      Step e .stopper { e with stop := .clears }
  | clears (e : Executor) (here : e.stop = .clears) :
      Step e .stopper { e with started := false, stop := .returned }

/-- What `start` leaves, and whatever calls, timers and handlers there are by now. -/
structure Executor.Started (e : Executor) : Prop where
  started : e.started = true
  stopping : e.stopping = false
  uncalled : e.stop = .uncalled

structure Ending (e : Executor) : Prop where
  ahead : e.stop.ahead = true → e.started = true ∧ e.stopping = false
  claimed : e.stop.ahead = false → e.stopping = true
  cancelled : e.stop.cancelled = true → e.timers = []
  joined : e.stop.joined = true → e.worker = .returned

theorem Executor.Started.ending {e : Executor} (started : e.Started) : Ending e where
  ahead _ := ⟨started.started, started.stopping⟩
  claimed called := by
    rw [started.uncalled] at called
    cases called
  cancelled behind := by
    rw [started.uncalled] at behind
    cases behind
  joined behind := by
    rw [started.uncalled] at behind
    cases behind

theorem StopPoint.not_ahead_of_cancelled {stop : StopPoint} (behind : stop.cancelled = true) :
    stop.ahead = false := by
  cases stop <;> first | rfl | cases behind

/-- What a step of another thread than the stopper's leaves as it is. -/
structure Leaves (e e' : Executor) : Prop where
  started : e'.started = e.started
  stopping : e'.stopping = e.stopping
  stop : e'.stop = e.stop
  timers : e.stopping = true → e.timers = [] → e'.timers = []
  returned : e.worker = .returned → e'.worker = .returned ∧ e'.executed = e.executed

theorem Leaves.refl (e : Executor) : Leaves e e :=
  ⟨rfl, rfl, rfl, fun _ empty => empty, fun returned => ⟨returned, rfl⟩⟩

/-- A timer is registered only where `stopping_` is clear. -/
theorem leaves_callSteps (e : Executor) (before later : List CallPoint) (point : CallPoint) :
    Leaves e (e.callSteps before later point) := by
  cases point with
  | posts task | waits timer task =>
    exact ⟨rfl, rfl, rfl, fun _ empty => empty, fun returned => ⟨returned, rfl⟩⟩
  | registers timer task =>
    simp only [Executor.callSteps]
    split_ifs with stopping
    · exact ⟨rfl, rfl, rfl, fun _ empty => empty, fun returned => ⟨returned, rfl⟩⟩
    · exact ⟨rfl, rfl, rfl, fun set _ => absurd set stopping, fun returned => ⟨returned, rfl⟩⟩

theorem Leaves.of_worker {e e' : Executor} {point : WorkerPoint} (here : e.worker = point)
    (busy : point ≠ .returned) (started : e'.started = e.started)
    (stopping : e'.stopping = e.stopping) (stop : e'.stop = e.stop)
    (timers : e.timers = [] → e'.timers = []) : Leaves e e' :=
  ⟨started, stopping, stop, fun _ => timers, fun returned => absurd (here.symm.trans returned) busy⟩

theorem Step.leaves {e e' : Executor} {party : Party} (step : Step e party e')
    (other : party ≠ .stopper) : Leaves e e' := by
  cases step with
  | postLooks task =>
    unfold Executor.postLooks
    split_ifs
    · exact .refl e
    · exact ⟨rfl, rfl, rfl, fun _ empty => empty, fun returned => ⟨returned, rfl⟩⟩
  | scheduleLooks task =>
    unfold Executor.scheduleLooks
    split_ifs
    · exact .refl e
    · exact ⟨rfl, rfl, rfl, fun _ empty => empty, fun returned => ⟨returned, rfl⟩⟩
  | callSteps before later point here => exact leaves_callSteps e before later point
  | expires before later wait here =>
    exact ⟨rfl, rfl, rfl, fun _ empty => empty, fun returned => ⟨returned, rfl⟩⟩
  | entersRun here => exact .of_worker here (by simp) rfl rfl rfl id
  | takes first rest here live head =>
    cases first with
    | posted _ | waited _ _ _ => exact .of_worker here (by simp) rfl rfl rfl id
  | unregisters timer task error here =>
    refine .of_worker here (by simp) rfl rfl rfl fun empty => ?_
    change e.timers.filter _ = []
    rw [empty, List.filter_nil]
  | looks task error here => exact .of_worker here (by simp) rfl rfl rfl id
  | begins task here => exact .of_worker here (by simp) rfl rfl rfl id
  | leavesRun here done => exact .of_worker here (by simp) rfl rfl rfl id
  | stopLooks | stopClaims | cancels | resetsGuard | stopsContext | joins | clears =>
    exact absurd rfl other

theorem Ending.of_leaves {e e' : Executor} (h : Ending e) (same : Leaves e e') : Ending e' where
  ahead before := by
    rw [same.stop] at before
    rw [same.started, same.stopping]
    exact h.ahead before
  claimed behind := by
    rw [same.stop] at behind
    rw [same.stopping]
    exact h.claimed behind
  cancelled behind := by
    rw [same.stop] at behind
    exact same.timers (h.claimed (StopPoint.not_ahead_of_cancelled behind)) (h.cancelled behind)
  joined behind := by
    rw [same.stop] at behind
    exact (same.returned (h.joined behind)).1

theorem ending_stopper {e e' : Executor} (h : Ending e) (step : Step e .stopper e') :
    Ending e' := by
  cases step with
  | stopLooks here =>
    obtain ⟨started, stopping⟩ := h.ahead (by rw [here]; rfl)
    unfold Executor.stopLooks
    rw [if_pos started]
    exact ⟨fun _ => ⟨started, stopping⟩, nofun, nofun, nofun⟩
  | stopClaims here =>
    obtain ⟨started, stopping⟩ := h.ahead (by rw [here]; rfl)
    unfold Executor.stopClaims
    rw [if_neg (by rw [stopping]; exact Bool.false_ne_true)]
    exact ⟨nofun, fun _ => rfl, nofun, nofun⟩
  | cancels here =>
    exact ⟨nofun, fun _ => h.claimed (by rw [here]; rfl), fun _ => rfl, nofun⟩
  | resetsGuard here | stopsContext here =>
    exact ⟨nofun, fun _ => h.claimed (by rw [here]; rfl),
      fun _ => h.cancelled (by rw [here]; rfl), nofun⟩
  | joins here joined =>
    exact ⟨nofun, fun _ => h.claimed (by rw [here]; rfl),
      fun _ => h.cancelled (by rw [here]; rfl), fun _ => joined⟩
  | clears here =>
    exact ⟨nofun, fun _ => h.claimed (by rw [here]; rfl),
      fun _ => h.cancelled (by rw [here]; rfl), fun _ => h.joined (by rw [here]; rfl)⟩

theorem ending_step (e : Executor) (party : Party) (e' : Executor) (h : Ending e)
    (step : Step e party e') : Ending e' := by
  by_cases stopper : party = .stopper
  · subst stopper
    exact ending_stopper h step
  · exact h.of_leaves (step.leaves stopper)

theorem stop_cancelled_step (e : Executor) (party : Party) (e' : Executor)
    (behind : e.stop.cancelled = true) (step : Step e party e') : e'.stop.cancelled = true := by
  by_cases stopper : party = .stopper
  · subst stopper
    cases step with
    | stopLooks here | stopClaims here | cancels here =>
      rw [here] at behind
      cases behind
    | resetsGuard | stopsContext | joins | clears => rfl
  · rw [(step.leaves stopper).stop]
    exact behind

/-- Behind `stop` the worker has returned, and a task begins on the worker only. -/
theorem returned_step (e : Executor) (party : Party) (e' : Executor) (h : Ending e)
    (behind : e.stop = .returned) (step : Step e party e') :
    e'.stop = .returned ∧ e'.executed = e.executed := by
  by_cases stopper : party = .stopper
  · subst stopper
    cases step with
    | stopLooks here | stopClaims here | cancels here | resetsGuard here | stopsContext here
    | joins here | clears here =>
      rw [behind] at here
      cases here
  · have same := step.leaves stopper
    have returned : e.worker = .returned := h.joined (by rw [behind]; rfl)
    exact ⟨same.stop.trans behind, (same.returned returned).2⟩

def Cancelled (e : Executor) : Prop := Ending e ∧ e.stop.cancelled = true

/-- `stop` has returned, and these are the tasks that began until then. -/
def Over (executed : List Task) (e : Executor) : Prop :=
  Ending e ∧ e.stop = .returned ∧ e.executed = executed

theorem cancelled_step (e : Executor) (party : Party) (e' : Executor) (h : Cancelled e)
    (step : Step e party e') : Cancelled e' :=
  ⟨ending_step e party e' h.1 step, stop_cancelled_step e party e' h.2 step⟩

theorem over_step {executed : List Task} (e : Executor) (party : Party) (e' : Executor)
    (h : Over executed e) (step : Step e party e') : Over executed e' := by
  obtain ⟨returned, same⟩ := returned_step e party e' h.1 h.2.1 step
  exact ⟨ending_step e party e' h.1 step, returned, same.trans h.2.2⟩

/-- Behind the cancel `timers_` stays empty; behind `stop` no task begins. -/
theorem stop_is_final (e₀ e e' : Executor) (started : e₀.Started) (run : Reaches Step e₀ e)
    (onwards : Reaches Step e e') :
    (e.stop.cancelled = true → e'.timers = []) ∧
      (e.stop = .returned → e'.executed = e.executed) := by
  have ending : Ending e := run.keeps ending_step started.ending
  constructor
  · intro behind
    have kept : Cancelled e' := onwards.keeps cancelled_step ⟨ending, behind⟩
    exact kept.1.cancelled kept.2
  · intro returned
    have kept : Over e.executed e' := onwards.keeps over_step ⟨ending, returned, rfl⟩
    exact kept.2.2

def freshlyStarted : Executor where
  started := true
  stopping := false
  guard := true
  stopped := false
  worker := .loops
  timers := []
  waiting := []
  queue := []
  calls := []
  stop := .uncalled
  nextTimer := 0
  executed := []

/-- A timer registered in front of the cancel whose wait begins behind it, and expires when
    the worker is gone. -/
theorem stop_is_final_late_wait : ∃ e e' : Executor, e.stop = .returned ∧
    e'.queue = [.waited 0 ⟨7, .returns⟩ false] ∧ e'.timers = [] ∧ e'.executed = e.executed := by
  have registered : Reaches Step freshlyStarted _ :=
    (Reaches.single (.scheduleLooks _ ⟨7, .returns⟩)).tail (.callSteps _ [] [] _ rfl)
  have cancelled : Reaches Step freshlyStarted _ :=
    ((registered.tail (.stopLooks _ rfl)).tail (.stopClaims _ rfl)).tail (.cancels _ rfl)
  have stopped : Reaches Step freshlyStarted _ :=
    (((cancelled.tail (.callSteps _ [] [] _ rfl)).tail (.resetsGuard _ rfl)).tail
      (.stopsContext _ rfl)).tail (.entersRun _ rfl)
  have returned : Reaches Step freshlyStarted _ :=
    ((stopped.tail (.leavesRun _ rfl (.inl rfl))).tail (.joins _ rfl rfl)).tail (.clears _ rfl)
  have final := stop_is_final _ _ _ ⟨rfl, rfl, rfl⟩ returned (.single (.expires _ [] [] _ rfl))
  exact ⟨_, _, rfl, rfl, final.1 rfl, final.2 rfl⟩

end RdpExt.ExecutorTimers
