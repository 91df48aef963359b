import Mathlib.Logic.Relation
import Mathlib.Data.List.Basic
import Mathlib.Tactic.Common

set_option autoImplicit false

/-!
# Starting and stopping the executor: `executor.cpp`

`start` and `stop` are taken apart at what other threads can see of them, posts come at
any time, and the worker's thread runs beside them. A strand keeps its handlers in order
and runs one at a time.
-/
namespace RdpExt.ExecutorLifecycle

/-- How a task ends: by itself, with a `std::exception`, with anything else. -/
inductive Ending where
  | returns
  | throwsStd
  | throwsOther
  deriving DecidableEq, Repr

structure Task where
  id : ℕ
  ending : Ending
  deriving DecidableEq, Repr

/-- `executeTask` catches what is a `std::exception`; the rest leaves `io_context::run`
    and is caught by the loop of `workerLoop`, which runs the context again. -/
def Task.leavesRun (task : Task) : Bool := task.ending == .throwsOther

/-- A handler of the strand: the task, and how many effective starts came before it. -/
structure Handler where
  task : Task
  cycle : ℕ
  deriving DecidableEq, Repr

inductive Worker where
  | absent
  | loops
  | runs
  | returned
  deriving DecidableEq, Repr

inductive LifecycleCall where
  | start
  | stop
  deriving DecidableEq, Repr

/-- Where the call of `start` or `stop` that is under way has come to: `started_` is set
    and the worker not yet there; `stopping_` is set, the guard is reset, the context is
    stopped and the worker to be joined. -/
inductive Stage where
  | none
  | starting
  | stopping
  | guardReset
  | joining
  deriving DecidableEq, Repr

def Stage.inStop : Stage → Bool
  | .none | .starting => false
  | .stopping | .guardReset | .joining => true

/-- `stopped` is the io_context's own flag. `effective` lists the completed calls that
    did something; `posted` is what was passed to `post` since the latest effective
    start, `executed` what was executed of it. -/
structure State where
  started : Bool := false
  stopping : Bool := false
  guard : Bool := true
  stopped : Bool := false
  worker : Worker := .absent
  queue : List Handler := []
  stage : Stage := .none
  cycle : ℕ := 0
  effective : List LifecycleCall := []
  posted : List Task := []
  executed : List Task := []
  deriving DecidableEq, Repr

namespace State

def post (s : State) (task : Task) : State :=
  { s with
    posted := s.posted ++ [task]
    queue := if s.stopping then s.queue else s.queue ++ [⟨task, s.cycle⟩] }

def start (s : State) : State :=
  if s.started then s else { s with started := true, stage := .starting }

def spawn (s : State) : State :=
  { s with
    stopping := false, worker := .loops, stage := .none
    cycle := s.cycle + 1
    effective := s.effective ++ [.start], posted := [], executed := [] }

def stop (s : State) : State :=
  if !s.started then s
  else if s.stopping then s
  else { s with stopping := true, stage := .stopping }

def resetGuard (s : State) : State := { s with guard := false, stage := .guardReset }

def stopContext (s : State) : State := { s with stopped := true, stage := .joining }

def join (s : State) : State :=
  { s with
    worker := .absent, started := false, stage := .none
    effective := s.effective ++ [.stop] }

/-- The handler that `post` made: it looks at `stopping_` once more. -/
def handler (s : State) (first : Handler) (rest : List Handler) : State :=
  if s.stopping then { s with queue := rest }
  else
    { s with
      queue := rest
      executed := if first.cycle = s.cycle then s.executed ++ [first.task] else s.executed
      worker := if first.task.leavesRun then .loops else .runs }

theorem handler_executes {s : State} (notStopping : s.stopping = false) (first : Handler)
    (rest : List Handler) :
    s.handler first rest =
      { s with
        queue := rest
        executed := if first.cycle = s.cycle then s.executed ++ [first.task] else s.executed
        worker := if first.task.leavesRun then .loops else .runs } := by
  unfold handler
  rw [if_neg (by rw [notStopping]; nofun)]

/-- A `run` that has returned leaves the context stopped. -/
def leaveRun (s : State) : State := { s with worker := .returned, stopped := true }

end State

/-- `io_context::run` executes handlers while the context is not stopped, and returns when
    it is, or when there is no handler and no guard. -/
inductive WorkerStep : State → State → Prop where
  | entersRun (s : State) (loops : s.worker = .loops) : WorkerStep s { s with worker := .runs }
  | executes (s : State) (first : Handler) (rest : List Handler) (runs : s.worker = .runs)
      (live : s.stopped = false) (head : s.queue = first :: rest) :
      WorkerStep s (s.handler first rest)
  | leavesRun (s : State) (runs : s.worker = .runs)
      (done : s.stopped = true ∨ s.guard = false ∧ s.queue = []) : WorkerStep s s.leaveRun

/-- What happens behind a completed call: posts and the worker. -/
inductive ServiceStep : State → State → Prop where
  | post (s : State) (task : Task) : ServiceStep s (s.post task)
  | worker {s s' : State} (step : WorkerStep s s') : ServiceStep s s'

inductive Step : State → State → Prop where
  | start (s : State) (none : s.stage = .none) : Step s s.start
  | spawn (s : State) (starting : s.stage = .starting) : Step s s.spawn
  | stop (s : State) (none : s.stage = .none) : Step s s.stop
  | resetGuard (s : State) (stopping : s.stage = .stopping) : Step s s.resetGuard
  | stopContext (s : State) (guardReset : s.stage = .guardReset) : Step s s.stopContext
  | join (s : State) (joining : s.stage = .joining)
      (joinable : s.worker = .absent ∨ s.worker = .returned) : Step s s.join
  | service {s s' : State} (step : ServiceStep s s') : Step s s'

def State.Reachable (s : State) : Prop := Relation.ReflTransGen Step {} s

def State.Stuck (s : State) : Prop := ∀ s', ¬ WorkerStep s s'

/-- Whatever is posted from here on is executed once and in order. -/
def State.Serves (s : State) : Prop :=
  ∀ s', Relation.ReflTransGen ServiceStep s s' →
    s'.executed <+: s'.posted ∧ (s'.Stuck → s'.executed = s'.posted)

def State.waiting (s : State) : List Task :=
  (s.queue.filter fun h => h.cycle = s.cycle).map Handler.task

/-- What holds until the first `stop` gets past its checks. -/
structure Unstopped (s : State) : Prop where
  guard : s.guard = true
  notStopped : s.stopped = false
  notStopping : s.stopping = false
  accounted : s.posted = s.executed ++ s.waiting
  worker : s.effective ≠ [] → s.worker = .loops ∨ s.worker = .runs
  started : s.stage = .none → (s.started = true ↔ s.effective ≠ [])
  spawning : s.stage = .starting → s.started = true ∧ s.effective = []

/-- What every run keeps: the context that was stopped once stays stopped. -/
structure Lifecycle (s : State) : Prop where
  cycles : ∀ h ∈ s.queue, h.cycle ≤ s.cycle
  onceStopped : .stop ∈ s.effective → s.stopped = true
  joining : s.stage = .joining → s.stopped = true
  unstopped : .stop ∉ s.effective → s.stage.inStop = false → Unstopped s

theorem lifecycle_initial : Lifecycle {} where
  cycles := nofun
  onceStopped := nofun
  joining := nofun
  unstopped _ _ := ⟨rfl, rfl, rfl, rfl, nofun, fun _ => ⟨nofun, nofun⟩, nofun⟩

namespace ServiceStep

theorem frame {s s' : State} (step : ServiceStep s s') :
    s'.effective = s.effective ∧ s'.stage = s.stage ∧ s'.started = s.started ∧
      s'.stopping = s.stopping ∧ s'.guard = s.guard ∧ s'.cycle = s.cycle := by
  cases step with
  | post task => exact ⟨rfl, rfl, rfl, rfl, rfl, rfl⟩
  | worker step =>
    cases step with
    | entersRun | leavesRun => exact ⟨rfl, rfl, rfl, rfl, rfl, rfl⟩
    | executes first rest =>
      unfold State.handler
      split_ifs <;> exact ⟨rfl, rfl, rfl, rfl, rfl, rfl⟩

theorem cycles {s s' : State} (step : ServiceStep s s') (h : ∀ x ∈ s.queue, x.cycle ≤ s.cycle) :
    ∀ x ∈ s'.queue, x.cycle ≤ s'.cycle := by
  rw [step.frame.2.2.2.2.2]
  cases step with
  | post task =>
    intro x hx
    simp only [State.post] at hx
    split_ifs at hx
    · exact h x hx
    · rcases List.mem_append.mp hx with old | new
      · exact h x old
      · obtain rfl := List.mem_singleton.mp new
        exact Nat.le_refl _
  | worker step =>
    cases step with
    | entersRun | leavesRun => exact h
    | executes first rest _ _ head =>
      intro x hx
      refine h x ?_
      rw [head]
      unfold State.handler at hx
      split_ifs at hx <;> exact List.mem_cons_of_mem first hx

theorem stopped {s s' : State} (step : ServiceStep s s') (h : s.stopped = true) :
    s'.stopped = true ∧ s'.executed = s.executed := by
  cases step with
  | post task => exact ⟨h, rfl⟩
  | worker step =>
    cases step with
    | entersRun => exact ⟨h, rfl⟩
    | leavesRun => exact ⟨rfl, rfl⟩
    | executes first rest _ live _ => exact absurd (h.symm.trans live) nofun

theorem unstopped {s s' : State} (step : ServiceStep s s') (h : Unstopped s) : Unstopped s' := by
  obtain ⟨effective, stage, started, stopping, guard, _⟩ := step.frame
  have kept : (s'.stage = .none → (s'.started = true ↔ s'.effective ≠ [])) ∧
      (s'.stage = .starting → s'.started = true ∧ s'.effective = []) := by
    rw [effective, stage, started]
    exact ⟨h.started, h.spawning⟩
  rw [h.notStopping] at stopping
  rw [h.guard] at guard
  cases step with
  | post task =>
    refine ⟨guard, h.notStopped, stopping, ?_, h.worker, kept.1, kept.2⟩
    simp [State.post, State.waiting, h.notStopping, h.accounted]
  | worker step =>
    cases step with
    | entersRun =>
      exact ⟨guard, h.notStopped, stopping, h.accounted, fun _ => .inr rfl, kept.1, kept.2⟩
    | leavesRun _ done =>
      rcases done with stopped | ⟨unguarded, _⟩
      · exact absurd (h.notStopped.symm.trans stopped) nofun
      · exact absurd (h.guard.symm.trans unguarded) nofun
    | executes first rest _ _ head =>
      have accounted := h.accounted
      unfold State.waiting at accounted
      rw [head] at accounted
      rw [State.handler_executes h.notStopping] at kept ⊢
      refine ⟨h.guard, h.notStopped, h.notStopping, ?_, fun _ => ?_, kept.1, kept.2⟩
      · by_cases current : first.cycle = s.cycle <;>
          simpa [State.waiting, current] using accounted
      · by_cases leaves : first.task.leavesRun = true
        · exact .inl (if_pos leaves)
        · exact .inr (if_neg leaves)

end ServiceStep

/-- No handler from before an effective start counts as posted since. -/
theorem State.waiting_spawn {s : State} (cycles : ∀ h ∈ s.queue, h.cycle ≤ s.cycle) :
    s.spawn.waiting = [] := by
  have none : s.queue.filter (fun h => decide (h.cycle = s.cycle + 1)) = [] := by
    rw [List.filter_eq_nil_iff]
    intro h hh
    have bound := cycles h hh
    rw [decide_eq_true_iff]
    omega
  change List.map _ (s.queue.filter fun h => decide (h.cycle = s.cycle + 1)) = []
  rw [none]
  rfl

theorem Unstopped.spawn {s : State} (h : Unstopped s) (starting : s.stage = .starting)
    (cycles : ∀ h ∈ s.queue, h.cycle ≤ s.cycle) : Unstopped s.spawn where
  guard := h.guard
  notStopped := h.notStopped
  notStopping := rfl
  accounted := by
    rw [State.waiting_spawn cycles]
    rfl
  worker _ := .inl rfl
  started _ :=
    ⟨fun _ => List.append_ne_nil_of_right_ne_nil _ (List.cons_ne_nil _ _),
      fun _ => (h.spawning starting).1⟩
  spawning := nofun

theorem lifecycle_step {s s' : State} (h : Lifecycle s) (step : Step s s') : Lifecycle s' := by
  cases step with
  | start none =>
    unfold State.start
    split_ifs with started
    · exact h
    · refine ⟨h.cycles, h.onceStopped, nofun, fun never _ => ?_⟩
      have u := h.unstopped never (by rw [none]; rfl)
      refine ⟨u.guard, u.notStopped, u.notStopping, u.accounted, u.worker, nofun, fun _ => ⟨rfl, ?_⟩⟩
      by_contra some
      exact started ((u.started none).mpr some)
  | spawn starting =>
    refine ⟨fun x hx => Nat.le_succ_of_le (h.cycles x hx), fun stopped => ?_, nofun,
      fun never _ => ?_⟩
    · rcases List.mem_append.mp stopped with old | new
      · exact h.onceStopped old
      · cases List.mem_singleton.mp new
    · have u := h.unstopped (fun old => never (List.mem_append_left _ old)) (by rw [starting]; rfl)
      exact u.spawn starting h.cycles
  | stop none =>
    unfold State.stop
    split_ifs
    · exact h
    · exact h
    · exact ⟨h.cycles, h.onceStopped, nofun, fun _ => nofun⟩
  | resetGuard stopping => exact ⟨h.cycles, h.onceStopped, nofun, fun _ => nofun⟩
  | stopContext guardReset => exact ⟨h.cycles, fun _ => rfl, fun _ => rfl, fun _ => nofun⟩
  | join joining joinable =>
    refine ⟨h.cycles, fun _ => h.joining joining, nofun, fun never _ => ?_⟩
    exact absurd (List.mem_append_right _ List.mem_cons_self) never
  | service step =>
    obtain ⟨effective, stage, _⟩ := step.frame
    refine ⟨step.cycles h.cycles, ?_, ?_, ?_⟩
    · rw [effective]
      exact fun once => (step.stopped (h.onceStopped once)).1
    · rw [stage]
      exact fun once => (step.stopped (h.joining once)).1
    · rw [effective, stage]
      exact fun never idle => step.unstopped (h.unstopped never idle)

theorem State.Reachable.lifecycle {s : State} (reachable : s.Reachable) : Lifecycle s := by
  induction reachable with
  | refl => exact lifecycle_initial
  | tail _ step ih => exact lifecycle_step ih step

theorem State.Reachable.service {s s' : State} (reachable : s.Reachable)
    (later : Relation.ReflTransGen ServiceStep s s') :
    s'.Reachable ∧ s'.effective = s.effective ∧ s'.stage = s.stage := by
  induction later with
  | refl => exact ⟨reachable, rfl, rfl⟩
  | tail _ step ih =>
    obtain ⟨reached, effective, stage⟩ := ih
    obtain ⟨sameEffective, sameStage, _⟩ := step.frame
    exact ⟨reached.tail (.service step), sameEffective.trans effective, sameStage.trans stage⟩

/-- A running worker of a context that is not stopped stands still only in front of an
    empty queue. -/
theorem Unstopped.stuck {s : State} (h : Unstopped s) (started : s.effective ≠ [])
    (stuck : s.Stuck) : s.queue = [] := by
  rcases h.worker started with loops | runs
  · exact absurd (.entersRun s loops) (stuck _)
  · cases head : s.queue with
    | nil => rfl
    | cons first rest => exact absurd (.executes s first rest runs h.notStopped head) (stuck _)

theorem WorkerStep.working {s s' : State} (step : WorkerStep s s') :
    s.worker = .loops ∨ s.worker = .runs := by
  cases step with
  | entersRun loops => exact .inl loops
  | executes _ _ runs => exact .inr runs
  | leavesRun runs _ => exact .inr runs

theorem stuck_of_ended {s : State} (ended : s.worker = .absent ∨ s.worker = .returned) :
    s.Stuck := by
  intro s' step
  have working := step.working
  rcases ended with ended | ended
  · rw [ended] at working
    exact working.elim nofun nofun
  · rw [ended] at working
    exact working.elim nofun nofun

/-- Where the context is stopped, the worker comes to its end and has executed nothing. -/
theorem stuck_of_stopped {s : State} (stopped : s.stopped = true) :
    ∃ s', Relation.ReflTransGen ServiceStep s s' ∧ s'.Stuck ∧ s'.posted = s.posted ∧
      s'.executed = s.executed := by
  cases worker : s.worker with
  | absent => exact ⟨s, .refl, stuck_of_ended (.inl worker), rfl, rfl⟩
  | returned => exact ⟨s, .refl, stuck_of_ended (.inr worker), rfl, rfl⟩
  | runs =>
    exact ⟨s.leaveRun, .single (.worker (.leavesRun s worker (.inl stopped))),
      stuck_of_ended (.inr rfl), rfl, rfl⟩
  | loops =>
    have enters : ServiceStep s { s with worker := .runs } := .worker (.entersRun s worker)
    exact ⟨_, (Relation.ReflTransGen.single enters).tail
      (.worker (.leavesRun _ rfl (.inl stopped))), stuck_of_ended (.inr rfl), rfl, rfl⟩

/-- A started executor serves what is posted to it exactly if no `stop` before took
    effect: neither the guard nor the context is ever set up again. -/
theorem serves_iff_never_stopped (s : State) (reachable : s.Reachable)
    (completed : s.stage = .none) (latest : s.effective.getLast? = some .start) :
    s.Serves ↔ .stop ∉ s.effective := by
  have started : s.effective ≠ [] := by
    intro none
    rw [none] at latest
    cases latest
  constructor
  · intro serves stop
    have stopped := reachable.lifecycle.onceStopped stop
    obtain ⟨s', later, stuck, posted, executed⟩ :=
      stuck_of_stopped (s := s.post ⟨0, .returns⟩) stopped
    have all := (serves s' (.head (.post s ⟨0, .returns⟩) later)).2 stuck
    have before := (serves s .refl).1.length_le
    rw [posted, executed] at all
    have lengths := congrArg List.length all
    simp only [State.post, List.length_append, List.length_singleton] at lengths
    omega
  · intro never s' later
    obtain ⟨reached, effective, stage⟩ := reachable.service later
    have u := reached.lifecycle.unstopped (by rw [effective]; exact never)
      (by rw [stage, completed]; rfl)
    refine ⟨?_, fun stuck => ?_⟩
    · rw [u.accounted]
      exact List.prefix_append _ _
    · have empty := u.stuck (by rw [effective]; exact started) stuck
      rw [u.accounted, State.waiting, empty, List.filter_nil, List.map_nil, List.append_nil]

def firstStarted : State := State.spawn (State.start {})

theorem firstStarted_reachable : firstStarted.Reachable :=
  (Relation.ReflTransGen.single (.start {} rfl)).tail (.spawn _ rfl)

theorem serves_first_started : firstStarted.Serves :=
  (serves_iff_never_stopped firstStarted firstStarted_reachable rfl rfl).mpr (by decide)

/-- Started, stopped before the worker's thread got anywhere, and started again. -/
def restarted : State :=
  let stopped := firstStarted.stop.resetGuard.stopContext
  let returned := { stopped with worker := .runs }.leaveRun
  returned.join.start.spawn

theorem restarted_reachable : restarted.Reachable := by
  have stopped : State.Reachable firstStarted.stop.resetGuard.stopContext :=
    ((firstStarted_reachable.tail (.stop _ rfl)).tail (.resetGuard _ rfl)).tail (.stopContext _ rfl)
  have returned := (stopped.tail (.service (.worker (.entersRun _ rfl)))).tail
    (.service (.worker (.leavesRun _ rfl (.inl rfl))))
  exact ((returned.tail (.join _ rfl (.inr rfl))).tail (.start _ rfl)).tail (.spawn _ rfl)

/-- A task posted then is accepted, and is still queued when the worker can do no more. -/
theorem restarted_drops :
    restarted.Reachable ∧ restarted.stage = .none ∧ restarted.effective.getLast? = some .start ∧
      ¬ restarted.Serves := by
  refine ⟨restarted_reachable, rfl, rfl, fun serves => ?_⟩
  obtain ⟨s', later, stuck, posted, executed⟩ :=
    stuck_of_stopped (s := restarted.post ⟨7, .returns⟩) rfl
  have all := (serves s' (.head (.post restarted ⟨7, .returns⟩) later)).2 stuck
  rw [posted, executed] at all
  cases all

end RdpExt.ExecutorLifecycle
