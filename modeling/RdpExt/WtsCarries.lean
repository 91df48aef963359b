import RdpExt.WtsRuntime
import RdpExt.OrderedFlow

set_option autoImplicit false

/-!
# What the channels carry

What the controller's handlers are called with goes through the machine and comes out as
buffers on the channels. A channel may lose what it should carry, but it carries nothing
else, and as long as it is open and no write on it has failed or was short it has lost
nothing.
-/
namespace RdpExt.WtsRuntime
open ProtocolMessage ProtocolSerializer LogicEvents LogicServer DeferredOutput Controller
open WtsChannel WtsThreads
open WtsTransport (ServerLoop stampedController settled outstanding)
open ConnectionScope (Scoped Runnable)
open OrderedFlow

def ran (zpp : ZppBits) (heard : List ServerCallback) :
    (ServerState × ℕ) × List (ServerEffect × ℕ) :=
  (stampedController zpp).run ({}, 0) (heard.filterMap (stampedController zpp).decode)

/-- The calls it makes then, each with its connection. -/
def said (zpp : ZppBits) (heard : List ServerCallback) : List (TransportCall × ℕ) :=
  (stampedController zpp).posts (ran zpp heard).2

def calls (written : List Write) : List (TransportCall × ℕ) :=
  written.map fun x => (.send x.bytes, x.connection)

/-- What the channels accepted, each piece with the connection of its call. -/
def accepted (written : List Write) : List (TransportCall × ℕ) :=
  written.map fun x => (.send x.accepted, x.connection)

/-- Channel `k` is open, and the executor is not on its way to close it, as it is behind a
    write that failed. -/
def Carrying (w : Runtime) (k : ℕ) : Prop :=
  w.threads.wts.channel = some k ∧ ∀ failed, w.threads.executor ≠ .closing failed

section
variable {zpp : ZppBits} {w w' : Runtime}

theorem hears_one {l : ServerLoop} {heard : List ServerCallback}
    (state : settled zpp l = (ran zpp heard).1) (callback : ServerCallback) :
    settled zpp (l.arrive callback) = (ran zpp (heard ++ [callback])).1 ∧
      ∃ new, outstanding zpp (l.arrive callback) = outstanding zpp l ++ new ∧
        said zpp (heard ++ [callback]) = said zpp heard ++ new := by
  unfold settled ran at state
  unfold settled outstanding said ran
  rw [Wiring.future_arrive, List.filterMap_append, Wiring.run_append, Wiring.posts_append]
  cases decoded : (stampedController zpp).decode callback with
  | none =>
    rw [List.filterMap_cons_none decoded]
    exact ⟨state, [], (List.append_nil _).symm, rfl⟩
  | some event =>
    rw [List.filterMap_cons_some decoded, state]
    refine ⟨rfl, _, rfl, ?_⟩
    exact congrArg (_ ++ (stampedController zpp).posts ·) (List.append_nil _)

/-- What is said for a callback is stamped with the connection that it leaves. -/
theorem hears {l : ServerLoop} {heard : List ServerCallback}
    (state : settled zpp l = (ran zpp heard).1) (callback : Option ServerCallback) :
    settled zpp (ServerLoop.arriveAll l callback) = (ran zpp (heard ++ callback.toList)).1 ∧
      ∃ new, outstanding zpp (ServerLoop.arriveAll l callback) = outstanding zpp l ++ new ∧
        said zpp (heard ++ callback.toList) = said zpp heard ++ new ∧
        ∀ call ∈ new, call.2 = (settled zpp (ServerLoop.arriveAll l callback)).2 := by
  cases callback with
  | none =>
    refine ⟨?_, [], (List.append_nil _).symm, ?_, nofun⟩
    · exact state.trans (congrArg (fun all => (ran zpp all).1) (List.append_nil heard).symm)
    · exact (congrArg (said zpp) (List.append_nil heard)).trans (List.append_nil _).symm
  | some callback =>
    obtain ⟨state', new, left, told⟩ := hears_one state callback
    refine ⟨state', new, left, told, fun call hcall => ?_⟩
    obtain ⟨sends, outputs⟩ := ConnectionScope.outstanding_arrive zpp l callback
    rw [List.append_cancel_left (left.symm.trans outputs)] at hcall
    obtain ⟨_, _, rfl⟩ := List.mem_map.mp hcall
    rfl

/-- What a step does to the controller, to what was heard and to what was written. -/
inductive Effect (zpp : ZppBits) (w w' : Runtime) : Prop where
  | hears (callback : Option ServerCallback)
      (loop : w'.view.loop = ServerLoop.arriveAll w.view.loop callback)
      (heard : w'.heard = w.heard ++ callback.toList) (written : w'.written = w.written)
  | works (exec : Exec (stampedController zpp) w.view.loop none w'.view.loop)
      (heard : w'.heard = w.heard) (written : w'.written = w.written)
  | writes (x : Write)
      (exec : Exec (stampedController zpp) w.view.loop (some (.send x.bytes, x.connection))
        w'.view.loop)
      (heard : w'.heard = w.heard) (written : w'.written = w.written ++ [x])
      (channel : w.threads.wts.channel = some x.channel) (part : x.accepted <+: x.bytes)
  | loses (call : TransportCall × ℕ)
      (exec : Exec (stampedController zpp) w.view.loop (some call) w'.view.loop)
      (heard : w'.heard = w.heard) (written : w'.written = w.written)
      (lost : w'.threads.wts.channel = none ∨ ∃ failed, w'.threads.executor = .closing failed)

theorem effect_sends (h : Kept w) {loop' : ServerLoop} {bytes : Buffer} {connection : ℕ}
    (free : w.threads.executor = .idle)
    (exec : Exec (stampedController zpp) w.loop (some (.send bytes, connection)) loop') :
    Effect zpp w { w with
      threads := { w.threads with
        executor := if w.threads.wts.usable then .writes bytes else .idle }
      loop := loop', sending := connection } := by
  have invalid := h.unusable
  obtain ⟨⟨wts, point, executor⟩, loop, called, sending, written, heard⟩ := w
  obtain rfl : executor = .idle := free
  by_cases usable : wts.usable = true
  · rw [if_pos usable]
    obtain rfl : loop = _ := (exec_output exec).2
    exact .hears none rfl (List.append_nil _).symm rfl
  · rw [if_neg usable]
    exact .loses _ exec rfl rfl (.inl (invalid usable))

theorem effect_executor (h : Kept w) (busy : w.threads.executor ≠ .idle)
    {threads' : WtsThreads.System} (step : WtsThreads.Step w.threads .executor threads') :
    Effect zpp w { w with
      threads := threads'
      loop := ServerLoop.arriveAll w.loop (executorReported w.threads)
      written := w.writes threads'
      heard := w.heard ++ (executorReported w.threads).toList } := by
  have alone := h.alone
  obtain ⟨⟨wts, point, executor⟩, loop, called, sending, written, heard⟩ := w
  have at' {p : ExecutorPoint} (here : executor = p) : executor = p := here
  have output (bytes : Buffer) (writes : executor = .writes bytes) :
      Exec (stampedController zpp) (unsent (.writes bytes) sending loop)
        (some (.send bytes, sending)) loop := .output _ _ _ (alone bytes writes) rfl
  cases step with
  | sends _ idle | closeRequested idle => exact absurd idle busy
  | writes bytes bytesWritten here =>
    obtain rfl := at' here
    cases valid : wts.channel with
    | none =>
      unfold Runtime.writes
      rw [valid]
      exact .loses _ (output bytes rfl) (List.append_nil _) rfl (.inl valid)
    | some k =>
      unfold Runtime.writes
      rw [valid]
      refine .writes ⟨⟨k, sending, bytes⟩, _⟩ (output bytes rfl) (List.append_nil _) rfl valid ?_
      change (wts.accepted ++ bytes.take bytesWritten).drop wts.accepted.length <+: bytes
      rw [List.drop_left]
      exact List.take_prefix _ _
  | writeFails bytes here =>
    obtain rfl := at' here
    exact .loses _ (output bytes rfl) (List.append_nil _) rfl (.inr ⟨wts.channel, rfl⟩)
  | executorCloses failed here =>
    obtain rfl := at' here
    refine .hears none ?_ rfl rfl
    change unsent (if _ then _ else _) _ _ = _
    split_ifs <;> rfl
  | executorReports here =>
    obtain rfl := at' here
    exact .hears (some .disconnected) rfl rfl rfl

theorem effect (h : Kept w) (step : Step zpp w w') : Effect zpp w w' := by
  cases step with
  | runs first threads' step =>
    refine .hears none ?_ (List.append_nil _).symm rfl
    change unsent threads'.executor _ _ = _
    rw [executor_of_transport step]
    rfl
  | transport drawn inside threads' step =>
    refine .hears (reported w.threads drawn) ?_ rfl rfl
    change unsent threads'.executor _ _ = _
    rw [executor_of_transport step]
    exact unsent_arriveAll _ _ _ _
  | stops called returned => exact absurd returned (h.inside called)
  | samples sample =>
    exact .hears (some (.sample sample)) (unsent_arriveAll _ _ _ (some (.sample sample))) rfl rfl
  | executes loop' free exec =>
    refine .works ?_ rfl rfl
    change Exec _ (unsent _ _ w.loop) none (unsent _ _ loop')
    rw [unsent_of_idle free, unsent_of_idle free]
    exact exec
  | sends loop' bytes connection free exec => exact effect_sends h free exec
  | closesOnRequest loop' connection free exec =>
    refine .loses (.close, connection) ?_ rfl rfl (.inr ⟨none, rfl⟩)
    change Exec _ (unsent _ _ w.loop) _ loop'
    rw [unsent_of_idle free]
    exact exec
  | executor busy threads' step => exact effect_executor h busy step

/-- In every run: what was written and what is left to send, in this order, are among what
    was said. -/
structure Accounted (zpp : ZppBits) (w : Runtime) : Prop where
  state : settled zpp w.view.loop = (ran zpp w.heard).1
  flow : Flow False [] (said zpp w.heard) (calls w.written) (outstanding zpp w.view.loop)
  parts : ∀ x ∈ w.written, x.accepted <+: x.bytes

theorem accounted_start : Accounted zpp {} := ⟨rfl, .idle [], nofun⟩

theorem accounted_step (acc : Accounted zpp w) (h : Kept w) (step : Step zpp w w') :
    Accounted zpp w' := by
  have ahead {out : Option (TransportCall × ℕ)}
      (exec : Exec (stampedController zpp) w.view.loop out w'.view.loop)
      (heard : w'.heard = w.heard) : settled zpp w'.view.loop = (ran zpp w'.heard).1 := by
    rw [heard, (ConnectionScope.future_exec zpp exec).1]
    exact acc.state
  have leaves {out : Option (TransportCall × ℕ)}
      (exec : Exec (stampedController zpp) w.view.loop out w'.view.loop) :
      Flow False (outstanding zpp w.view.loop) [] out.toList (outstanding zpp w'.view.loop) := by
    refine ⟨?_, False.elim⟩
    rw [List.append_nil]
    exact (ConnectionScope.future_exec zpp exec).2
  cases effect h step with
  | hears callback loop heard written =>
    obtain ⟨state, new, left, told, _⟩ := hears acc.state callback
    refine ⟨?_, ?_, by rw [written]; exact acc.parts⟩
    · rw [loop, heard]
      exact state
    · rw [loop, heard, written, left, told]
      exact acc.flow.then_enters (.enters _ _)
  | works exec heard written =>
    refine ⟨ahead exec heard, ?_, by rw [written]; exact acc.parts⟩
    rw [heard, written]
    exact acc.flow.then_stays (leaves exec)
  | writes x exec heard written _ part =>
    refine ⟨ahead exec heard, ?_, ?_⟩
    · rw [heard, written]
      unfold calls
      rw [List.map_append]
      exact acc.flow.then_leaves (leaves exec)
    · rw [written]
      intro y hy
      rcases List.mem_append.mp hy with old | new
      · exact acc.parts y old
      · rw [List.mem_singleton.mp new]
        exact part
  | loses call exec heard written =>
    -- The call leaves the executor, but no channel takes it.
    refine ⟨ahead exec heard, ?_, by rw [written]; exact acc.parts⟩
    rw [heard, written]
    refine acc.flow.then_stays ⟨?_, False.elim⟩
    rw [List.append_nil]
    exact (List.sublist_append_right [call] _).trans (ConnectionScope.future_exec zpp exec).2

theorem channel_of_transport {v v' : WtsThreads.System} (step : WtsThreads.Step v .transport v') :
    v'.wts.channel = v.wts.channel ∨ v'.wts.channel = none ∨
      ∃ handle, v.transport = .installs handle ∧ v'.transport = .reportsOpen := by
  cases step with
  | installs handle here =>
    unfold WtsTransport.install
    split_ifs
    · exact .inl rfl
    · exact .inl rfl
    · exact .inr (.inr ⟨handle, here, rfl⟩)
  | tries =>
    unfold WtsTransport.tryOpenCheck
    split_ifs <;> exact .inl rfl
  | closes => exact .inr (.inl rfl)
  | _ => exact .inl rfl

/-- What carries behind a step did so before, or is taken in it. -/
theorem carrying_before (h : Kept w) (step : Step zpp w w') {k : ℕ} (carrying : Carrying w' k) :
    Carrying w k ∨ Takes w w' ∧ w'.heard = w.heard ∧ w'.written = w.written := by
  obtain ⟨valid, sound⟩ := carrying
  cases step with
  | runs first threads' step =>
    rw [executor_of_transport step] at sound
    rcases channel_of_transport step with same | closed | ⟨handle, here, opened⟩
    · exact .inl ⟨same.symm.trans valid, sound⟩
    · cases closed.symm.trans valid
    · exact .inr ⟨⟨opened, by rw [here]; exact nofun⟩, rfl, rfl⟩
  | transport drawn inside threads' step =>
    rw [executor_of_transport step] at sound
    rcases channel_of_transport step with same | closed | ⟨handle, here, opened⟩
    · exact .inl ⟨same.symm.trans valid, sound⟩
    · cases closed.symm.trans valid
    · refine .inr ⟨⟨opened, by rw [here]; exact nofun⟩, ?_, rfl⟩
      unfold reported
      rw [here]
      exact List.append_nil _
  | stops called returned => exact absurd returned (h.inside called)
  | samples | executes => exact .inl ⟨valid, sound⟩
  | sends loop' bytes connection free exec => exact .inl ⟨valid, by rw [free]; exact nofun⟩
  | closesOnRequest => exact absurd rfl (sound none)
  | executor busy threads' step =>
    cases step with
    | sends _ idle | closeRequested idle => exact absurd idle busy
    | writes _ _ here | executorReports here => exact .inl ⟨valid, by rw [here]; exact nofun⟩
    | writeFails => exact absurd rfl (sound _)
    | executorCloses => cases valid

/-- In every run whose installs find nothing left to send: a channel that carries has lost
    nothing of what was said for its connection. -/
structure Carried (zpp : ZppBits) (w : Runtime) : Prop where
  stamped : ∀ call ∈ said zpp w.heard, call.2 ≤ (settled zpp w.view.loop).2
  whole : ∀ k, Carrying w k →
    calls (w.written.filter (·.channel = k)) ++ outstanding zpp w.view.loop =
      (said zpp w.heard).filter (·.2 = k)

theorem carried_start : Carried zpp {} := ⟨nofun, fun _ carrying => absurd carrying.1 nofun⟩

structure Orderly (zpp : ZppBits) (w : Runtime) : Prop where
  kept : Kept w
  sound : ConnectionScope.Sound zpp w.view
  inScope : ∀ k, Scoped zpp k w.view
  runnable : Runnable zpp w.view.loop
  accounted : Accounted zpp w

theorem Runtime.Reachable.accounted (reachable : w.Reachable zpp) : Accounted zpp w := by
  induction reachable with
  | refl => exact accounted_start
  | tail run step ih => exact accounted_step ih (Runtime.Reachable.kept run) step

theorem orderly (documented : zpp.Documented) (run : Relation.ReflTransGen (Guarded zpp) {} w) :
    Orderly zpp w := by
  have plain : w.Reachable zpp := Relation.ReflTransGen.mono (fun _ _ step => step.1) _ _ run
  obtain ⟨_, seen, _, rfl⟩ := guarded_answers.run ⟨kept_start, rfl⟩ run
  exact ⟨plain.kept, ConnectionScope.sound_run plain.seen,
    fun k => (ConnectionScope.scoped_run k seen).2,
    ConnectionScope.runnable_run documented plain.seen, plain.accounted⟩

theorem settled_arriveAll_le (l : ServerLoop) (callback : Option ServerCallback) :
    (settled zpp l).2 ≤ (settled zpp (ServerLoop.arriveAll l callback)).2 := by
  cases callback with
  | none => exact Nat.le_refl _
  | some callback => exact ConnectionScope.settled_arrive_le l callback

theorem stamped_step (acc : Accounted zpp w) (effect : Effect zpp w w')
    (stamped : ∀ call ∈ said zpp w.heard, call.2 ≤ (settled zpp w.view.loop).2) :
    ∀ call ∈ said zpp w'.heard, call.2 ≤ (settled zpp w'.view.loop).2 := by
  cases effect with
  | hears callback loop heard =>
    obtain ⟨_, new, _, told, stamps⟩ := hears acc.state callback
    rw [loop, heard, told]
    intro call hcall
    rcases List.mem_append.mp hcall with old | new
    · exact (stamped call old).trans (settled_arriveAll_le _ callback)
    · exact Nat.le_of_eq (stamps call new)
  | works exec heard | writes _ exec heard | loses _ exec heard =>
    rw [heard, (ConnectionScope.future_exec zpp exec).1]
    exact stamped

theorem Carrying.unlocked {k : ℕ} (carrying : Carrying w k) : w.view.closing ≠ some .locks :=
  fun locks => (closingOf_locks.mp locks).elim carrying.2

/-- What is said for a callback is for the channel that is open then. -/
theorem new_in_scope (behind : Orderly zpp w') {new : List (TransportCall × ℕ)} {k : ℕ}
    (carrying : Carrying w' k)
    (left : ∀ call ∈ new, call ∈ outstanding zpp w'.view.loop) :
    new.filter (·.2 = k) = new := by
  rw [List.filter_eq_self]
  intro call hcall
  exact decide_eq_true ((behind.inScope k).fresh carrying.1 carrying.unlocked call (left call hcall))

/-- A channel that is taken carries nothing yet, and nothing was said for it. -/
theorem whole_taken (before : Orderly zpp w) (behind : Orderly zpp w') (step : Step zpp w w')
    (h : Carried zpp w) (takes : Takes w w') {k : ℕ} (carrying : Carrying w' k) :
    calls (w.written.filter (·.channel = k)) ++ outstanding zpp w'.view.loop =
      (said zpp w.heard).filter (·.2 = k) := by
  have taken := (view_taken before.kept step takes).2
  have number : k = w.view.opened + 1 := by
    rw [behind.sound.tracked.current k carrying.1, taken]
    rfl
  have nothing : outstanding zpp w'.view.loop = [] :=
    (behind.inScope k).quiet carrying.1 carrying.unlocked (phaseOf_opened.mpr takes.1)
  have unwritten : w.written.filter (·.channel = k) = [] := by
    rw [List.filter_eq_nil_iff]
    intro x hx
    have earlier := before.sound.numbered x.toWritten (List.mem_map_of_mem hx)
    rw [decide_eq_true_iff]
    omega
  have unsaid : (said zpp w.heard).filter (·.2 = k) = [] := by
    rw [List.filter_eq_nil_iff]
    intro call hcall
    have earlier := h.stamped call hcall
    have total := before.sound.tracked.settled_of_ne fun opening =>
      takes.2 (phaseOf_opened.mp opening)
    rw [decide_eq_true_iff]
    omega
  rw [nothing, unwritten, unsaid]
  rfl

theorem whole_step (before : Orderly zpp w) (behind : Orderly zpp w') (step : Step zpp w w')
    (h : Carried zpp w) {k : ℕ} (carrying : Carrying w' k) :
    calls (w'.written.filter (·.channel = k)) ++ outstanding zpp w'.view.loop =
      (said zpp w'.heard).filter (·.2 = k) := by
  rcases carrying_before before.kept step carrying with carried | ⟨takes, heard, written⟩
  · have whole := h.whole k carried
    have safe {out : Option (TransportCall × ℕ)}
        (exec : Exec (stampedController zpp) w.view.loop out w'.view.loop) :
        outstanding zpp w.view.loop = out.toList ++ outstanding zpp w'.view.loop :=
      ((stampedController zpp).exec_future exec).2.2 before.runnable.safe
    cases effect before.kept step with
    | hears callback loop heard written =>
      obtain ⟨_, new, left, told, _⟩ := hears before.accounted.state callback
      rw [← loop] at left
      have scope := new_in_scope behind carrying fun call hcall => by
        rw [left]
        exact List.mem_append_right _ hcall
      rw [written, heard, left, told, List.filter_append, scope, ← List.append_assoc, whole]
    | works exec heard written =>
      rw [written, heard, ← whole, safe exec]
      rfl
    | writes x exec heard written channel =>
      obtain rfl : x.channel = k := Option.some.inj (channel.symm.trans carried.1)
      rw [written, heard, ← whole, safe exec, List.filter_append]
      unfold calls
      have kept : [x].filter (·.channel = x.channel) = [x] :=
        List.filter_cons_of_pos (decide_eq_true rfl)
      rw [kept, List.map_append, List.append_assoc]
      rfl
    | loses call exec heard written lost =>
      rcases lost with closed | ⟨failed, closing⟩
      · cases closed.symm.trans carrying.1
      · exact absurd closing (carrying.2 failed)
  · rw [heard, written]
    exact whole_taken before behind step h takes carrying

theorem carried_step (before : Orderly zpp w) (behind : Orderly zpp w') (step : Step zpp w w')
    (h : Carried zpp w) : Carried zpp w' where
  stamped := stamped_step before.accounted (effect before.kept step) h.stamped
  whole _ carrying := whole_step before behind step h carrying

theorem carried (documented : zpp.Documented) (run : Relation.ReflTransGen (Guarded zpp) {} w) :
    Carried zpp w := by
  induction run with
  | refl => exact carried_start
  | tail run step ih =>
    exact carried_step (orderly documented run) (orderly documented (run.tail step)) step.1 ih

end

end RdpExt.WtsRuntime
