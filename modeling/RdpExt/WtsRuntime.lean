import RdpExt.ConnectionScope
import RdpExt.WtsReconnect
import RdpExt.RankedRefinement

set_option autoImplicit false

/-!
# The server as a whole: `wts_runtime.cpp`

`run` of the runtime starts the executor, runs the transport on its own thread, and stops
it once that has returned. Here the controller is wired to the transport of which every
block, every call and every look at `running_` is a step. Seen at its locks, this server
is the one in which `tryOpenChannel`, `readOnce`, `send` and `closeChannel` are a step or
two each.
-/
namespace RdpExt.WtsRuntime
open ProtocolMessage ProtocolSerializer LogicEvents DeferredOutput Controller WtsChannel WtsThreads
open WtsTransport (Server ServerLoop Phase Closing Written stampedController)
open ConnectionScope (Ready ReadyOpens)
open RankedRefinement

/-- A write that has reported success, and what the channel accepted of its bytes. -/
structure Write extends Written where
  accepted : Buffer
  deriving DecidableEq, Repr

/-- `called`: `run` was called. `sending`: the connection for which the buffer was made that
    the executor has taken for `send`. `heard`: what the controller's handlers were called
    with. -/
structure Runtime where
  threads : WtsThreads.System := {}
  loop : ServerLoop := { machine := ({}, 0) }
  called : Bool := false
  sending : ℕ := 0
  written : List Write := []
  heard : List ServerCallback := []

/-- The handler that the transport's thread calls in its next step. -/
def reported (w : WtsThreads.System) (drawn : InstanceId) : Option ServerCallback :=
  match w.transport with
  | .reportsOpen => some (.connected drawn)
  | .reportsClose _ => some .disconnected
  | .hands bytes => if 0 < bytes.length then some (.bytes bytes) else none
  | _ => none

def executorReported (w : WtsThreads.System) : Option ServerCallback :=
  match w.executor with
  | .reportsClose => some .disconnected
  | _ => none

def ServerLoop.arriveAll (l : ServerLoop) (callback : Option ServerCallback) : ServerLoop :=
  callback.elim l l.arrive

/-- `bytesWritten` of the bytes are accepted as `WTSVirtualChannelWrite` succeeds. -/
def Runtime.writes (w : Runtime) (threads' : WtsThreads.System) : List Write :=
  match w.threads.executor, threads'.executor, w.threads.wts.channel with
  | .writes bytes, .idle, some k =>
    w.written ++
      [⟨⟨k, w.sending, bytes⟩, threads'.wts.accepted.drop w.threads.wts.accepted.length⟩]
  | _, _, _ => w.written

inductive Step (zpp : ZppBits) : Runtime → Runtime → Prop where
  | runs (w : Runtime) (first : w.called = false) (threads' : WtsThreads.System)
      (step : WtsThreads.Step w.threads .transport threads') :
      Step zpp w { w with threads := threads', called := true }
  | transport (w : Runtime) (drawn : InstanceId) (inside : w.threads.transport ≠ .stopped)
      (threads' : WtsThreads.System) (step : WtsThreads.Step w.threads .transport threads') :
      Step zpp w { w with
        threads := threads', loop := ServerLoop.arriveAll w.loop (reported w.threads drawn)
        heard := w.heard ++ (reported w.threads drawn).toList }
  -- Only `WtsRuntime::run` calls `stop`, behind the transport's `run`.
  | stops (w : Runtime) (called : w.called = true) (returned : w.threads.transport = .stopped)
      (threads' : WtsThreads.System) (step : WtsThreads.Step w.threads .other threads') :
      Step zpp w { w with threads := threads' }
  -- The timer's tick is a task of the executor's own.
  | samples (w : Runtime) (sample : CpuSample) (free : w.threads.executor = .idle)
      (idle : w.loop.effects = []) :
      Step zpp w { w with
        loop := w.loop.arrive (.sample sample), heard := w.heard ++ [.sample sample] }
  | executes (w : Runtime) (loop' : ServerLoop) (free : w.threads.executor = .idle)
      (exec : Exec (stampedController zpp) w.loop none loop') : Step zpp w { w with loop := loop' }
  | sends (w : Runtime) (loop' : ServerLoop) (bytes : Buffer) (connection : ℕ)
      (free : w.threads.executor = .idle)
      (exec : Exec (stampedController zpp) w.loop (some (.send bytes, connection)) loop') :
      Step zpp w { w with
        threads := { w.threads with
          executor := if w.threads.wts.usable then .writes bytes else .idle }
        loop := loop', sending := connection }
  | closesOnRequest (w : Runtime) (loop' : ServerLoop) (connection : ℕ)
      (free : w.threads.executor = .idle)
      (exec : Exec (stampedController zpp) w.loop (some (.close, connection)) loop') :
      Step zpp w { w with threads := { w.threads with executor := .closing none }, loop := loop' }
  | executor (w : Runtime) (busy : w.threads.executor ≠ .idle) (threads' : WtsThreads.System)
      (step : WtsThreads.Step w.threads .executor threads') :
      Step zpp w { w with
        threads := threads'
        loop := ServerLoop.arriveAll w.loop (executorReported w.threads)
        written := w.writes threads'
        heard := w.heard ++ (executorReported w.threads).toList }

def Runtime.Reachable (zpp : ZppBits) (w : Runtime) : Prop :=
  Relation.ReflTransGen (WtsRuntime.Step zpp) {} w

/-- Where `run` is, seen at its locks: an open counts from where `channel_` is taken. -/
def phaseOf : TransportPoint → Phase
  | .reportsOpen => .opened
  | .inner | .readChecks => .reading
  | .reads | .received _ | .hands _ => .inRead
  | .closing _ _ => .closing .locks
  | .reportsClose _ => .closing .reports
  | .stopped | .outer | .tries | .opening | .openFails | .installs _ | .retries => .idle

def closingOf : ExecutorPoint → Option Closing
  | .closing _ => some .locks
  | .reportsClose => some .reports
  | .idle | .writes _ => none

/-- The loop with the buffer in its queue that `send` has yet to write. -/
def unsent (executor : ExecutorPoint) (sending : ℕ) (l : ServerLoop) : ServerLoop :=
  match executor with
  | .writes bytes => { l with queue := .output (.send bytes, sending) :: l.queue }
  | _ => l

def Runtime.view (w : Runtime) : Server where
  loop := unsent w.threads.executor w.sending w.loop
  phase := phaseOf w.threads.transport
  closing := closingOf w.threads.executor
  channel := w.threads.wts.channel
  -- The handle that `install` is about to take is not yet a channel.
  opened := w.threads.wts.opened - if w.threads.transport.brings.isSome then 1 else 0
  written := w.written.map Write.toWritten

/-- The handle on its way into `channel_` is the last one opened. -/
def Newest (w : WtsThreads.System) : Prop :=
  ∀ handle, w.transport.brings = some handle → w.wts.opened = handle ∧ 0 < handle

theorem newest_step (w : WtsThreads.System) (party : Party) (w' : WtsThreads.System)
    (h : Newest w) (step : WtsThreads.Step w party w') : Newest w' := by
  cases step with
  | opens here =>
    rintro _ ⟨⟩
    exact ⟨rfl, Nat.succ_pos _⟩
  | outerLoop | retries | innerLoop | readChecks | received =>
    unfold Newest
    split_ifs <;> exact nofun
  | tries here =>
    unfold Newest WtsTransport.tryOpenCheck
    split_ifs <;> exact nofun
  | installs handle here =>
    unfold Newest WtsTransport.install
    split_ifs <;> exact nofun
  | closes failed leaves here =>
    unfold Newest
    split_ifs <;> cases leaves <;> exact nofun
  | reportsClose leaves here => cases leaves <;> exact nofun
  | runs | opensNothing | openFails | reportsOpen | readFails | reads | handles =>
    exact nofun
  | sends | writes | writeFails | closeRequested | executorCloses | executorReports | stops =>
    exact h

structure Kept (w : Runtime) : Prop where
  threads : w.threads.Reachable
  newest : Newest w.threads
  serves : w.called = true → w.threads.wts.running = true
  waits : w.called = false → w.threads.transport = .stopped ∧ w.threads.wts.channel = none
  alone : ∀ bytes, w.threads.executor = .writes bytes → w.loop.effects = []

section
variable {v v' : WtsThreads.System}

theorem runs_stopped (step : WtsThreads.Step v .transport v') (here : v.transport = .stopped) :
    v' = { v with wts := { v.wts with running := true }, transport := .outer } := by
  cases step with
  | runs => rfl
  | outerLoop there | tries there | opens there | opensNothing there | openFails there
  | installs _ there | reportsOpen there | retries there | innerLoop there | readChecks there
  | readFails there | reads _ there | received _ there | handles _ there | closes _ _ there
  | reportsClose _ there => cases here.symm.trans there

theorem executor_of_transport (step : WtsThreads.Step v .transport v') :
    v'.executor = v.executor := by
  cases step <;> rfl

/-- A call of the executor's that is under way ends without another `send`. -/
theorem executor_goes_on (step : WtsThreads.Step v .executor v') (busy : v.executor ≠ .idle) :
    v'.transport = v.transport ∧ (v.wts.channel = none → v'.wts.channel = none) ∧
      ∀ bytes, v'.executor ≠ .writes bytes := by
  cases step with
  | sends _ idle | closeRequested idle => exact absurd idle busy
  | writes | writeFails | executorReports => exact ⟨rfl, id, nofun⟩
  | executorCloses failed here =>
    refine ⟨rfl, fun _ => rfl, fun bytes => ?_⟩
    change (if _ then _ else _) ≠ _
    split_ifs <;> exact nofun

end

theorem exec_output {zpp : ZppBits} {l l' : ServerLoop} {b : TransportCall × ℕ}
    (exec : Exec (stampedController zpp) l (some b) l') :
    l'.effects = [] ∧ l = { l' with queue := .output b :: l'.queue } := by
  cases exec with
  | output _ rest idle head => exact ⟨idle, by rw [← head]⟩

@[simp] theorem arriveAll_effects (l : ServerLoop) (callback : Option ServerCallback) :
    (ServerLoop.arriveAll l callback).effects = l.effects := by
  cases callback <;> rfl

section
variable {zpp : ZppBits} {w w' : Runtime}

theorem Kept.threads_step (h : Kept w) {party : Party} {threads' : WtsThreads.System}
    (step : WtsThreads.Step w.threads party threads') : threads'.Reachable ∧ Newest threads' :=
  ⟨h.threads.tail step, newest_step _ _ _ h.newest step⟩

/-- Once called, `run` of the transport does not return: nobody clears `running_`. -/
theorem Kept.inside (h : Kept w) (called : w.called = true) : w.threads.transport ≠ .stopped := by
  intro here
  have stays := WtsReconnect.looping h.threads (h.serves called)
  rw [here] at stays
  cases stays

theorem kept_step (h : Kept w) (step : Step zpp w w') : Kept w' := by
  cases step with
  | runs first threads' step =>
    obtain ⟨here, _⟩ := h.waits first
    have same := runs_stopped step here
    obtain ⟨threads, newest⟩ := h.threads_step step
    refine ⟨threads, newest, fun _ => by rw [same], nofun, fun bytes writes => ?_⟩
    exact h.alone bytes (by rw [← executor_of_transport step]; exact writes)
  | transport drawn inside threads' step =>
    obtain ⟨threads, newest⟩ := h.threads_step step
    refine ⟨threads, newest, fun called => ?_, fun first => absurd (h.waits first).1 inside, ?_⟩
    · exact WtsReconnect.running_step step nofun (h.serves called)
    · intro bytes writes
      rw [arriveAll_effects]
      exact h.alone bytes (by rw [← executor_of_transport step]; exact writes)
  | stops called returned => exact absurd returned (h.inside called)
  | samples sample => exact ⟨h.threads, h.newest, h.serves, h.waits, h.alone⟩
  | executes loop' free exec =>
    refine ⟨h.threads, h.newest, h.serves, h.waits, fun bytes writes => ?_⟩
    cases free.symm.trans writes
  | sends loop' bytes connection free exec =>
    obtain ⟨threads, newest⟩ := h.threads_step (.sends w.threads bytes free)
    exact ⟨threads, newest, h.serves, h.waits, fun _ _ => (exec_output exec).1⟩
  | closesOnRequest loop' connection free exec =>
    obtain ⟨threads, newest⟩ := h.threads_step (.closeRequested w.threads free)
    exact ⟨threads, newest, h.serves, h.waits, nofun⟩
  | executor busy threads' step =>
    obtain ⟨threads, newest⟩ := h.threads_step step
    obtain ⟨same, closed, other⟩ := executor_goes_on step busy
    refine ⟨threads, newest, fun called => WtsReconnect.running_step step nofun (h.serves called),
      fun first => ?_, fun bytes writes => absurd writes (other bytes)⟩
    obtain ⟨here, invalid⟩ := h.waits first
    exact ⟨same.trans here, closed invalid⟩

theorem unsent_arriveAll (executor : ExecutorPoint) (sending : ℕ) (l : ServerLoop)
    (callback : Option ServerCallback) :
    unsent executor sending (ServerLoop.arriveAll l callback) =
      ServerLoop.arriveAll (unsent executor sending l) callback := by
  cases callback <;> cases executor <;> rfl

theorem unsent_of_unwritten {executor : ExecutorPoint} {sending : ℕ} {l : ServerLoop}
    (unwritten : ∀ bytes, executor ≠ .writes bytes) : unsent executor sending l = l := by
  cases executor with
  | writes bytes => exact absurd rfl (unwritten bytes)
  | _ => rfl

theorem unsent_of_idle {executor : ExecutorPoint} {sending : ℕ} {l : ServerLoop}
    (idle : executor = .idle) : unsent executor sending l = l := by
  rw [idle]
  rfl

/-- A step of the transport's thread that moves no channel. -/
theorem view_walks {threads' : WtsThreads.System} (w : Runtime) (callback : Option ServerCallback)
    (called : Bool) (heard : List ServerCallback)
    (executor : threads'.executor = w.threads.executor)
    (channel : threads'.wts.channel = w.threads.wts.channel)
    (opened : threads'.wts.opened = w.threads.wts.opened)
    (before : w.threads.transport.brings = none) (behind : threads'.transport.brings = none) :
    Runtime.view { w with
        threads := threads', loop := ServerLoop.arriveAll w.loop callback
        called := called, heard := heard } =
      { w.view with
        phase := phaseOf threads'.transport
        loop := ServerLoop.arriveAll w.view.loop callback } := by
  unfold Runtime.view
  simp only [executor, channel, opened, before, behind, unsent_arriveAll]

theorem view_stutters {threads' : WtsThreads.System} (w : Runtime) (called : Bool)
    (heard : List ServerCallback)
    (executor : threads'.executor = w.threads.executor)
    (channel : threads'.wts.channel = w.threads.wts.channel)
    (opened : threads'.wts.opened = w.threads.wts.opened)
    (before : w.threads.transport.brings = none) (behind : threads'.transport.brings = none)
    (phase : phaseOf threads'.transport = phaseOf w.threads.transport) :
    Runtime.view { w with threads := threads', called := called, heard := heard } = w.view := by
  have walks := view_walks w none called heard executor channel opened before behind
  rw [phase] at walks
  exact walks

/-- What a step comes to at the locks: nothing, or a step there. -/
def Answered (zpp : ZppBits) (w w' : Runtime) : Prop :=
  w'.view = w.view ∨ WtsTransport.Step zpp w.view w'.view

theorem connected_eq {v : WtsThreads.System} (sound : Sound v) (failed : Option ℕ) :
    (v.wts.closeBlock failed).2 = v.wts.channel.isSome := by
  change (v.wts.state == .connected) = _
  rw [Bool.eq_iff_iff, beq_iff_eq, sound.connected, Option.isSome_iff_ne_none]

theorem answered_walks {threads' : WtsThreads.System} {callback : Option ServerCallback}
    {heard : List ServerCallback}
    (executor : threads'.executor = w.threads.executor)
    (channel : threads'.wts.channel = w.threads.wts.channel)
    (opened : threads'.wts.opened = w.threads.wts.opened)
    (before : w.threads.transport.brings = none) (behind : threads'.transport.brings = none)
    (made : WtsTransport.Step zpp w.view
      { w.view with
        phase := phaseOf threads'.transport, loop := ServerLoop.arriveAll w.view.loop callback }) :
    Answered zpp w { w with
      threads := threads', loop := ServerLoop.arriveAll w.loop callback, heard := heard } := by
  rw [← view_walks w callback w.called heard executor channel opened before behind] at made
  exact .inr made

/-- The handle that is taken is the next channel: `channel_` is free to take it. -/
theorem answered_installs (h : Kept w) (running : w.threads.wts.running = true) {handle : ℕ}
    (here : w.threads.transport = .installs handle) {heard : List ServerCallback} :
    Answered zpp w { w with
      threads := { w.threads with
        wts := (w.threads.wts.install handle).1
        transport := .afterInstall (w.threads.wts.install handle).2 }
      heard := heard } := by
  have sound := h.threads.sound
  have newest := h.newest
  obtain ⟨⟨wts, point, executor⟩, loop, called, sending, written, heard⟩ := w
  obtain rfl : point = .installs handle := here
  have invalid : wts.channel = none := sound.opening rfl
  obtain ⟨last, positive⟩ := newest handle rfl
  change wts.opened = handle at last
  have installed : wts.install handle =
      ({ wts with channel := some handle, state := .connected }, .taken) := by
    change wts.running = true at running
    simp [WtsTransport.install, running, invalid]
  have taken := @WtsTransport.Step.opens zpp
    (Runtime.view ⟨⟨wts, .installs handle, executor⟩, loop, called, sending, written, heard⟩)
    rfl invalid
  have number : wts.opened - 1 + 1 = handle := by omega
  refine .inr ?_
  rw [installed]
  change WtsTransport.Step zpp _
    ⟨_, _, _, some (wts.opened - 1 + 1), wts.opened - 1 + 1, _⟩ at taken
  rw [number, ← last] at taken
  rw [← last]
  exact taken

/-- `was_connected` is whether there is a channel, so the close reports as it does there. -/
theorem answered_closes (h : Kept w) {failed : Option ℕ} {leaves : Bool}
    (here : w.threads.transport = .closing failed leaves) {heard : List ServerCallback} :
    Answered zpp w { w with
      threads := { w.threads with
        wts := (w.threads.wts.closeBlock failed).1
        transport :=
          if (w.threads.wts.closeBlock failed).2 then .reportsClose leaves else .afterClose leaves }
      heard := heard } := by
  have connected := connected_eq h.threads.sound failed
  obtain ⟨⟨wts, point, executor⟩, loop, called, sending, written, heard⟩ := w
  obtain rfl : point = .closing failed leaves := here
  have closes := @WtsTransport.Step.closes zpp
    (Runtime.view
      ⟨⟨wts, .closing failed leaves, executor⟩, loop, called, sending, written, heard⟩) rfl
  change WtsTransport.Step zpp _ ⟨_, .ofClosing (Closing.behindLock wts.channel), _, _, _, _⟩
    at closes
  refine .inr ?_
  rw [connected]
  change WtsTransport.Step zpp _
    (Runtime.view ⟨⟨_, if wts.channel.isSome then _ else _, _⟩, _, _, _, _, _⟩)
  unfold Closing.behindLock at closes
  cases was_connected : wts.channel.isSome <;> rw [was_connected] at closes <;>
    cases leaves <;> exact closes

theorem answered_transport (h : Kept w) (drawn : InstanceId)
    (inside : w.threads.transport ≠ .stopped) {threads' : WtsThreads.System}
    (step : WtsThreads.Step w.threads .transport threads') :
    Answered zpp w { w with
      threads := threads', loop := ServerLoop.arriveAll w.loop (reported w.threads drawn)
      heard := w.heard ++ (reported w.threads drawn).toList } := by
  have running : w.threads.wts.running = true :=
    h.serves (Bool.not_eq_false _ ▸ fun first => inside (h.waits first).1)
  have kept := h
  obtain ⟨⟨wts, point, executor⟩, loop, called, sending, written, heard⟩ := w
  have at' {p : TransportPoint} (here : point = p) : point = p := here
  change wts.running = true at running
  cases step with
  | runs here => exact absurd here inside
  | outerLoop here | retries here | innerLoop here | received _ here =>
    obtain rfl := at' here
    refine .inl ?_
    rw [if_pos running]
    exact view_stutters _ called _ rfl rfl rfl rfl rfl rfl
  | tries here =>
    obtain rfl := at' here
    by_cases valid : wts.channel = none
    · have check : wts.tryOpenCheck = ({ wts with state := .opening }, none) := by
        simp [WtsTransport.tryOpenCheck, running, valid]
      refine .inl ?_
      rw [check]
      exact view_stutters _ called _ rfl rfl rfl rfl rfl rfl
    · have check : wts.tryOpenCheck = ({ wts with state := .connected }, some true) := by
        simp [WtsTransport.tryOpenCheck, running, Option.isSome_iff_ne_none, valid]
      rw [check]
      exact answered_walks rfl rfl rfl rfl rfl (.findsOpen _ rfl valid)
  | opens here =>
    obtain rfl := at' here
    exact .inl rfl
  | opensNothing here | openFails here | reads _ here =>
    obtain rfl := at' here
    exact .inl (view_stutters _ called _ rfl rfl rfl rfl rfl rfl)
  | installs handle here =>
    obtain rfl := at' here
    exact answered_installs kept running rfl
  | reportsOpen here =>
    obtain rfl := at' here
    exact answered_walks rfl rfl rfl rfl rfl (.reportsOpen _ drawn rfl)
  | readChecks here =>
    obtain rfl := at' here
    by_cases valid : wts.channel = none
    · have unusable : ¬ wts.usable = true := fun usable =>
        (WtsTransport.usable_iff.mp usable).2 valid
      rw [if_neg unusable]
      exact answered_walks rfl rfl rfl rfl rfl (.findsClosed _ rfl valid)
    · rw [if_pos (WtsTransport.usable_iff.mpr ⟨running, valid⟩)]
      exact answered_walks rfl rfl rfl rfl rfl (.startsRead _ rfl valid)
  | readFails here =>
    obtain rfl := at' here
    exact answered_walks rfl rfl rfl rfl rfl (.readFails _ rfl)
  | handles bytes here =>
    obtain rfl := at' here
    change Answered zpp _ { Runtime.mk _ loop called sending written _ with
      loop := ServerLoop.arriveAll loop (if 0 < bytes.length then _ else _) }
    by_cases filled : 0 < bytes.length
    · rw [if_pos filled]
      exact answered_walks rfl rfl rfl rfl rfl (.reads _ bytes rfl)
    · rw [if_neg filled]
      exact answered_walks rfl rfl rfl rfl rfl (.readsNothing _ rfl)
  | closes failed leaves here =>
    obtain rfl := at' here
    exact answered_closes kept rfl
  | reportsClose leaves here =>
    obtain rfl := at' here
    cases leaves <;> exact answered_walks rfl rfl rfl rfl rfl (.reportsClose _ rfl)

theorem Kept.unusable (h : Kept w) (unusable : ¬ w.threads.wts.usable = true) :
    w.threads.wts.channel = none := by
  by_contra valid
  cases first : w.called with
  | false => exact valid (h.waits first).2
  | true => exact unusable (WtsTransport.usable_iff.mpr ⟨h.serves first, valid⟩)

theorem answered_sends (h : Kept w) {loop' : ServerLoop} {bytes : Buffer} {connection : ℕ}
    (free : w.threads.executor = .idle)
    (exec : Exec (stampedController zpp) w.loop (some (.send bytes, connection)) loop') :
    Answered zpp w { w with
      threads := { w.threads with
        executor := if w.threads.wts.usable then .writes bytes else .idle }
      loop := loop', sending := connection } := by
  have invalid := h.unusable
  obtain ⟨⟨wts, point, executor⟩, loop, called, sending, written, heard⟩ := w
  obtain rfl : executor = .idle := free
  by_cases usable : wts.usable = true
  · -- The view puts the buffer back to where it was taken from.
    refine .inl ?_
    rw [if_pos usable]
    obtain rfl : loop = _ := (exec_output exec).2
    rfl
  · rw [if_neg usable]
    exact .inr (.drops _ loop' bytes connection rfl exec (invalid usable))

theorem answered_executor (h : Kept w) (busy : w.threads.executor ≠ .idle)
    {threads' : WtsThreads.System} (step : WtsThreads.Step w.threads .executor threads') :
    Answered zpp w { w with
      threads := threads'
      loop := ServerLoop.arriveAll w.loop (executorReported w.threads)
      written := w.writes threads'
      heard := w.heard ++ (executorReported w.threads).toList } := by
  have sound := h.threads.sound
  have alone := h.alone
  obtain ⟨⟨wts, point, executor⟩, loop, called, sending, written, heard⟩ := w
  have at' {p : ExecutorPoint} (here : executor = p) : executor = p := here
  cases step with
  | sends _ idle | closeRequested idle => exact absurd idle busy
  | writes bytes bytesWritten here =>
    obtain rfl := at' here
    have exec := @Exec.output _ _ _ _ _ (stampedController zpp)
      (unsent (.writes bytes) sending loop) (.send bytes, sending) loop.queue (alone bytes rfl) rfl
    cases valid : wts.channel with
    | none =>
      unfold Runtime.writes
      rw [valid]
      exact .inr (.drops _ loop bytes sending rfl exec valid)
    | some k =>
      unfold Runtime.writes
      rw [valid]
      refine .inr ?_
      change WtsTransport.Step zpp _ ⟨_, _, _, _, _, (written ++ [_]).map Write.toWritten⟩
      rw [List.map_append]
      exact .writes _ loop bytes sending k rfl exec valid
  | writeFails bytes here =>
    obtain rfl := at' here
    have exec := @Exec.output _ _ _ _ _ (stampedController zpp)
      (unsent (.writes bytes) sending loop) (.send bytes, sending) loop.queue (alone bytes rfl) rfl
    exact .inr (.writeFails _ loop bytes sending rfl exec)
  | executorCloses failed here =>
    obtain rfl := at' here
    have closes := @WtsTransport.Step.executorCloses zpp
      (Runtime.view ⟨⟨wts, point, .closing failed⟩, loop, called, sending, written, heard⟩) rfl
    change WtsTransport.Step zpp _ ⟨_, _, Closing.behindLock wts.channel, _, _, _⟩ at closes
    refine .inr ?_
    rw [connected_eq sound failed]
    change WtsTransport.Step zpp _
      (Runtime.view ⟨⟨_, _, if wts.channel.isSome then _ else _⟩, _, _, _, _, _⟩)
    unfold Closing.behindLock at closes
    cases was_connected : wts.channel.isSome <;> rw [was_connected] at closes <;> exact closes
  | executorReports here =>
    obtain rfl := at' here
    exact .inr (.executorReports _ rfl)

theorem answered (h : Kept w) (step : Step zpp w w') : Answered zpp w w' := by
  cases step with
  | runs first threads' step =>
    obtain ⟨here, _⟩ := h.waits first
    refine .inl ?_
    rw [runs_stopped step here]
    refine view_stutters w true _ rfl rfl rfl ?_ rfl ?_ <;> rw [here] <;> rfl
  | transport drawn inside threads' step => exact answered_transport h drawn inside step
  | stops called returned => exact absurd returned (h.inside called)
  | samples sample free idle =>
    obtain ⟨⟨wts, point, executor⟩, loop, called, sending, written, heard⟩ := w
    obtain rfl : executor = .idle := free
    exact .inr (.samples _ sample rfl idle)
  | executes loop' free exec =>
    obtain ⟨⟨wts, point, executor⟩, loop, called, sending, written, heard⟩ := w
    obtain rfl : executor = .idle := free
    exact .inr (.executes _ loop' rfl exec)
  | sends loop' bytes connection free exec => exact answered_sends h free exec
  | closesOnRequest loop' connection free exec =>
    obtain ⟨⟨wts, point, executor⟩, loop, called, sending, written, heard⟩ := w
    obtain rfl : executor = .idle := free
    exact .inr (.closesOnRequest _ loop' connection rfl exec)
  | executor busy threads' step => exact answered_executor h busy step

theorem kept_start : Kept {} := ⟨.refl, nofun, nofun, fun _ => ⟨rfl, rfl⟩, nofun⟩

theorem Runtime.Reachable.kept (reachable : w.Reachable zpp) : Kept w := by
  induction reachable with
  | refl => exact kept_start
  | tail _ step ih => exact kept_step ih step

/-- Seen at its locks. -/
def Seen (w : Runtime) (v : Server) : Prop := Kept w ∧ w.view = v

theorem view_answers : Answers (Step zpp) (WtsTransport.Step zpp) Seen := by
  rintro w w' v ⟨h, rfl⟩ step
  refine ⟨w'.view, ?_, kept_step h step, rfl⟩
  rcases answered h step with same | made
  · rw [same]
  · exact .single made

/-- Nothing is left to send, the buffer included that the executor may be about to write;
    or the executor has its block of `closeChannel` ahead. -/
def NothingLeft (zpp : ZppBits) (w : Runtime) : Prop :=
  (WtsTransport.outstanding zpp w.loop = [] ∧ ∀ bytes, w.threads.executor ≠ .writes bytes) ∨
    ∃ failed, w.threads.executor = .closing failed

/-- The step installs a new channel. -/
def Takes (w w' : Runtime) : Prop :=
  w'.threads.transport = .reportsOpen ∧ w.threads.transport ≠ .reportsOpen

def DrainedInstalls (zpp : ZppBits) (w w' : Runtime) : Prop := Takes w w' → NothingLeft zpp w

abbrev Guarded (zpp : ZppBits) (w w' : Runtime) : Prop :=
  Step zpp w w' ∧ DrainedInstalls zpp w w'

theorem opens_of_opening {v v' : Server} (step : WtsTransport.Step zpp v v')
    (before : v.phase ≠ .opened) (opened : v'.phase = .opened) :
    v.phase = .idle ∧ v' = v.openChannel := by
  cases step with
  | opens idle => exact ⟨idle, rfl⟩
  | closes => exact absurd opened (ConnectionScope.ofClosing_behindLock v.channel)
  | findsOpen | reportsOpen | startsRead | findsClosed | reads | readsNothing | readFails
  | reportsClose => cases opened
  | _ => exact absurd opened before

theorem opens_of_opened {v v' : Server} (step : WtsTransport.Step zpp v v')
    (more : v'.opened ≠ v.opened) : v.phase = .idle ∧ v'.phase = .opened := by
  cases step with
  | opens idle => exact ⟨idle, rfl⟩
  | _ => exact absurd rfl more

theorem phaseOf_opened {point : TransportPoint} :
    phaseOf point = .opened ↔ point = .reportsOpen := by
  cases point <;> simp [phaseOf]

/-- What the executor is about to write counts among what is left to send. -/
theorem sending_outstanding (h : Kept w) {bytes : Buffer}
    (writes : w.threads.executor = .writes bytes) :
    (.send bytes, w.sending) ∈ WtsTransport.outstanding zpp w.view.loop := by
  have exec : Exec (stampedController zpp) (unsent (.writes bytes) w.sending w.loop)
      (some (.send bytes, w.sending)) w.loop := .output _ _ _ (h.alone bytes writes) rfl
  rw [← writes] at exec
  exact (ConnectionScope.future_exec zpp exec).2.subset List.mem_cons_self

theorem closingOf_locks {point : ExecutorPoint} :
    closingOf point = some .locks ↔ ∃ failed, point = .closing failed := by
  cases point <;> simp [closingOf]

theorem ready_view_iff (h : Kept w) : Ready zpp w.view ↔ NothingLeft zpp w := by
  refine or_congr ⟨fun drained => ?_, fun ⟨drained, unwritten⟩ => ?_⟩ closingOf_locks
  · have unwritten (bytes : Buffer) : w.threads.executor ≠ .writes bytes := fun writes => by
      have left : _ ∈ WtsTransport.outstanding zpp w.view.loop := sending_outstanding h writes
      rw [drained] at left
      cases left
    change WtsTransport.outstanding zpp (unsent w.threads.executor w.sending w.loop) = [] at drained
    rw [unsent_of_unwritten unwritten] at drained
    exact ⟨drained, unwritten⟩
  · change WtsTransport.outstanding zpp (unsent w.threads.executor w.sending w.loop) = []
    rw [unsent_of_unwritten unwritten]
    exact drained

theorem readyOpens_view (h : Kept w) (step : Step zpp w w') (drained : DrainedInstalls zpp w w') :
    ReadyOpens zpp w.view w'.view := by
  intro more
  rcases answered h step with same | made
  · exact absurd (congrArg Server.opened same) more
  · obtain ⟨idle, opened⟩ := opens_of_opened made more
    have before : w.threads.transport ≠ .reportsOpen := fun here => by
      have opening : w.view.phase = .opened := phaseOf_opened.mpr here
      cases idle.symm.trans opening
    exact (ready_view_iff h).mpr (drained ⟨phaseOf_opened.mp opened, before⟩)

theorem guarded_answers : Answers (Guarded zpp)
    (fun v v' => WtsTransport.Step zpp v v' ∧ ReadyOpens zpp v v') Seen := by
  rintro w w' v ⟨h, rfl⟩ ⟨step, drained⟩
  refine ⟨w'.view, ?_, kept_step h step, rfl⟩
  rcases answered h step with same | made
  · rw [same]
  · exact .single ⟨made, readyOpens_view h step drained⟩

theorem seen_behind (h : Kept w) (run : Relation.ReflTransGen (Step zpp) w w') :
    Relation.ReflTransGen (WtsTransport.Step zpp) w.view w'.view := by
  obtain ⟨_, seen, _, rfl⟩ := view_answers.run ⟨h, rfl⟩ run
  exact seen

/-- What is seen of a run at the locks is a run there. -/
theorem Runtime.Reachable.seen (reachable : w.Reachable zpp) :
    Relation.ReflTransGen (WtsTransport.Step zpp) {} w.view := seen_behind kept_start reachable

end

/-- The runtime refines the server of the locks and the transport of the two threads:
    whatever is done between two locks, what is seen at them is a run there. `run` of the
    transport never returns. -/
theorem runtime_refines (zpp : ZppBits) {w : Runtime} (reachable : w.Reachable zpp) :
    Relation.ReflTransGen (WtsTransport.Step zpp) {} w.view ∧ w.threads.Reachable ∧
      (w.called = true → w.threads.wts.running = true ∧ w.threads.transport ≠ .stopped) := by
  have kept := reachable.kept
  exact ⟨reachable.seen, kept.threads, fun called => ⟨kept.serves called, kept.inside called⟩⟩

/-- A channel was taken and not yet reported, and calls are left to make. -/
structure OpenedOver (zpp : ZppBits) (w : Runtime) : Prop where
  opened : w.threads.transport = .reportsOpen
  valid : w.threads.wts.channel = some w.threads.wts.opened
  running : w.threads.wts.running = true
  awaited : WtsTransport.outstanding zpp w.view.loop ≠ []

section
variable {zpp : ZppBits} {w w' : Runtime}

theorem Runtime.view_opened (w : Runtime) (opened : w.threads.transport = .reportsOpen) :
    w.view.opened = w.threads.wts.opened := by
  change _ - (if w.threads.transport.brings.isSome then 1 else 0) = _
  rw [opened]
  rfl

/-- The buffer is written to a channel that is opened later than it was made. -/
theorem OpenedOver.crosses (documented : zpp.Documented) (h : OpenedOver zpp w)
    (reachable : w.Reachable zpp) {bytes : Buffer} (writes : w.threads.executor = .writes bytes) :
    ∃ w', Relation.ReflTransGen (Step zpp) w w' ∧
      ∃ x ∈ w'.written, x.channel = w.threads.wts.opened ∧ x.connection ≠ x.channel := by
  have tracked := (ConnectionScope.sound_run reachable.seen).tracked
  obtain ⟨_, connection, same, bound⟩ := (ConnectionScope.runnable_run documented
    reachable.seen).sends _ (sending_outstanding reachable.kept writes)
  obtain rfl : w.sending = connection := (Prod.mk.inj same).2
  have opened : w.view.phase = .opened := phaseOf_opened.mpr h.opened
  have counted := tracked.counted
  rw [if_pos opened] at counted
  have total := w.view_opened h.opened
  have busy : w.threads.executor ≠ .idle := by rw [writes]; exact nofun
  have write : WtsThreads.Step w.threads .executor _ :=
    .writes w.threads bytes bytes.length writes fun closed => by
      rw [h.valid] at closed
      cases closed
  refine ⟨_, .single (.executor w busy _ write),
    ⟨⟨w.threads.wts.opened, w.sending, bytes⟩,
      (w.threads.wts.write bytes bytes.length).accepted.drop w.threads.wts.accepted.length⟩,
    ?_, rfl, ?_⟩
  · unfold Runtime.writes
    rw [writes, h.valid]
    exact List.mem_append_right _ List.mem_cons_self
  · change w.sending ≠ w.threads.wts.opened
    omega

/-- The executor can get to a write: it finds the channel usable. -/
theorem OpenedOver.takes (documented : zpp.Documented) (h : OpenedOver zpp w)
    (reachable : w.Reachable zpp) (free : w.threads.executor = .idle) :
    ∃ w', Relation.ReflTransGen (Step zpp) w w' ∧ OpenedOver zpp w' ∧
      w'.threads.wts.opened = w.threads.wts.opened ∧ ∃ bytes, w'.threads.executor = .writes bytes := by
  have runnable := ConnectionScope.runnable_run documented reachable.seen
  have awaited := h.awaited
  have same : w.view.loop = w.loop := unsent_of_idle free
  rw [same] at awaited runnable
  obtain ⟨loop₁, call, loop₂, silent, exec, left⟩ := Wiring.reaches_output
    (WtsTransport.stampedController_careful documented) w.loop runnable.safe awaited
  obtain ⟨bytes, connection, rfl, _⟩ := runnable.sends call left
  have ready : Relation.ReflTransGen (Step zpp) w { w with loop := loop₁ } := by
    clear exec
    induction silent with
    | refl => exact .refl
    | tail _ exec ih => exact ih.tail (.executes _ _ free exec)
  have usable : w.threads.wts.usable = true :=
    WtsTransport.usable_iff.mpr ⟨h.running, by rw [h.valid]; exact nofun⟩
  have taken := ready.tail (.sends _ loop₂ bytes connection free exec)
  refine ⟨_, taken, ⟨h.opened, h.valid, h.running, ?_⟩, rfl, bytes, if_pos usable⟩
  have kept := Runtime.Reachable.kept (reachable.trans taken)
  exact List.ne_nil_of_mem (sending_outstanding kept (if_pos usable))

theorem walk {a b : Runtime} {threads' : WtsThreads.System}
    (run : Relation.ReflTransGen (Step zpp) a b) (inside : b.threads.transport ≠ .stopped)
    (step : WtsThreads.Step b.threads .transport threads') :
    Relation.ReflTransGen (Step zpp) a { b with
      threads := threads'
      loop := ServerLoop.arriveAll b.loop (reported b.threads ⟨1, 1⟩)
      heard := b.heard ++ (reported b.threads ⟨1, 1⟩).toList } :=
  run.tail (.transport b ⟨1, 1⟩ inside _ step)

theorem finish {a b : Runtime} {threads' : WtsThreads.System}
    (run : Relation.ReflTransGen (Step zpp) a b) (busy : b.threads.executor ≠ .idle)
    (step : WtsThreads.Step b.threads .executor threads') :
    Relation.ReflTransGen (Step zpp) a { b with
      threads := threads'
      loop := ServerLoop.arriveAll b.loop (executorReported b.threads)
      written := b.writes threads'
      heard := b.heard ++ (executorReported b.threads).toList } :=
  run.tail (.executor b busy _ step)

/-- The executor can get out of `closeChannel` where its block is behind it. -/
theorem OpenedOver.frees (h : OpenedOver zpp w)
    (unlocked : ∀ failed, w.threads.executor ≠ .closing failed) :
    ∃ w', Relation.ReflTransGen (Step zpp) w w' ∧ OpenedOver zpp w' ∧
      w'.threads.wts.opened = w.threads.wts.opened ∧
      (w'.threads.executor = .idle ∨ ∃ bytes, w'.threads.executor = .writes bytes) := by
  have start : Relation.ReflTransGen (Step zpp) w w := .refl
  obtain ⟨here, valid, running, awaited⟩ := h
  obtain ⟨⟨wts, point, executor⟩, loop, called, sending, written, heard⟩ := w
  obtain rfl : point = .reportsOpen := here
  cases executor with
  | idle => exact ⟨_, .refl, ⟨rfl, valid, running, awaited⟩, rfl, .inl rfl⟩
  | writes bytes => exact ⟨_, .refl, ⟨rfl, valid, running, awaited⟩, rfl, .inr ⟨bytes, rfl⟩⟩
  | closing failed => exact absurd rfl (unlocked failed)
  | reportsClose =>
    have reported := finish start nofun (.executorReports _ rfl)
    exact ⟨_, reported,
      ⟨rfl, valid, running, ConnectionScope.awaited_arrive awaited .disconnected⟩, rfl, .inl rfl⟩

theorem view_taken (h : Kept w) (step : Step zpp w w') (takes : Takes w w') :
    w.view.phase = .idle ∧ w'.view = w.view.openChannel := by
  have phase : w'.view.phase = .opened := phaseOf_opened.mpr takes.1
  have unopened : w.view.phase ≠ .opened := fun opening => takes.2 (phaseOf_opened.mp opening)
  rcases answered h step with same | made
  · rw [same] at phase
    exact absurd phase unopened
  · exact opens_of_opening made unopened phase

theorem opened_over (reachable : w.Reachable zpp) (step : Step zpp w w') (takes : Takes w w')
    (left : ¬ NothingLeft zpp w) :
    OpenedOver zpp w' ∧ ∀ failed, w'.threads.executor ≠ .closing failed := by
  have kept := kept_step reachable.kept step
  have running : w'.threads.wts.running = true := by
    cases first : w'.called with
    | true => exact kept.serves first
    | false => cases takes.1.symm.trans (kept.waits first).1
  have taken := (view_taken reachable.kept step takes).2
  have valid : w'.threads.wts.channel = some w'.threads.wts.opened := by
    rw [← w'.view_opened takes.1, taken]
    exact congrArg Server.channel taken
  have unready : ¬ Ready zpp w.view := fun ready => left ((ready_view_iff reachable.kept).mp ready)
  have unready' : ¬ Ready zpp w'.view := by
    rw [taken]
    exact unready
  obtain ⟨awaited, unlocked⟩ := not_or.mp unready'
  exact ⟨⟨takes.1, valid, running, awaited⟩, fun failed closing =>
    unlocked (closingOf_locks.mpr ⟨failed, closing⟩)⟩

/-- A channel taken over what is left to send may come to carry it. -/
theorem undrained_install_crosses (documented : zpp.Documented) (reachable : w.Reachable zpp)
    (step : Step zpp w w') (takes : Takes w w') (left : ¬ NothingLeft zpp w) :
    ∃ later, Relation.ReflTransGen (Step zpp) w' later ∧
      ∃ x ∈ later.written, x.channel = w'.threads.wts.opened ∧ x.connection ≠ x.channel := by
  obtain ⟨loaded, unlocked⟩ := opened_over reachable step takes left
  obtain ⟨w₁, run₁, loaded, same₁, free⟩ := loaded.frees unlocked
  have reachable₁ : w₁.Reachable zpp := (reachable.tail step).trans run₁
  have writing : ∃ w₂, Relation.ReflTransGen (Step zpp) w₁ w₂ ∧ OpenedOver zpp w₂ ∧
      w₂.threads.wts.opened = w₁.threads.wts.opened ∧
      ∃ bytes, w₂.threads.executor = .writes bytes := by
    rcases free with idle | writes
    · exact loaded.takes documented reachable₁ idle
    · exact ⟨w₁, .refl, loaded, rfl, writes⟩
  obtain ⟨w₂, run₂, loaded, same₂, bytes, writes⟩ := writing
  obtain ⟨w₃, run₃, x, hx, carried, crossed⟩ :=
    loaded.crosses documented (reachable₁.trans run₂) writes
  exact ⟨w₃, run₁.trans (run₂.trans run₃), x, hx, carried.trans (same₂.trans same₁), crossed⟩

/-- A channel taken where nothing is left to send carries no buffer of another connection. -/
theorem drained_install_keeps (reachable : w.Reachable zpp) (step : Step zpp w w')
    (takes : Takes w w') (nothing : NothingLeft zpp w) {later : Runtime}
    (run : Relation.ReflTransGen (Step zpp) w' later) :
    ∀ x ∈ later.written, x.channel = w'.threads.wts.opened → x.connection = x.channel := by
  obtain ⟨idle, taken⟩ := view_taken reachable.kept step takes
  have ready := (ready_view_iff reachable.kept).mpr nothing
  have behind := seen_behind (kept_step reachable.kept step) run
  rw [taken] at behind
  have number : w'.threads.wts.opened = w.view.opened + 1 := by
    rw [← w'.view_opened takes.1, taken]
    rfl
  intro x hx carried
  rw [number] at carried
  have kept := ConnectionScope.ready_open_keeps reachable.seen idle ready behind x.toWritten
    (List.mem_map_of_mem hx) carried
  exact kept.trans carried.symm

end

/-- In every run in which each install that takes a channel finds nothing left to send, a
    buffer is written only to the channel of the connection it was made for. Of an install
    in any run that is exact: the channel it takes may come to carry a buffer of another
    connection just where something is left. -/
theorem runtime_written_in_scope (zpp : ZppBits) :
    (∀ w, Relation.ReflTransGen (Guarded zpp) {} w →
      ∀ x ∈ w.written, x.connection = x.channel) ∧
    (zpp.Documented → ∀ w w', w.Reachable zpp → Step zpp w w' → Takes w w' →
      ((∃ later, Relation.ReflTransGen (Step zpp) w' later ∧
        ∃ x ∈ later.written, x.channel = w'.threads.wts.opened ∧ x.connection ≠ x.channel) ↔
          ¬ NothingLeft zpp w)) := by
  constructor
  · intro w run x hx
    obtain ⟨_, seen, _, rfl⟩ := guarded_answers.run ⟨kept_start, rfl⟩ run
    have kept := (ConnectionScope.scoped_run x.channel seen).2.kept
    exact kept x.toWritten (List.mem_map_of_mem hx) rfl
  · intro documented w w' reachable step takes
    refine ⟨?_, undrained_install_crosses documented reachable step takes⟩
    rintro ⟨later, run, x, hx, carried, crossed⟩ nothing
    exact crossed (drained_install_keeps reachable step takes nothing run x hx carried)

/-- Channel 1 is taken and reported, its Hello waits to be sent. -/
def helloQueued : Runtime where
  threads := firstConnected
  loop := ConnectionScope.helloQueued.loop
  called := true
  heard := [.connected ⟨1, 1⟩]

theorem helloQueued_guarded :
    Relation.ReflTransGen (Guarded layoutArchives) {} helloQueued := by
  let connecting : ServerLoop := { machine := ({}, 0), queue := [.input (.connected ⟨1, 1⟩)] }
  let stepped : ServerLoop :=
    { machine := helloQueued.loop.machine
      effects := [(.stopTelemetryTimer, 1), (.sendMessage (MessageFactory.makeHello ⟨1, 1⟩), 1)] }
  have takes : Step layoutArchives { helloQueued with loop := connecting }
      { helloQueued with loop := stepped } :=
    .executes _ _ rfl (.input connecting (.connected ⟨1, 1⟩) []
      (ServerEvent.transportConnected ⟨1, 1⟩) rfl rfl rfl)
  have stops : Step layoutArchives { helloQueued with loop := stepped }
      { helloQueued with loop := { stepped with effects := stepped.effects.tail } } :=
    .executes _ _ rfl (.performed _ (ServerEffect.stopTelemetryTimer, 1) _ rfl (.inl rfl))
  have posts : Step layoutArchives
      { helloQueued with loop := { stepped with effects := stepped.effects.tail } } helloQueued :=
    .executes _ _ rfl (.posted _ (ServerEffect.sendMessage (MessageFactory.makeHello ⟨1, 1⟩), 1) []
      (TransportCall.send ConnectionScope.helloBytes, 1) rfl rfl)
  have walk {w : Runtime} {threads' : WtsThreads.System}
      (run : Relation.ReflTransGen (Guarded layoutArchives) {} w)
      (inside : w.threads.transport ≠ .stopped)
      (step : WtsThreads.Step w.threads .transport threads')
      (drained : threads'.transport = .reportsOpen → NothingLeft layoutArchives w) :
      Relation.ReflTransGen (Guarded layoutArchives) {} { w with
        threads := threads'
        loop := ServerLoop.arriveAll w.loop (reported w.threads ⟨1, 1⟩)
        heard := w.heard ++ (reported w.threads ⟨1, 1⟩).toList } :=
    run.tail ⟨.transport w ⟨1, 1⟩ inside _ step, fun taken => drained taken.1⟩
  have called : Relation.ReflTransGen (Guarded layoutArchives) {} _ :=
    .single ⟨.runs {} rfl _ (.runs _ rfl), nofun⟩
  have tried := walk (walk called nofun (.outerLoop _ rfl) nofun) nofun (.tries _ rfl) nofun
  have installed := walk (walk tried nofun (.opens _ rfl) nofun) nofun (.installs _ 1 rfl)
    fun _ => .inl ⟨rfl, nofun⟩
  have reported := walk installed nofun (.reportsOpen _ rfl) nofun
  exact reported |>.tail ⟨takes, fun taken => absurd taken.1 nofun⟩
    |>.tail ⟨stops, fun taken => absurd taken.1 nofun⟩
    |>.tail ⟨posts, fun taken => absurd taken.1 nofun⟩

theorem helloQueued_reachable : helloQueued.Reachable layoutArchives :=
  Relation.ReflTransGen.mono (fun _ _ step => step.1) _ _ helloQueued_guarded

def helloWrite : Write := ⟨⟨1, 1, ConnectionScope.helloBytes⟩, ConnectionScope.helloBytes⟩

/-- Behind it the Hello is written. -/
theorem helloQueued_writes : ∃ w : Runtime,
    Relation.ReflTransGen (Guarded layoutArchives) helloQueued w ∧ w.view.opened = 1 ∧
      w.called = true ∧ w.written = [helloWrite] ∧
      w.threads.executor = .idle ∧ w.threads.wts.channel = some 1 := by
  let sending : Runtime := { helloQueued with
    threads := { firstConnected with executor := .writes ConnectionScope.helloBytes }
    loop := { helloQueued.loop with queue := [] }, sending := 1 }
  have sends : Step layoutArchives helloQueued sending :=
    .sends _ _ ConnectionScope.helloBytes 1 rfl (.output _ _ _ rfl rfl)
  have writes : Step layoutArchives sending _ :=
    .executor sending ExecutorPoint.noConfusion _
      (.writes _ ConnectionScope.helloBytes ConnectionScope.helloBytes.length rfl nofun)
  exact ⟨_, .tail (.single ⟨sends, fun taken => absurd taken.1 nofun⟩)
    ⟨writes, fun taken => absurd taken.1 nofun⟩, rfl, rfl, rfl, rfl, rfl⟩

theorem runtime_refines_hello :
    ∃ w : Runtime, w.view.opened = 1 ∧ w.written = [helloWrite] ∧
      Relation.ReflTransGen (WtsTransport.Step layoutArchives) {} w.view ∧
      w.threads.transport ≠ .stopped := by
  obtain ⟨w, run, opened, called, written, _⟩ := helloQueued_writes
  have reachable : w.Reachable layoutArchives := helloQueued_reachable.trans
    (Relation.ReflTransGen.mono (fun _ _ step => step.1) _ _ run)
  have refined := runtime_refines layoutArchives reachable
  exact ⟨w, opened, written, refined.1, (refined.2.2 called).2⟩

/-- The Hello is written to channel 1, or channel 1 is lost first and the Hello may be
    written to channel 2. -/
theorem runtime_written_in_scope_reopened :
    (∃ w : Runtime, w.written = [helloWrite] ∧ ∀ x ∈ w.written, x.connection = x.channel) ∧
    ∃ w : Runtime, w.threads.wts.channel = some 2 ∧ w.written = [] ∧
      ∃ later, Relation.ReflTransGen (Step layoutArchives) w later ∧
        ∃ x ∈ later.written, x.channel = 2 ∧ x.connection ≠ x.channel := by
  constructor
  · obtain ⟨w, run, _, _, written, _⟩ := helloQueued_writes
    exact ⟨w, written,
      (runtime_written_in_scope layoutArchives).1 w (helloQueued_guarded.trans run)⟩
  · have failed := walk (walk (walk helloQueued_reachable nofun (.innerLoop _ rfl)) nofun
      (.readChecks _ rfl)) nofun (.readFails _ rfl)
    have closed := walk (walk failed nofun (.closes _ (some 1) false rfl)) nofun
      (.reportsClose _ false rfl)
    have opened := walk (walk (walk closed nofun (.outerLoop _ rfl)) nofun (.tries _ rfl)) nofun
      (.opens _ rfl)
    have crosses {w : Runtime} {threads' : WtsThreads.System}
        (reachable : w.Reachable layoutArchives) (inside : w.threads.transport ≠ .stopped)
        (step : WtsThreads.Step w.threads .transport threads') :=
      (runtime_written_in_scope layoutArchives).2 layoutArchives_documented w _ reachable
        (.transport w ⟨1, 1⟩ inside threads' step)
    refine ⟨_, rfl, rfl, (crosses opened nofun (.installs _ 2 rfl) ⟨rfl, nofun⟩).mpr ?_⟩
    rintro (⟨drained, _⟩ | ⟨_, ⟨⟩⟩)
    exact absurd drained nofun

end RdpExt.WtsRuntime
