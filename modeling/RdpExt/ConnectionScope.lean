import RdpExt.WtsTransport

set_option autoImplicit false

/-!
# Which connection a buffer belongs to

A send task writes to the channel it finds open. It is the channel of the connection
the buffer was made for as long as each open finds nothing left to send.
-/
namespace RdpExt.ConnectionScope
open ProtocolMessage ProtocolSerializer LogicEvents LogicServer DeferredOutput Controller
open WtsTransport

/-- `handleCpuSampleReady` passes a sample on. -/
def answersSamples (s : ServerState) : Bool := s.telemetryEnabled && s.handshakeState.isCompleted

theorem handleCpuSampleReady_eq (s : ServerState) (sample : CpuSample) :
    handleCpuSampleReady s sample = (s, if answersSamples s then
      makeSingleMessageEffect (MessageFactory.makeCpuSample sample.cpuLoad) else []) := by
  unfold handleCpuSampleReady answersSamples
  cases s.telemetryEnabled <;> cases s.handshakeState.isCompleted <;> rfl

/-- No sample is answered, nor would one be behind any one message. -/
def Asleep (s : ServerState) : Prop :=
  s.telemetryEnabled = false ∧ s.handshakeState.isCompleted = false

theorem Asleep.answersSamples {s : ServerState} (h : Asleep s) : answersSamples s = false := by
  unfold ConnectionScope.answersSamples
  rw [h.1]
  rfl

theorem Asleep.answersSamples_message {s : ServerState} (h : Asleep s) (message : Message) :
    ConnectionScope.answersSamples (handleMessageReceived s message).1 = false := by
  unfold ConnectionScope.answersSamples
  cases message with
  | hello hello =>
    change ((handleHelloMessage s hello).1.telemetryEnabled && _) = false
    by_cases hv : hello.protocolVersion = PROTOCOL_VERSION
    · rw [handleHelloMessage_current s hello hv]
      change (s.telemetryEnabled && _ && _) = false
      rw [h.1]
      rfl
    · rw [handleHelloMessage_other s hello hv]
      change (s.telemetryEnabled && _) = false
      rw [h.1]
      rfl
  | telemetryStart _ =>
    change (true && s.handshakeState.isCompleted) = false
    rw [h.2]
    rfl
  | _ => exact h.answersSamples

section
variable (zpp : ZppBits)

/-- What an arrival adds that the machine will step on. -/
theorem future_arrive_stamped (l : ServerLoop) (callback : ServerCallback) {event : ServerEvent}
    (decoded : serverEvent? zpp callback = some event) :
    settled zpp (l.arrive callback) = ((doStep (settled zpp l).1 event).1,
        if isConnect event then (settled zpp l).2 + 1 else (settled zpp l).2) ∧
      outstanding zpp (l.arrive callback) = outstanding zpp l ++
        ((serverController zpp).posts (doStep (settled zpp l).1 event).2).map fun call =>
          (call, (settled zpp (l.arrive callback)).2) := by
  have decoded' : (stampedController zpp).decode callback = some event := decoded
  unfold settled outstanding
  rw [Wiring.future_arrive, decoded']
  exact ⟨rfl, congrArg _ (posts_stamped zpp _ _)⟩

theorem future_arrive_rejected (l : ServerLoop) (callback : ServerCallback)
    (decoded : serverEvent? zpp callback = none) :
    settled zpp (l.arrive callback) = settled zpp l ∧
      outstanding zpp (l.arrive callback) = outstanding zpp l := by
  have decoded' : (stampedController zpp).decode callback = none := decoded
  unfold settled outstanding
  rw [Wiring.future_arrive, decoded']
  exact ⟨rfl, rfl⟩

/-- Every new call is a send, stamped with the connection it is for. -/
theorem outstanding_arrive (l : ServerLoop) (callback : ServerCallback) :
    ∃ sends : List Buffer, outstanding zpp (l.arrive callback) = outstanding zpp l ++
      sends.map fun bytes => (.send bytes, (settled zpp (l.arrive callback)).2) := by
  cases decoded : serverEvent? zpp callback with
  | none => exact ⟨[], by simp [(future_arrive_rejected zpp l callback decoded).2]⟩
  | some event =>
    have sends := posts_are_sends zpp (settled zpp l).1 event
    rw [(future_arrive_stamped zpp l callback decoded).2]
    generalize (serverController zpp).posts _ = calls at sends ⊢
    refine ⟨sentBuffers calls, congrArg _ ?_⟩
    induction calls with
    | nil => rfl
    | cons call calls ih =>
      obtain ⟨bytes, rfl⟩ := sends call List.mem_cons_self
      rw [sentBuffers_send, List.map_cons, List.map_cons,
        ih fun call hcall => sends call (List.mem_cons_of_mem _ hcall)]

theorem settled_connected (l : ServerLoop) (drawn : InstanceId) :
    (settled zpp (l.arrive (.connected drawn))).2 = (settled zpp l).2 + 1 := by
  rw [(future_arrive_stamped zpp l (.connected drawn) rfl).1]
  rfl

theorem settled_arrive (l : ServerLoop) (callback : ServerCallback)
    (other : ∀ drawn, callback ≠ .connected drawn) :
    (settled zpp (l.arrive callback)).2 = (settled zpp l).2 := by
  cases decoded : serverEvent? zpp callback with
  | none => rw [(future_arrive_rejected zpp l callback decoded).1]
  | some event =>
    rw [(future_arrive_stamped zpp l callback decoded).1]
    cases callback with
    | connected drawn => exact absurd rfl (other drawn)
    | disconnected | sample sample =>
      cases decoded
      rfl
    | bytes data =>
      obtain ⟨message, _, rfl⟩ := Option.map_eq_some_iff.mp decoded
      rfl

theorem outstanding_sample (l : ServerLoop) (sample : CpuSample) :
    settled zpp (l.arrive (.sample sample)) = settled zpp l ∧
      outstanding zpp (l.arrive (.sample sample)) = outstanding zpp l ++
        ((serverController zpp).posts (if answersSamples (settled zpp l).1 then
          makeSingleMessageEffect (MessageFactory.makeCpuSample sample.cpuLoad) else [])).map
          fun call => (call, (settled zpp l).2) := by
  obtain ⟨state, outputs⟩ := future_arrive_stamped zpp l (.sample sample) rfl
  rw [doStep, handleCpuSampleReady_eq] at state outputs
  rw [state] at outputs
  exact ⟨state, outputs⟩

theorem outstanding_disconnected (l : ServerLoop) :
    Asleep (settled zpp (l.arrive .disconnected)).1 ∧
      outstanding zpp (l.arrive .disconnected) = outstanding zpp l := by
  obtain ⟨state, outputs⟩ := future_arrive_stamped zpp l .disconnected rfl
  rw [state, outputs]
  exact ⟨⟨rfl, rfl⟩, List.append_nil _⟩

theorem asleep_bytes {l : ServerLoop} (asleep : Asleep (settled zpp l).1) (data : Buffer) :
    answersSamples (settled zpp (l.arrive (.bytes data))).1 = false := by
  cases decoded : serverEvent? zpp (.bytes data) with
  | none =>
    rw [(future_arrive_rejected zpp l (.bytes data) decoded).1]
    exact asleep.answersSamples
  | some event =>
    rw [(future_arrive_stamped zpp l (.bytes data) decoded).1]
    obtain ⟨message, _, rfl⟩ := Option.map_eq_some_iff.mp decoded
    exact asleep.answersSamples_message message

/-- A step of the executor leaves the machine to come as it was, and no new call. -/
theorem future_exec {l l' : ServerLoop} {out : Option (TransportCall × ℕ)}
    (exec : Exec (stampedController zpp) l out l') :
    settled zpp l' = settled zpp l ∧
      (out.toList ++ outstanding zpp l').Sublist (outstanding zpp l) := by
  obtain ⟨state, outputs, _⟩ := (stampedController zpp).exec_future exec
  exact ⟨state, outputs⟩

theorem outstanding_exec {l l' : ServerLoop} {out : Option (TransportCall × ℕ)}
    (exec : Exec (stampedController zpp) l out l') :
    ∀ call ∈ outstanding zpp l', call ∈ outstanding zpp l := fun _ hcall =>
  (future_exec zpp exec).2.subset (List.mem_append_right _ hcall)

theorem drained_exec {l l' : ServerLoop} {out : Option (TransportCall × ℕ)}
    (exec : Exec (stampedController zpp) l out l') (drained : outstanding zpp l = []) :
    outstanding zpp l' = [] := by
  have outputs := (future_exec zpp exec).2
  rw [drained, List.sublist_nil] at outputs
  exact (List.append_eq_nil_iff.mp outputs).2

end

/-- What holds in every run: an open channel is the last one opened, and each open has
    been reported but perhaps the last. -/
structure Tracked (zpp : ZppBits) (w : Server) : Prop where
  current : ∀ k, w.channel = some k → k = w.opened
  closed : w.phase = .idle ∨ w.phase = .closing .reports → w.channel = none
  counted : (settled zpp w.loop).2 + (if w.phase = .opened then 1 else 0) = w.opened

section
variable {zpp : ZppBits} {w w' : Server}

theorem ofClosing_behindLock (channel : Option ℕ) :
    Phase.ofClosing (Closing.behindLock channel) ≠ .opened := by
  cases channel <;> exact nofun

theorem Tracked.settled_of_ne (h : Tracked zpp w) (phase : w.phase ≠ .opened) :
    (settled zpp w.loop).2 = w.opened := by
  have counted := h.counted
  rwa [if_neg phase] at counted

theorem Tracked.executed (h : Tracked zpp w) {out : Option (TransportCall × ℕ)}
    {loop' : ServerLoop} (exec : Exec (stampedController zpp) w.loop out loop') :
    (settled zpp loop').2 + (if w.phase = .opened then 1 else 0) = w.opened := by
  rw [(future_exec zpp exec).1]
  exact h.counted

theorem tracked_step (h : Tracked zpp w) (step : Step zpp w w') : Tracked zpp w' := by
  cases step with
  | opens idle invalid =>
    refine ⟨fun k valid => (Option.some.inj valid).symm, nofun, ?_⟩
    exact congrArg (· + 1) (h.settled_of_ne (by rw [idle]; exact nofun))
  | findsOpen idle valid => exact absurd (h.closed (.inl idle)) valid
  | reportsOpen drawn opened =>
    refine ⟨h.current, nofun, ?_⟩
    have counted := h.counted
    rw [if_pos opened] at counted
    exact (settled_connected zpp w.loop drawn).trans counted
  | startsRead reading | readsNothing reading | findsClosed reading | readFails reading =>
    exact ⟨h.current, nofun, h.settled_of_ne (by rw [reading]; exact nofun)⟩
  | reads data inRead =>
    refine ⟨h.current, nofun, ?_⟩
    exact (settled_arrive zpp w.loop (.bytes data) nofun).trans
      (h.settled_of_ne (by rw [inRead]; exact nofun))
  | closes closing =>
    refine ⟨nofun, fun _ => rfl, ?_⟩
    change _ + (if Phase.ofClosing _ = _ then 1 else 0) = _
    rw [if_neg (ofClosing_behindLock w.channel)]
    exact h.settled_of_ne (by rw [closing]; exact nofun)
  | reportsClose closing =>
    refine ⟨h.current, fun _ => h.closed (.inr closing), ?_⟩
    exact (settled_arrive zpp w.loop .disconnected nofun).trans
      (h.settled_of_ne (by rw [closing]; exact nofun))
  | samples sample =>
    refine ⟨h.current, h.closed, ?_⟩
    rw [← h.counted]
    exact congrArg (· + _) (settled_arrive zpp w.loop (.sample sample) nofun)
  | executes loop' free exec | writes loop' bytes connection k free exec
  | writeFails loop' bytes connection free exec | drops loop' bytes connection free exec =>
    exact ⟨h.current, h.closed, h.executed exec⟩
  | closesOnRequest loop' connection free exec => exact ⟨h.current, h.closed, h.executed exec⟩
  | executorCloses closing => exact ⟨nofun, fun _ => rfl, h.counted⟩
  | executorReports closing =>
    refine ⟨h.current, h.closed, ?_⟩
    rw [← h.counted]
    exact congrArg (· + _) (settled_arrive zpp w.loop .disconnected nofun)

theorem tracked_start : Tracked zpp {} := ⟨nofun, fun _ => rfl, rfl⟩

theorem opened_le (step : Step zpp w w') : w.opened ≤ w'.opened := by
  cases step with
  | opens => exact Nat.le_succ _
  | _ => exact Nat.le_refl _

theorem numbered_step (tracked : Tracked zpp w) (numbered : ∀ x ∈ w.written, x.channel ≤ w.opened)
    (step : Step zpp w w') : ∀ x ∈ w'.written, x.channel ≤ w'.opened := by
  have more := opened_le step
  cases step with
  | writes loop' bytes connection k free exec valid =>
    intro x hx
    rcases List.mem_append.mp hx with old | new
    · exact numbered x old
    · rw [List.mem_singleton.mp new]
      exact Nat.le_of_eq (tracked.current k valid)
  | _ => exact fun x hx => Nat.le_trans (numbered x hx) more

/-- In every run: from a close's report to the next connect's no sample is answered. The
    one read that the close may have found under way changes nothing in that. -/
structure Dormant (zpp : ZppBits) (w : Server) : Prop where
  silent : w.channel = none ∨ w.phase = .opened → w.closing ≠ some .reports →
    w.phase ≠ .closing .reports → answersSamples (settled zpp w.loop).1 = false
  asleep : w.channel = none → w.phase = .inRead → w.closing ≠ some .reports →
    Asleep (settled zpp w.loop).1

theorem dormant_start : Dormant zpp {} := ⟨fun _ _ _ => rfl, nofun⟩

theorem Dormant.reset {callback : ServerCallback}
    (asleep : Asleep (settled zpp (w.loop.arrive callback)).1)
    (loop : w'.loop = w.loop.arrive callback) : Dormant zpp w' := by
  rw [← loop] at asleep
  exact ⟨fun _ _ _ => asleep.answersSamples, fun _ _ _ => asleep⟩

/-- The executor's own steps are on their way to the machine that was ahead before. -/
theorem Dormant.executed (h : Dormant zpp w) (free : w.closing = none)
    (settled : settled zpp w'.loop = settled zpp w.loop) (phase : w'.phase = w.phase)
    (channel : w'.channel = w.channel) : Dormant zpp w' := by
  have unreported : w.closing ≠ some .reports := by rw [free]; exact nofun
  constructor
  · rw [settled, phase, channel]
    exact fun shut _ => h.silent shut unreported
  · rw [settled, phase, channel]
    exact fun invalid inRead _ => h.asleep invalid inRead unreported

theorem dormant_step (tracked : Tracked zpp w) (h : Dormant zpp w) (step : Step zpp w w') :
    Dormant zpp w' := by
  cases step with
  | opens idle invalid =>
    have unreported : w.phase ≠ .closing .reports := by rw [idle]; exact nofun
    exact ⟨fun _ free _ => h.silent (.inl invalid) free unreported, nofun⟩
  | findsOpen idle valid => exact absurd (tracked.closed (.inl idle)) valid
  | reportsOpen drawn opened =>
    refine ⟨fun _ _ _ => ?_, nofun⟩
    change answersSamples (settled zpp (w.loop.arrive (.connected drawn))).1 = false
    rw [(future_arrive_stamped zpp w.loop (.connected drawn) rfl).1]
    rfl
  | startsRead reading valid =>
    refine ⟨?_, fun invalid => absurd invalid valid⟩
    rintro (invalid | ⟨⟨⟩⟩)
    exact absurd invalid valid
  | findsClosed here | readsNothing here | readFails here =>
    have unreported : w.phase ≠ .closing .reports := by rw [here]; exact nofun
    refine ⟨?_, nofun⟩
    rintro (invalid | ⟨⟨⟩⟩) free _
    exact h.silent (.inl invalid) free unreported
  | reads data inRead =>
    refine ⟨?_, nofun⟩
    rintro (invalid | ⟨⟨⟩⟩) free _
    exact asleep_bytes zpp (h.asleep invalid inRead free) data
  | closes closing =>
    have unreported : w.phase ≠ .closing .reports := by rw [closing]; exact nofun
    refine ⟨fun _ free unreported' => ?_, fun _ inRead => ?_⟩
    · cases invalid : w.channel with
      | none => exact h.silent (.inl invalid) free unreported
      | some k =>
        rw [invalid] at unreported'
        exact absurd rfl unreported'
    · cases valid : w.channel <;> rw [valid] at inRead <;> cases inRead
  | reportsClose closing => exact .reset (outstanding_disconnected zpp w.loop).1 rfl
  | samples sample free idle =>
    exact h.executed free (outstanding_sample zpp w.loop sample).1 rfl rfl
  | executes loop' free exec | writes loop' bytes connection k free exec
  | writeFails loop' bytes connection free exec | drops loop' bytes connection free exec =>
    exact h.executed free (future_exec zpp exec).1 rfl rfl
  | closesOnRequest loop' connection free exec =>
    exact h.executed free (future_exec zpp exec).1 rfl rfl
  | executorCloses closing =>
    have unreported : w.closing ≠ some .reports := by rw [closing]; exact nofun
    cases invalid : w.channel with
    | none =>
      exact ⟨fun _ _ => h.silent (.inl invalid) unreported, fun _ inRead _ =>
        h.asleep invalid inRead unreported⟩
    | some k => exact ⟨fun _ reported => absurd rfl reported, fun _ _ reported => absurd rfl reported⟩
  | executorReports closing => exact .reset (outstanding_disconnected zpp w.loop).1 rfl

end

/-- Nothing is left to send (a send that has yet to write is left), or the executor is in
    `closeChannel` and has its lock ahead: what is open then it closes before it sends. -/
def Ready (zpp : ZppBits) (w : Server) : Prop :=
  outstanding zpp w.loop = [] ∨ w.closing = some .locks

def ReadyOpens (zpp : ZppBits) (w w' : Server) : Prop :=
  w'.opened ≠ w.opened → Ready zpp w

/-- What holds of a channel that was opened ready. -/
structure Scoped (zpp : ZppBits) (k : ℕ) (w : Server) : Prop where
  quiet : w.channel = some k → w.closing ≠ some .locks → w.phase = .opened →
    outstanding zpp w.loop = []
  fresh : w.channel = some k → w.closing ≠ some .locks → ∀ call ∈ outstanding zpp w.loop, call.2 = k
  kept : ∀ x ∈ w.written, x.channel = k → x.connection = k

section
variable {zpp : ZppBits} {k : ℕ} {w w' : Server}

/-- Up to its report nothing is left to send. -/
theorem quiet_step (dormant : Dormant zpp w) (h : Scoped zpp k w) (step : Step zpp w w')
    (ready : w'.channel = some k → ReadyOpens zpp w w') :
    w'.channel = some k → w'.closing ≠ some .locks → w'.phase = .opened →
      outstanding zpp w'.loop = [] := by
  intro valid unlocked opened
  cases step with
  | opens => exact (ready valid (Nat.succ_ne_self _)).resolve_right unlocked
  | findsOpen | reportsOpen | startsRead | findsClosed | reads | readsNothing | readFails
  | reportsClose => cases opened
  | closes => exact absurd opened (ofClosing_behindLock w.channel)
  | samples sample free idle =>
    have unreported : w.closing ≠ some .reports := by rw [free]; exact nofun
    have unopened : w.phase ≠ .closing .reports := by rw [opened]; exact nofun
    have unanswered := dormant.silent (.inr opened) unreported unopened
    change outstanding zpp (w.loop.arrive (.sample sample)) = []
    rw [(outstanding_sample zpp w.loop sample).2, unanswered, h.quiet valid unlocked opened]
    rfl
  | executes loop' free exec | writes loop' bytes connection k' free exec
  | drops loop' bytes connection free exec =>
    exact drained_exec zpp exec (h.quiet valid unlocked opened)
  | writeFails | closesOnRequest => exact absurd rfl unlocked
  | executorCloses => cases valid
  | executorReports closing =>
    have quiet := h.quiet valid (by rw [closing]; exact nofun) opened
    exact (outstanding_disconnected zpp w.loop).2.trans quiet

/-- Behind its report a connection is the one new calls are stamped with. -/
theorem fresh_arrive (tracked : Tracked zpp w') (unopened : w'.phase ≠ .opened)
    {callback : ServerCallback} (loop : w'.loop = w.loop.arrive callback)
    (valid : w'.channel = some k) (fresh : ∀ call ∈ outstanding zpp w.loop, call.2 = k) :
    ∀ call ∈ outstanding zpp w'.loop, call.2 = k := by
  intro call hcall
  obtain ⟨sends, outputs⟩ := outstanding_arrive zpp w.loop callback
  rw [loop, outputs] at hcall
  rcases List.mem_append.mp hcall with old | new
  · exact fresh call old
  · obtain ⟨bytes, _, rfl⟩ := List.mem_map.mp new
    have settled := tracked.settled_of_ne unopened
    rw [loop] at settled
    exact settled.trans (tracked.current k valid).symm

theorem fresh_step (h : Scoped zpp k w) (step : Step zpp w w') (tracked : Tracked zpp w')
    (quiet : w'.channel = some k → w'.closing ≠ some .locks → w'.phase = .opened →
      outstanding zpp w'.loop = []) :
    w'.channel = some k → w'.closing ≠ some .locks →
      ∀ call ∈ outstanding zpp w'.loop, call.2 = k := by
  intro valid unlocked
  by_cases opened : w'.phase = .opened
  · rw [quiet valid unlocked opened]
    exact nofun
  cases step with
  | opens => exact absurd rfl opened
  | findsOpen | startsRead | findsClosed | readsNothing | readFails => exact h.fresh valid unlocked
  | reportsOpen | reads | reportsClose | samples =>
    exact fresh_arrive tracked opened rfl valid (h.fresh valid unlocked)
  | executorReports closing =>
    exact fresh_arrive tracked opened rfl valid (h.fresh valid (by rw [closing]; exact nofun))
  | closes | executorCloses => cases valid
  | executes loop' free exec | writes loop' bytes connection _ free exec
  | drops loop' bytes connection free exec =>
    exact fun call hcall => h.fresh valid unlocked call (outstanding_exec zpp exec call hcall)
  | writeFails | closesOnRequest => exact absurd rfl unlocked

theorem kept_step (h : Scoped zpp k w) (step : Step zpp w w') :
    ∀ x ∈ w'.written, x.channel = k → x.connection = k := by
  cases step with
  | writes loop' bytes connection k' free exec valid =>
    intro x hx channel
    rcases List.mem_append.mp hx with old | new
    · exact h.kept x old channel
    · rw [List.mem_singleton.mp new] at channel ⊢
      obtain rfl : k' = k := channel
      exact h.fresh valid (by rw [free]; exact nofun) _
        ((future_exec zpp exec).2.subset List.mem_cons_self)
  | _ => exact h.kept

theorem scoped_step (tracked : Tracked zpp w) (dormant : Dormant zpp w) (h : Scoped zpp k w)
    (step : Step zpp w w') (ready : w'.channel = some k → ReadyOpens zpp w w') :
    Scoped zpp k w' := by
  have quiet := quiet_step dormant h step ready
  exact ⟨quiet, fresh_step h step (tracked_step tracked step) quiet, kept_step h step⟩

theorem scoped_start : Scoped zpp k {} := ⟨nofun, nofun, nofun⟩

/-- A channel that was never opened has carried nothing. -/
theorem scoped_unopened (tracked : Tracked zpp w) (numbered : ∀ x ∈ w.written, x.channel ≤ w.opened)
    (unopened : w.opened < k) : Scoped zpp k w := by
  have other (valid : w.channel = some k) : False := by
    have current := tracked.current k valid
    omega
  refine ⟨fun valid => (other valid).elim, fun valid => (other valid).elim, fun x hx channel => ?_⟩
  have bound := numbered x hx
  omega

structure Sound (zpp : ZppBits) (w : Server) : Prop where
  tracked : Tracked zpp w
  dormant : Dormant zpp w
  numbered : ∀ x ∈ w.written, x.channel ≤ w.opened

theorem Sound.step (h : Sound zpp w) (step : Step zpp w w') : Sound zpp w' :=
  ⟨tracked_step h.tracked step, dormant_step h.tracked h.dormant step,
    numbered_step h.tracked h.numbered step⟩

theorem sound_start : Sound zpp {} := ⟨tracked_start, dormant_start, nofun⟩

theorem sound_run (run : Relation.ReflTransGen (Step zpp) {} w) : Sound zpp w := by
  induction run with
  | refl => exact sound_start
  | tail _ step ih => exact ih.step step

theorem scoped_run (k : ℕ)
    (run : Relation.ReflTransGen (fun w w' => Step zpp w w' ∧ ReadyOpens zpp w w') {} w) :
    Sound zpp w ∧ Scoped zpp k w := by
  induction run with
  | refl => exact ⟨sound_start, scoped_start⟩
  | tail _ step ih =>
    exact ⟨ih.1.step step.1, scoped_step ih.1.tracked ih.1.dormant ih.2 step.1 fun _ => step.2⟩

theorem scoped_behind (sound : Sound zpp w) (h : Scoped zpp k w) (opened : k ≤ w.opened)
    (run : Relation.ReflTransGen (Step zpp) w w') :
    Sound zpp w' ∧ Scoped zpp k w' ∧ k ≤ w'.opened := by
  induction run with
  | refl => exact ⟨sound, h, opened⟩
  | @tail v v' _ step ih =>
    obtain ⟨sound, h, opened⟩ := ih
    have more := opened_le step
    have sound' := sound.step step
    refine ⟨sound', scoped_step sound.tracked sound.dormant h step fun valid other => ?_,
      Nat.le_trans opened more⟩
    have current := sound'.tracked.current k valid
    omega

/-- A channel that is opened ready never carries a buffer of another connection. -/
theorem ready_open_keeps (run : Relation.ReflTransGen (Step zpp) {} w) (idle : w.phase = .idle)
    (ready : Ready zpp w) (later : Relation.ReflTransGen (Step zpp) w.openChannel w') :
    ∀ x ∈ w'.written, x.channel = w.opened + 1 → x.connection = w.opened + 1 := by
  have sound := sound_run run
  have opens : Step zpp w w.openChannel := .opens w idle (sound.tracked.closed (.inl idle))
  have unopened : Scoped zpp (w.opened + 1) w :=
    scoped_unopened sound.tracked sound.numbered (Nat.lt_succ_self _)
  have opened := scoped_step sound.tracked sound.dormant unopened opens fun _ _ => ready
  exact (scoped_behind (sound.step opens) opened (Nat.le_refl _) later).2.1.kept

end

/-- What the executor needs to get to its calls, and what they will be. -/
structure Runnable (zpp : ZppBits) (l : ServerLoop) : Prop where
  safe : (stampedController zpp).AbortsLast l.effects
  sends : ∀ call ∈ outstanding zpp l,
    ∃ bytes connection, call = (.send bytes, connection) ∧ connection ≤ (settled zpp l).2

section
variable {zpp : ZppBits} {w w' : Server}

theorem runnable_start : Runnable zpp { machine := ({}, 0) } := ⟨trivial, nofun⟩

theorem settled_arrive_le (l : ServerLoop) (callback : ServerCallback) :
    (settled zpp l).2 ≤ (settled zpp (l.arrive callback)).2 := by
  cases callback with
  | connected drawn =>
    rw [settled_connected]
    exact Nat.le_succ _
  | disconnected => exact Nat.le_of_eq (settled_arrive zpp l .disconnected nofun).symm
  | bytes data => exact Nat.le_of_eq (settled_arrive zpp l (.bytes data) nofun).symm
  | sample sample => exact Nat.le_of_eq (settled_arrive zpp l (.sample sample) nofun).symm

theorem runnable_arrive {l : ServerLoop} (h : Runnable zpp l) (callback : ServerCallback) :
    Runnable zpp (l.arrive callback) := by
  refine ⟨h.safe, ?_⟩
  intro call hcall
  obtain ⟨sends, outputs⟩ := outstanding_arrive zpp l callback
  rw [outputs] at hcall
  rcases List.mem_append.mp hcall with old | new
  · obtain ⟨bytes, connection, rfl, bound⟩ := h.sends call old
    exact ⟨bytes, connection, rfl, Nat.le_trans bound (settled_arrive_le l callback)⟩
  · obtain ⟨bytes, _, rfl⟩ := List.mem_map.mp new
    exact ⟨bytes, _, rfl, Nat.le_refl _⟩

theorem runnable_exec (documented : zpp.Documented) {l l' : ServerLoop}
    {out : Option (TransportCall × ℕ)} (h : Runnable zpp l)
    (exec : Exec (stampedController zpp) l out l') : Runnable zpp l' := by
  refine ⟨Wiring.exec_abortsLast (stampedController_careful documented) exec h.safe, ?_⟩
  intro call hcall
  rw [(future_exec zpp exec).1]
  exact h.sends call (outstanding_exec zpp exec call hcall)

theorem runnable_step (documented : zpp.Documented) (h : Runnable zpp w.loop)
    (step : Step zpp w w') : Runnable zpp w'.loop := by
  rcases step_loop step with same | ⟨callback, arrives⟩ | ⟨out, exec⟩
  · rw [same]
    exact h
  · rw [arrives]
    exact runnable_arrive h callback
  · exact runnable_exec documented h exec

theorem runnable_run (documented : zpp.Documented)
    (run : Relation.ReflTransGen (Step zpp) {} w) : Runnable zpp w.loop := by
  induction run with
  | refl => exact runnable_start
  | tail _ step ih => exact runnable_step documented ih step

theorem awaited_arrive {l : ServerLoop} (awaited : outstanding zpp l ≠ [])
    (callback : ServerCallback) : outstanding zpp (l.arrive callback) ≠ [] := by
  obtain ⟨sends, outputs⟩ := outstanding_arrive zpp l callback
  rw [outputs]
  exact List.append_ne_nil_of_left_ne_nil awaited _

/-- The executor may run on by itself while it is not in `closeChannel`. -/
theorem silent_steps (free : w.closing = none) {loop' : ServerLoop}
    (silent : (stampedController zpp).Silent w.loop loop') :
    Relation.ReflTransGen (Step zpp) w { w with loop := loop' } := by
  induction silent with
  | refl => exact .refl
  | tail _ exec ih => exact ih.tail (.executes _ _ free exec)

/-- A channel was opened and not yet reported, and calls are left to make. -/
structure OpenedOver (zpp : ZppBits) (w : Server) : Prop where
  opened : w.phase = .opened
  valid : w.channel = some w.opened
  awaited : outstanding zpp w.loop ≠ []

/-- The executor can get out of `closeChannel` where its lock is behind it. -/
theorem OpenedOver.frees (h : OpenedOver zpp w) (unlocked : w.closing ≠ some .locks) :
    ∃ w', Relation.ReflTransGen (Step zpp) w w' ∧ OpenedOver zpp w' ∧ w'.closing = none ∧
      w'.opened = w.opened := by
  cases closing : w.closing with
  | none => exact ⟨w, .refl, h, closing, rfl⟩
  | some stage =>
    cases stage with
    | locks => exact absurd closing unlocked
    | reports =>
      exact ⟨_, .single (.executorReports w closing),
        ⟨h.opened, h.valid, awaited_arrive h.awaited _⟩, rfl, rfl⟩

theorem OpenedOver.writes (documented : zpp.Documented) (h : OpenedOver zpp w)
    (free : w.closing = none) (tracked : Tracked zpp w) (runnable : Runnable zpp w.loop) :
    ∃ w', Relation.ReflTransGen (Step zpp) w w' ∧
      ∃ x ∈ w'.written, x.channel = w.opened ∧ x.connection ≠ x.channel := by
  obtain ⟨loop₁, call, loop₂, silent, exec, outstanding⟩ :=
    Wiring.reaches_output (stampedController_careful documented) w.loop runnable.safe h.awaited
  obtain ⟨bytes, connection, rfl, bound⟩ := runnable.sends call outstanding
  refine ⟨_, (silent_steps free silent).tail
    (.writes _ loop₂ bytes connection w.opened free exec h.valid), ?_⟩
  refine ⟨⟨w.opened, connection, bytes⟩, List.mem_append_right _ List.mem_cons_self, rfl, ?_⟩
  have counted := tracked.counted
  rw [if_pos h.opened] at counted
  change connection ≠ w.opened
  omega

/-- A channel that is not opened ready may come to carry what was left to send. -/
theorem unready_open_crosses (documented : zpp.Documented)
    (run : Relation.ReflTransGen (Step zpp) {} w) (idle : w.phase = .idle)
    (unready : ¬ Ready zpp w) :
    ∃ w', Relation.ReflTransGen (Step zpp) w.openChannel w' ∧
      ∃ x ∈ w'.written, x.channel = w.opened + 1 ∧ x.connection ≠ x.channel := by
  obtain ⟨awaited, unlocked⟩ := not_or.mp unready
  have opens : Step zpp w w.openChannel :=
    .opens w idle ((sound_run run).tracked.closed (.inl idle))
  have loaded : OpenedOver zpp w.openChannel := ⟨rfl, rfl, awaited⟩
  obtain ⟨w₁, run₁, loaded, free, same⟩ := loaded.frees unlocked
  have reached := (run.tail opens).trans run₁
  obtain ⟨w₂, run₂, x, hx, carried, crossed⟩ :=
    loaded.writes documented free (sound_run reached).tracked (runnable_run documented reached)
  exact ⟨w₂, run₁.trans run₂, x, hx, carried.trans same, crossed⟩

end

/-- In every run in which each open is ready, a buffer is written only to the channel of
    the connection it was made for. Of an open in any run that is exact: its channel may
    come to carry a buffer of another connection just where it is not ready. -/
theorem written_in_scope (zpp : ZppBits) :
    (∀ w, Relation.ReflTransGen (fun w w' => Step zpp w w' ∧ ReadyOpens zpp w w') {} w →
      ∀ x ∈ w.written, x.connection = x.channel) ∧
    (zpp.Documented → ∀ w, Relation.ReflTransGen (Step zpp) {} w → w.phase = .idle →
      ((∃ w', Relation.ReflTransGen (Step zpp) w.openChannel w' ∧
        ∃ x ∈ w'.written, x.channel = w.opened + 1 ∧ x.connection ≠ x.channel) ↔
          ¬ Ready zpp w)) := by
  refine ⟨fun w run x hx => (scoped_run x.channel run).2.kept x hx rfl,
    fun documented w run idle => ⟨?_, unready_open_crosses documented run idle⟩⟩
  rintro ⟨w', later, x, hx, carried, crossed⟩ ready
  exact crossed ((ready_open_keeps run idle ready later x hx carried).trans carried.symm)

/-- The transport's thread closes the channel after a failed read. -/
theorem closes_run {zpp : ZppBits} (w : Server) (reading : w.phase = .reading) {k : ℕ}
    (valid : w.channel = some k) :
    Relation.ReflTransGen (fun w w' => Step zpp w w' ∧ ReadyOpens zpp w w') w
      { w with phase := .idle, channel := none, loop := w.loop.arrive .disconnected } := by
  have starts : Step zpp w { w with phase := .inRead } :=
    .startsRead w reading (by rw [valid]; exact nofun)
  have fails : Step zpp { w with phase := .inRead } { w with phase := .closing .locks } :=
    .readFails _ rfl
  have was_connected : Closing.behindLock w.channel = some .reports := by
    rw [valid]
    rfl
  have closes : Step zpp { w with phase := .closing .locks }
      { w with phase := .ofClosing (Closing.behindLock w.channel), channel := none } :=
    .closes _ rfl
  rw [was_connected] at closes
  have reports : Step zpp { w with phase := .closing .reports, channel := none }
      { w with phase := .idle, channel := none, loop := w.loop.arrive .disconnected } :=
    .reportsClose _ rfl
  exact Relation.ReflTransGen.refl
    |>.tail ⟨starts, absurd rfl⟩
    |>.tail ⟨fails, absurd rfl⟩
    |>.tail ⟨closes, absurd rfl⟩
    |>.tail ⟨reports, absurd rfl⟩

def helloBytes : Buffer := messageWire.write (MessageFactory.makeHello ⟨1, 1⟩)

/-- Channel 1 is open and reported, its Hello waits to be sent. -/
def helloQueued : Server where
  loop :=
    { machine := ((handleTransportConnected {} ⟨1, 1⟩).1, 1)
      queue := [.output (.send helloBytes, 1)] }
  phase := .reading
  channel := some 1
  opened := 1

/-- Channel 1 is closed and that is reported. -/
def helloClosed (queue : List (Task ServerCallback (TransportCall × ℕ)))
    (written : List Written) : Server where
  loop := { machine := ((handleTransportConnected {} ⟨1, 1⟩).1, 1), queue := queue }
  opened := 1
  written := written

theorem helloQueued_reachable : Relation.ReflTransGen
    (fun w w' => Step layoutArchives w w' ∧ ReadyOpens layoutArchives w w') {} helloQueued := by
  let connecting : ServerLoop := { machine := ({}, 0), queue := [.input (.connected ⟨1, 1⟩)] }
  let stepped : Server := { helloQueued with
    loop := { machine := helloQueued.loop.machine
              effects := [(.stopTelemetryTimer, 1),
                (.sendMessage (MessageFactory.makeHello ⟨1, 1⟩), 1)] } }
  have reports : Step layoutArchives (Server.openChannel {}) { helloQueued with loop := connecting } :=
    .reportsOpen _ ⟨1, 1⟩ rfl
  have steps : Step layoutArchives { helloQueued with loop := connecting } stepped :=
    .executes _ _ rfl (.input connecting (.connected ⟨1, 1⟩) []
      (ServerEvent.transportConnected ⟨1, 1⟩) rfl rfl rfl)
  have stops : Step layoutArchives stepped { stepped with
      loop := { stepped.loop with effects := stepped.loop.effects.tail } } :=
    .executes _ _ rfl (.performed _ (ServerEffect.stopTelemetryTimer, 1) _ rfl (.inl rfl))
  have posts : Step layoutArchives { stepped with
      loop := { stepped.loop with effects := stepped.loop.effects.tail } } helloQueued :=
    .executes _ _ rfl (.posted _ (ServerEffect.sendMessage (MessageFactory.makeHello ⟨1, 1⟩), 1) []
      (TransportCall.send helloBytes, 1) rfl rfl)
  exact Relation.ReflTransGen.refl
    |>.tail ⟨.opens {} rfl rfl, fun _ => .inl rfl⟩
    |>.tail ⟨reports, absurd rfl⟩
    |>.tail ⟨steps, absurd rfl⟩
    |>.tail ⟨stops, absurd rfl⟩
    |>.tail ⟨posts, absurd rfl⟩

theorem helloClosed_reachable : Relation.ReflTransGen (Step layoutArchives) {}
    (helloClosed [.output (.send helloBytes, 1), .input .disconnected] []) :=
  Relation.ReflTransGen.mono (fun _ _ step => step.1) _ _
    (helloQueued_reachable.trans (closes_run helloQueued rfl rfl))

/-- The Hello is sent before channel 1 is closed, or it waits when channel 2 is opened. -/
theorem written_in_scope_reopened :
    (∃ w : Server, w.opened = 2 ∧ w.written = [⟨1, 1, helloBytes⟩] ∧
      ∀ x ∈ w.written, x.connection = x.channel) ∧
    ∃ w, Relation.ReflTransGen (Step layoutArchives)
        (helloClosed [.output (.send helloBytes, 1), .input .disconnected] []).openChannel w ∧
      ∃ x ∈ w.written, x.channel = 2 ∧ x.connection ≠ x.channel := by
  let sent : Server := { helloQueued with
    loop := { helloQueued.loop with queue := [] }, written := [⟨1, 1, helloBytes⟩] }
  have writes : Step layoutArchives helloQueued sent :=
    .writes _ _ helloBytes 1 1 rfl (.output _ _ _ rfl rfl) rfl
  have opens : Step layoutArchives (helloClosed [.input .disconnected] [⟨1, 1, helloBytes⟩])
      (helloClosed [.input .disconnected] [⟨1, 1, helloBytes⟩]).openChannel := .opens _ rfl rfl
  refine ⟨⟨_, rfl, rfl, (written_in_scope layoutArchives).1 _ (helloQueued_reachable
    |>.tail ⟨writes, absurd rfl⟩
    |>.trans (closes_run sent rfl rfl)
    |>.tail ⟨opens, fun _ => .inl rfl⟩)⟩, ?_⟩
  refine ((written_in_scope layoutArchives).2 layoutArchives_documented _ helloClosed_reachable
    rfl).mpr ?_
  rintro (drained | ⟨⟨⟩⟩)
  exact absurd drained nofun

/-- The channel is closed and opened again between the step that made the Hello and the
    task that sends it: channel 2 carries the Hello of connection 1. -/
theorem hello_crosses_connections :
    ∃ w, Relation.ReflTransGen (Step layoutArchives) {} w ∧
      ∃ x ∈ w.written, x.connection ≠ x.channel := by
  have opens : Step layoutArchives
      (helloClosed [.output (.send helloBytes, 1), .input .disconnected] [])
      (helloClosed [.output (.send helloBytes, 1), .input .disconnected] []).openChannel :=
    .opens _ rfl rfl
  have writes : Step layoutArchives
      (helloClosed [.output (.send helloBytes, 1), .input .disconnected] []).openChannel
      (helloClosed [.input .disconnected] [⟨2, 1, helloBytes⟩]).openChannel :=
    .writes _ _ helloBytes 1 2 rfl (.output _ _ _ rfl rfl) rfl
  refine ⟨_, helloClosed_reachable |>.tail opens |>.tail writes, ?_⟩
  exact ⟨⟨2, 1, helloBytes⟩, List.mem_cons_self, by decide⟩

end RdpExt.ConnectionScope
