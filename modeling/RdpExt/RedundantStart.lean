import RdpExt.CpuSamplerWin

set_option autoImplicit false

/-!
# What a start of a running timer changes

A start reads the sampler before it looks at the flag. The next tick's sample is then
held against that reading, and from there on nothing tells the two runs apart.
-/
namespace RdpExt.RedundantStart
open TelemetryTimerControl CpuSamplerWin

variable {σ R S : Type}

theorem step_delivered (sampler : Sampler σ R S) (t : TimerControl σ S) (call : Call R)
    (past : List (ℕ × S)) :
    step sampler { t with delivered := past ++ t.delivered } call =
      { step sampler t call with delivered := past ++ (step sampler t call).delivered } := by
  obtain ⟨s, running, handler, clock, pending, delivered⟩ := t
  cases call with
  | setSampleHandler | stop | wait => rfl
  | start reading =>
    simp only [step, start]
    cases sampler.reset s reading with
    | none => rfl
    | some s' => cases running <;> rfl
  | fire callback late reading handlerThrows =>
    simp only [step, fire]
    cases pending[callback]? with
    | none => rfl
    | some due =>
      cases running with
      | false => rfl
      | true =>
        cases handler with
        | false => rfl
        | true =>
          simp only [postSample]
          cases sampler.readSample s reading with
          | none => rfl
          | some result => cases handlerThrows <;> simp [scheduleSample]

theorem run_delivered (sampler : Sampler σ R S) (t : TimerControl σ S) (calls : List (Call R))
    (past : List (ℕ × S)) :
    (calls.foldl (step sampler) { t with delivered := past ++ t.delivered }).delivered =
      past ++ (calls.foldl (step sampler) t).delivered := by
  induction calls generalizing t with
  | nil => rfl
  | cons call calls ih => rw [List.foldl_cons, List.foldl_cons, step_delivered, ih]

section
variable {L : Type} [Zero L] (quotient : UInt64 → UInt64 → L)

abbrev WinTimer (L : Type) := TimerControl (Option RawTimes) L

abbrev WinCall := Call (Option SystemTimes)

def samples (t : WinTimer L) : List L := t.delivered.map Prod.snd

def tickReading (t : WinTimer L) : WinCall → Option RawTimes
  | .fire callback _ times _ =>
    if callback < t.pending.length ∧ t.running = true ∧ t.sampleHandler = true then
      readRawTimes times
    else none
  | _ => none

def startReading : WinCall → Option RawTimes
  | .start times => readRawTimes times
  | _ => none

/-- The reading of the first tick that makes a sample, if no start reads before it. -/
def firstTick (t : WinTimer L) : List WinCall → Option RawTimes
  | [] => none
  | call :: calls =>
    match tickReading t call, startReading call with
    | some current, _ => some current
    | none, some _ => none
    | none, none => firstTick (step (cpuSamplerWin quotient) t call) calls

/-- What the sampler kept matters to no call but the ticks that make a sample. -/
theorem step_quiet {t : WinTimer L} {call : WinCall} (tick : tickReading t call = none)
    (start : startReading call = none) (kept : Option RawTimes) :
    step (cpuSamplerWin quotient) { t with sampler := kept } call =
      { step (cpuSamplerWin quotient) t call with sampler := kept } := by
  obtain ⟨s, running, handler, clock, pending, delivered⟩ := t
  cases call with
  | setSampleHandler | stop | wait => rfl
  | start times =>
    change readRawTimes times = none at start
    simp [step, TelemetryTimerControl.start, Sampler.reset, cpuSamplerWin, readSample, start]
  | fire callback late times handlerThrows =>
    simp only [step, fire]
    cases found : pending[callback]? with
    | none => rfl
    | some due =>
      obtain ⟨bound, _⟩ := List.getElem?_eq_some_iff.mp found
      cases running with
      | false => rfl
      | true =>
        cases handler with
        | false => rfl
        | true =>
          have failed : readRawTimes times = none := by
            simpa [tickReading, bound] using tick
          simp [postSample, cpuSamplerWin, readSample, failed]

theorem step_startReading {t : WinTimer L} {call : WinCall} {current : RawTimes}
    (start : startReading call = some current) (kept : Option RawTimes) :
    step (cpuSamplerWin quotient) { t with sampler := kept } call =
      step (cpuSamplerWin quotient) t call := by
  cases call with
  | start times =>
    change readRawTimes times = some current at start
    simp [step, TelemetryTimerControl.start, Sampler.reset, cpuSamplerWin, readSample, start]
  | _ => cases start

/-- A tick's sample is all that tells what the sampler had kept. -/
theorem step_tickReading {t : WinTimer L} {call : WinCall} {current : RawTimes}
    (tick : tickReading t call = some current) :
    ∃ (after : WinTimer L) (time : ℕ), ∀ kept,
      step (cpuSamplerWin quotient) { t with sampler := kept } call =
        { after with
          delivered := (t.delivered ++ [(time, cpuLoad quotient (kept.getD current) current)]) ++
            after.delivered } := by
  obtain ⟨s, running, handler, clock, pending, delivered⟩ := t
  cases call with
  | fire callback late times handlerThrows =>
    simp only [tickReading] at tick
    split_ifs at tick with samples
    obtain ⟨bound, rfl, rfl⟩ := samples
    have found := List.getElem?_eq_getElem bound
    refine ⟨{ sampler := some current, running := true, sampleHandler := true
              clock := max clock pending[callback] + late
              pending := pending.eraseIdx callback ++ if handlerThrows then [] else
                [max clock pending[callback] + late + DEFAULT_SAMPLING_INTERVAL_MS] },
      max clock pending[callback] + late, fun kept => ?_⟩
    simp only [step, fire, found]
    cases handlerThrows <;>
      simp [postSample, scheduleSample, cpuSamplerWin, readSample, tick]
  | _ => cases tick

/-- Two runs from states that differ in what the sampler kept get the same samples just
    when the first tick's is the same. -/
theorem samples_eq_iff (t : WinTimer L) (kept : Option RawTimes) (calls : List WinCall) :
    samples (calls.foldl (step (cpuSamplerWin quotient)) { t with sampler := kept }) =
        samples (calls.foldl (step (cpuSamplerWin quotient)) t) ↔
      ∀ current, firstTick quotient t calls = some current →
        cpuLoad quotient (kept.getD current) current =
          cpuLoad quotient (t.sampler.getD current) current := by
  induction calls generalizing t with
  | nil => exact iff_of_true rfl fun _ none => by cases none
  | cons call calls ih =>
    rw [List.foldl_cons, List.foldl_cons]
    cases tick : tickReading t call with
    | some current =>
      obtain ⟨after, time, ticked⟩ := step_tickReading quotient tick
      have own : step (cpuSamplerWin quotient) t call = _ := ticked t.sampler
      have first : firstTick quotient t (call :: calls) = some current := by
        simp only [firstTick, tick]
      rw [ticked kept, own, first]
      unfold samples
      rw [run_delivered, run_delivered]
      simp only [List.map_append, List.map_cons, List.map_nil, List.append_cancel_right_eq,
        List.append_cancel_left_eq, List.cons.injEq, and_true, Option.some.injEq,
        forall_eq']
    | none =>
      cases start : startReading call with
      | some reading =>
        rw [step_startReading quotient start]
        refine iff_of_true rfl fun current first => ?_
        simp only [firstTick, tick, start] at first
        cases first
      | none =>
        have same : step (cpuSamplerWin quotient) t call =
            { step (cpuSamplerWin quotient) t call with sampler := t.sampler } :=
          step_quiet quotient tick start t.sampler
        have unread := congrArg (fun u : WinTimer L => u.sampler) same
        change (step (cpuSamplerWin quotient) t call).sampler = t.sampler at unread
        have first : firstTick quotient t (call :: calls) =
            firstTick quotient (step (cpuSamplerWin quotient) t call) calls := by
          simp only [firstTick, tick, start]
        rw [step_quiet quotient tick start, ih, unread, first]

theorem start_running {t : WinTimer L} (running : t.running = true) (times : Option SystemTimes) :
    step (cpuSamplerWin quotient) t (.start times) =
      { t with sampler := readRawTimes times <|> t.sampler } := by
  obtain ⟨s, _, handler, clock, pending, delivered⟩ := t
  obtain rfl : _ = true := running
  cases read : readRawTimes times <;>
    simp [step, start, Sampler.reset, cpuSamplerWin, readSample, read]

def timerAfter (calls : List WinCall) : WinTimer L :=
  calls.foldl (step (cpuSamplerWin quotient)) { sampler := none }

/-- The tick behind the start gives the same load held against the start's reading as
    against the one before it. -/
def Unseen (past : List WinCall) (times : Option SystemTimes) (later : List WinCall) : Prop :=
  ∀ redundant current, readRawTimes times = some redundant →
    firstTick quotient (timerAfter quotient past) later = some current →
    cpuLoad quotient redundant current =
      cpuLoad quotient ((timerAfter quotient past).sampler.getD current) current

theorem start_removed_iff (past : List WinCall) (times : Option SystemTimes)
    (later : List WinCall) (running : (timerAfter quotient past).running = true) :
    samples (timerAfter quotient (past ++ .start times :: later)) =
        samples (timerAfter quotient (past ++ later)) ↔
      Unseen quotient past times later := by
  have split : ∀ calls, timerAfter quotient (past ++ calls) =
      calls.foldl (step (cpuSamplerWin quotient)) (timerAfter quotient past) :=
    fun calls => List.foldl_append
  rw [split, split, List.foldl_cons, start_running quotient running, samples_eq_iff]
  unfold Unseen
  cases read : readRawTimes times with
  | none => exact iff_of_true (fun _ _ => rfl) fun _ _ none => by cases none
  | some redundant =>
    constructor
    · rintro same _ current ⟨⟩
      exact same current
    · exact fun unseen current => unseen redundant current rfl

/-- Starts of the running timer can be taken out of exactly those runs where no tick
    behind one of them shows its reading in the load. -/
theorem redundant_starts_unseen_iff (calls : List WinCall) :
    (∀ past times later, calls = past ++ .start times :: later →
      (timerAfter quotient past).running = true →
      samples (timerAfter quotient calls) = samples (timerAfter quotient (past ++ later))) ↔
    ∀ past times later, calls = past ++ .start times :: later →
      (timerAfter quotient past).running = true → Unseen quotient past times later := by
  constructor
  · rintro same past times later rfl running
    exact (start_removed_iff quotient past times later running).mp (same past times later rfl running)
  · rintro unseen past times later rfl running
    exact (start_removed_iff quotient past times later running).mpr
      (unseen past times later rfl running)

end

/-- Between the two starts the load is full, from the second to the tick there is none;
    one sample over both says half. -/
theorem redundant_start_shows :
    let percent : UInt64 → UInt64 → ℕ := fun busy total => busy.toNat * 100 / total.toNat
    let past : List WinCall := [.setSampleHandler, .start (some (smallTimes 0 0 0))]
    let tick : WinCall := .fire 0 0 (some (smallTimes 10 20 0)) false
    (timerAfter percent past).running = true ∧
      samples (timerAfter percent (past ++ .start (some (smallTimes 0 10 0)) :: [tick])) = [0] ∧
      samples (timerAfter percent (past ++ [tick])) = [50] := by
  decide

end RdpExt.RedundantStart
