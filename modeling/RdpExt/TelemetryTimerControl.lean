import RdpExt.LogicEvents
import RdpExt.TraceInvariant

set_option autoImplicit false

/-!
# The sampling timer: `telemetry/timer_control.h`

`start` and `stop` set a flag; each firing of a scheduled callback schedules the
next one while the flag is set. Nothing withdraws a callback once it is scheduled.
-/
namespace RdpExt.TelemetryTimerControl
open LogicEvents TraceInvariant

def DEFAULT_SAMPLING_INTERVAL_MS : ℕ := 1000

/-- A CpuSampler with state `σ`, given what the system reads; `none` is a throw.
    On either platform `reset` is a read whose sample is dropped. -/
structure Sampler (σ R S : Type) where
  readSample : σ → R → Option (σ × S)

def Sampler.reset {σ R S : Type} (sampler : Sampler σ R S) (s : σ) (reading : R) : Option σ :=
  (sampler.readSample s reading).map Prod.fst

/-- `cpu_sampler_linux.cpp`. -/
def cpuSamplerLinux : Sampler Unit Unit CpuSample where
  readSample _ _ := some ((), { cpuLoad := 0 })

/-- The timer, with the clock, the due times of the callbacks that were scheduled and
    have not fired, and the calls of the sample handler so far with their times. -/
structure TimerControl (σ S : Type) where
  sampler : σ
  running : Bool := false
  sampleHandler : Bool := false
  clock : ℕ := 0
  pending : List ℕ := []
  delivered : List (ℕ × S) := []
  deriving DecidableEq, Repr

variable {σ R S : Type}

def scheduleSample (t : TimerControl σ S) : TimerControl σ S :=
  if !t.running then t
  else { t with pending := t.pending ++ [t.clock + DEFAULT_SAMPLING_INTERVAL_MS] }

def setSampleHandler (t : TimerControl σ S) : TimerControl σ S := { t with sampleHandler := true }

def start (sampler : Sampler σ R S) (t : TimerControl σ S) (reading : R) : TimerControl σ S :=
  match sampler.reset t.sampler reading with
  | none => t
  | some sampler' =>
    let wasRunning := t.running
    let exchanged := { t with sampler := sampler', running := true }
    if wasRunning then exchanged else scheduleSample exchanged

def stop (t : TimerControl σ S) : TimerControl σ S := { t with running := false }

/-- A throw, of the sampler or of the handler, leaves the rest undone. -/
def postSample (sampler : Sampler σ R S) (t : TimerControl σ S) (reading : R)
    (handlerThrows : Bool) : TimerControl σ S :=
  if !t.running then t
  else if t.sampleHandler then
    match sampler.readSample t.sampler reading with
    | none => t
    | some (sampler', sample) =>
      let handled := { t with
        sampler := sampler', delivered := t.delivered ++ [(t.clock, sample)] }
      if handlerThrows then handled else scheduleSample handled
  else scheduleSample t

/-- The callback at this place among the pending ones fires, at its due time or, where
    the clock is past it, now; and `late` after that. -/
def fire (sampler : Sampler σ R S) (t : TimerControl σ S) (callback late : ℕ) (reading : R)
    (handlerThrows : Bool) : TimerControl σ S :=
  match t.pending[callback]? with
  | none => t
  | some due =>
    postSample sampler
      { t with clock := max t.clock due + late, pending := t.pending.eraseIdx callback }
      reading handlerThrows

inductive Call (R : Type) where
  | setSampleHandler
  | start (reading : R)
  | stop
  | fire (callback : ℕ) (late : ℕ) (reading : R) (handlerThrows : Bool)
  | wait (ms : ℕ)

def step (sampler : Sampler σ R S) (t : TimerControl σ S) : Call R → TimerControl σ S
  | .setSampleHandler => setSampleHandler t
  | .start reading => start sampler t reading
  | .stop => stop t
  | .fire callback late reading handlerThrows => fire sampler t callback late reading handlerThrows
  | .wait ms => { t with clock := t.clock + ms }

theorem start_cases (sampler : Sampler σ R S) (t : TimerControl σ S) (reading : R) :
    (sampler.reset t.sampler reading = none ∧ start sampler t reading = t) ∨
      ∃ sampler', sampler.reset t.sampler reading = some sampler' ∧
        start sampler t reading = { t with
          sampler := sampler', running := true
          pending := if t.running then t.pending
            else t.pending ++ [t.clock + DEFAULT_SAMPLING_INTERVAL_MS] } := by
  cases read : sampler.reset t.sampler reading with
  | none => exact .inl ⟨rfl, by simp [start, read]⟩
  | some sampler' =>
    refine .inr ⟨sampler', rfl, ?_⟩
    cases running : t.running <;> simp [start, read, running, scheduleSample]

/-- What a callback does when it fires: nothing, the next one, a sample, or both. -/
theorem postSample_cases (sampler : Sampler σ R S) (t : TimerControl σ S) (reading : R)
    (handlerThrows : Bool) :
    ∃ sampler' samples next,
      (samples = [] ∨ ∃ sample, samples = [(t.clock, sample)]) ∧
      (next = [] ∨ next = [t.clock + DEFAULT_SAMPLING_INTERVAL_MS]) ∧
      (t.running = false → samples = [] ∧ next = []) ∧
      postSample sampler t reading handlerThrows = { t with
        sampler := sampler', pending := t.pending ++ next
        delivered := t.delivered ++ samples } := by
  obtain ⟨s, running, handler, clock, pending, delivered⟩ := t
  cases running with
  | false => exact ⟨s, [], [], .inl rfl, .inl rfl, fun _ => ⟨rfl, rfl⟩, by simp [postSample]⟩
  | true =>
    cases handler with
    | false =>
      refine ⟨s, [], _, .inl rfl, .inr rfl, fun off => (by cases off), ?_⟩
      simp [postSample, scheduleSample]
    | true =>
      cases read : sampler.readSample s reading with
      | none =>
        refine ⟨s, [], [], .inl rfl, .inl rfl, fun off => (by cases off), ?_⟩
        simp [postSample, read]
      | some result =>
        obtain ⟨s', sample⟩ := result
        cases handlerThrows with
        | true =>
          refine ⟨s', _, [], .inr ⟨sample, rfl⟩, .inl rfl, fun off => (by cases off), ?_⟩
          simp [postSample, read]
        | false =>
          refine ⟨s', _, _, .inr ⟨sample, rfl⟩, .inr rfl, fun off => (by cases off), ?_⟩
          simp [postSample, read, scheduleSample]

theorem fire_cases (sampler : Sampler σ R S) (t : TimerControl σ S) (callback late : ℕ)
    (reading : R) (handlerThrows : Bool) :
    fire sampler t callback late reading handlerThrows = t ∨
      ∃ due sampler' samples next, t.pending[callback]? = some due ∧
        (samples = [] ∨ ∃ sample, samples = [(max t.clock due + late, sample)]) ∧
        (next = [] ∨ next = [max t.clock due + late + DEFAULT_SAMPLING_INTERVAL_MS]) ∧
        (t.running = false → samples = [] ∧ next = []) ∧
        fire sampler t callback late reading handlerThrows = { t with
          sampler := sampler', clock := max t.clock due + late
          pending := t.pending.eraseIdx callback ++ next
          delivered := t.delivered ++ samples } := by
  unfold fire
  cases found : t.pending[callback]? with
  | none => exact .inl rfl
  | some due =>
    obtain ⟨sampler', samples, next, hsamples, hnext, off, posted⟩ := postSample_cases sampler
      { t with clock := max t.clock due + late, pending := t.pending.eraseIdx callback }
      reading handlerThrows
    exact .inr ⟨due, sampler', samples, next, rfl, hsamples, hnext, off, posted⟩

def SingleChain (t : TimerControl σ S) : Prop := t.running = true → t.pending.length ≤ 1

/-- No two samples less than an interval apart, nor the next one too early. -/
structure Spaced (t : TimerControl σ S) : Prop where
  past : ∀ x ∈ t.delivered, x.1 ≤ t.clock
  apart : t.delivered.Pairwise fun x y => x.1 + DEFAULT_SAMPLING_INTERVAL_MS ≤ y.1
  next : t.running = true → ∀ due ∈ t.pending, ∀ x ∈ t.delivered,
    x.1 + DEFAULT_SAMPLING_INTERVAL_MS ≤ due

/-- The next sample is due within an interval. -/
def Prompt (t : TimerControl σ S) : Prop :=
  ∀ due ∈ t.pending, due ≤ t.clock + DEFAULT_SAMPLING_INTERVAL_MS

/-- A start that sets the flag finds no callback of an earlier period pending. -/
def Alone (sampler : Sampler σ R S) (t : TimerControl σ S) : Call R → Prop
  | .start reading =>
    t.running = false → sampler.reset t.sampler reading ≠ none → t.pending = []
  | _ => True

theorem length_le_one_of_fired {pending : List ℕ} {callback due : ℕ}
    (found : pending[callback]? = some due) (single : pending.length ≤ 1) :
    pending = [due] ∧ pending.eraseIdx callback = [] := by
  match pending, callback with
  | [], _ => simp at found
  | [_], 0 => simp_all
  | [_], _ + 1 => simp at found
  | _ :: _ :: _, _ => simp at single

theorem singleChain_step_iff (sampler : Sampler σ R S) (t : TimerControl σ S) (call : Call R)
    (single : SingleChain t) : SingleChain (step sampler t call) ↔ Alone sampler t call := by
  cases call with
  | setSampleHandler | wait => exact iff_of_true single trivial
  | stop => exact iff_of_true (fun running => by cases running) trivial
  | start reading =>
    change SingleChain (start sampler t reading) ↔
      (t.running = false → sampler.reset t.sampler reading ≠ none → t.pending = [])
    rcases start_cases sampler t reading with ⟨read, same⟩ | ⟨sampler', read, started⟩
    · rw [same]
      exact iff_of_true single (fun _ thrown => absurd read thrown)
    · rw [started, read]
      cases running : t.running with
      | true =>
        refine iff_of_true (fun _ => ?_) (fun off => by cases off)
        exact single running
      | false => simp [SingleChain]
  | fire callback late reading handlerThrows =>
    refine iff_of_true ?_ trivial
    change SingleChain (fire sampler t callback late reading handlerThrows)
    rcases fire_cases sampler t callback late reading handlerThrows with
      same | ⟨due, sampler', samples, next, found, _, hnext, _, fired⟩
    · rw [same]
      exact single
    · rw [fired]
      intro running
      obtain ⟨_, gone⟩ := length_le_one_of_fired found (single running)
      simp only [gone, List.nil_append]
      rcases hnext with rfl | rfl
      · exact Nat.zero_le 1
      · exact Nat.le_refl 1

theorem spaced_step (sampler : Sampler σ R S) (t : TimerControl σ S) (call : Call R)
    (single : SingleChain t) (alone : Alone sampler t call) (spaced : Spaced t) :
    Spaced (step sampler t call) := by
  obtain ⟨past, apart, next⟩ := spaced
  cases call with
  | setSampleHandler => exact ⟨past, apart, next⟩
  | wait ms =>
    refine ⟨fun x hx => ?_, apart, next⟩
    exact Nat.le_trans (past x hx) (Nat.le_add_right _ _)
  | stop => exact ⟨past, apart, fun running => by cases running⟩
  | start reading =>
    change Spaced (start sampler t reading)
    rcases start_cases sampler t reading with ⟨_, same⟩ | ⟨sampler', read, started⟩
    · rw [same]
      exact ⟨past, apart, next⟩
    · rw [started]
      refine ⟨past, apart, fun _ due hdue x hx => ?_⟩
      cases running : t.running with
      | true =>
        simp only [running, ↓reduceIte] at hdue
        exact next running due hdue x hx
      | false =>
        have empty := alone running (by rw [read]; exact Option.some_ne_none _)
        simp only [running, empty, Bool.false_eq_true, ↓reduceIte, List.nil_append,
          List.mem_singleton] at hdue
        have := past x hx
        omega
  | fire callback late reading handlerThrows =>
    change Spaced (fire sampler t callback late reading handlerThrows)
    rcases fire_cases sampler t callback late reading handlerThrows with
      same | ⟨due, sampler', samples, follow, found, hsamples, hfollow, off, fired⟩
    · rw [same]
      exact ⟨past, apart, next⟩
    · have hdue : due ∈ t.pending := List.mem_of_getElem? found
      -- Every sample so far is an interval before one that is delivered now.
      have before : samples ≠ [] → ∀ x ∈ t.delivered,
          x.1 + DEFAULT_SAMPLING_INTERVAL_MS ≤ max t.clock due + late := by
        intro some x hx
        have on : t.running = true := by
          cases running : t.running with
          | true => rfl
          | false => exact absurd (off running).1 some
        have := next on due hdue x hx
        omega
      have now : ∀ x ∈ t.delivered ++ samples, x.1 ≤ max t.clock due + late := by
        intro x hx
        rcases List.mem_append.mp hx with hx | hx
        · have := past x hx
          omega
        · rcases hsamples with rfl | ⟨sample, rfl⟩
          · cases hx
          · rw [List.mem_singleton.mp hx]
      rw [fired]
      refine ⟨now, ?_, fun on due' hdue' x hx => ?_⟩
      · refine List.pairwise_append.mpr ⟨apart, ?_, fun x hx y hy => ?_⟩
        · rcases hsamples with rfl | ⟨sample, rfl⟩ <;> simp
        · rcases hsamples with rfl | ⟨sample, rfl⟩
          · cases hy
          · rw [List.mem_singleton.mp hy]
            exact before (List.cons_ne_nil _ _) x hx
      · obtain ⟨_, gone⟩ := length_le_one_of_fired found (single on)
        simp only [gone, List.nil_append] at hdue'
        rcases hfollow with rfl | rfl
        · cases hdue'
        · rw [List.mem_singleton.mp hdue']
          have := now x hx
          omega

theorem prompt_step (sampler : Sampler σ R S) (t : TimerControl σ S) (call : Call R)
    (prompt : Prompt t) : Prompt (step sampler t call) := by
  cases call with
  | setSampleHandler | stop => exact prompt
  | wait ms =>
    intro due hdue
    have := prompt due hdue
    change due ≤ t.clock + ms + _
    omega
  | start reading =>
    change Prompt (start sampler t reading)
    rcases start_cases sampler t reading with ⟨_, same⟩ | ⟨sampler', _, started⟩
    · rw [same]
      exact prompt
    · rw [started]
      intro due hdue
      change due ≤ t.clock + DEFAULT_SAMPLING_INTERVAL_MS
      split_ifs at hdue
      · exact prompt due hdue
      · rcases List.mem_append.mp hdue with hdue | hdue
        · exact prompt due hdue
        · rw [List.mem_singleton.mp hdue]
  | fire callback late reading handlerThrows =>
    change Prompt (fire sampler t callback late reading handlerThrows)
    rcases fire_cases sampler t callback late reading handlerThrows with
      same | ⟨due, sampler', samples, follow, _, _, hfollow, _, fired⟩
    · rw [same]
      exact prompt
    · rw [fired]
      intro due' hdue'
      change due' ≤ max t.clock due + late + DEFAULT_SAMPLING_INTERVAL_MS
      rcases List.mem_append.mp hdue' with hdue' | hdue'
      · have := prompt due' (List.mem_of_mem_eraseIdx hdue')
        omega
      · rcases hfollow with rfl | rfl
        · cases hdue'
        · rw [List.mem_singleton.mp hdue']

structure OncePerInterval (t : TimerControl σ S) : Prop where
  single : SingleChain t
  spaced : Spaced t
  prompt : Prompt t

theorem oncePerInterval_start (s : σ) :
    OncePerInterval ({ sampler := s } : TimerControl σ S) := by
  refine ⟨fun running => (by cases running), ⟨?_, List.Pairwise.nil, ?_⟩, ?_⟩
  · intro x hx
    cases hx
  · intro running
    cases running
  · intro due hdue
    cases hdue

/-- The timer keeps one chain of callbacks, and with it one sample an interval, in
    exactly those runs where no start that sets the flag finds a callback pending. -/
theorem single_chain_iff (sampler : Sampler σ R S) (s : σ) (calls : List (Call R)) :
    (Throughout (step sampler) (SingleChain (S := S)) { sampler := s } calls ↔
      EveryStep (step sampler) (Alone sampler) { sampler := s } calls) ∧
    (Throughout (step sampler) (OncePerInterval (S := S)) { sampler := s } calls ↔
      EveryStep (step sampler) (Alone sampler) { sampler := s } calls) := by
  have once : OncePerInterval ({ sampler := s } : TimerControl σ S) := oncePerInterval_start s
  constructor
  · exact throughout_iff_everyStep (fun _ => True) (fun _ _ _ => trivial)
      (fun t call _ single => singleChain_step_iff sampler t call single) trivial once.single calls
  · refine throughout_iff_everyStep (fun _ => True) (fun _ _ _ => trivial) ?_
      trivial once calls
    intro t call _ once
    have chain := singleChain_step_iff sampler t call once.single
    constructor
    · exact fun kept => chain.mp kept.single
    · intro alone
      exact ⟨chain.mpr alone, spaced_step sampler t call once.single alone once.spaced,
        prompt_step sampler t call once.prompt⟩

/-- A restart within an interval leaves two chains, and two samples where one is due. -/
theorem restart_doubles_chain :
    ¬ Throughout (step cpuSamplerLinux) SingleChain { sampler := () }
      [.setSampleHandler, .start (), .stop, .start ()] := by
  intro h
  have last := h _ (List.prefix_refl _) rfl
  revert last
  decide

end RdpExt.TelemetryTimerControl
