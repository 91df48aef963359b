import RdpExt.CpuSamplerWin

set_option autoImplicit false

/-!
# When a running timer has nothing scheduled

A callback schedules the next one behind two calls that may throw, and a start that
finds the flag set schedules none. The executor catches what is thrown.
-/
namespace RdpExt.TimerLiveness
open TelemetryTimerControl TraceInvariant CpuSamplerWin

variable {σ R S : Type}

def Alive (t : TimerControl σ S) : Prop := t.running = true → t.pending ≠ []

instance (t : TimerControl σ S) : Decidable (Alive t) := inferInstanceAs (Decidable (_ → _))

/-- Where the sampler or the handler throws at a tick, another callback is pending. -/
def Survives (sampler : Sampler σ R S) (t : TimerControl σ S) : Call R → Prop
  | .fire callback _ reading handlerThrows =>
    callback < t.pending.length → t.running = true → t.sampleHandler = true →
      sampler.readSample t.sampler reading = none ∨ handlerThrows = true → 2 ≤ t.pending.length
  | _ => True

theorem postSample_pending (sampler : Sampler σ R S) (t : TimerControl σ S) (reading : R)
    (handlerThrows : Bool) (running : t.running = true) :
    (postSample sampler t reading handlerThrows).running = true ∧
      (postSample sampler t reading handlerThrows).pending =
        if t.sampleHandler = true ∧
            (sampler.readSample t.sampler reading = none ∨ handlerThrows = true) then t.pending
        else t.pending ++ [t.clock + DEFAULT_SAMPLING_INTERVAL_MS] := by
  unfold postSample
  cases handler : t.sampleHandler with
  | false => simp [scheduleSample, running]
  | true =>
    cases read : sampler.readSample t.sampler reading with
    | none => simp [running]
    | some result => cases handlerThrows <;> simp [scheduleSample, running]

theorem alive_fire_iff (sampler : Sampler σ R S) (t : TimerControl σ S) (callback late : ℕ)
    (reading : R) (handlerThrows : Bool) (alive : Alive t) :
    Alive (fire sampler t callback late reading handlerThrows) ↔
      Survives sampler t (.fire callback late reading handlerThrows) := by
  obtain ⟨s, running, handler, clock, pending, delivered⟩ := t
  change _ ↔ (callback < pending.length → running = true → handler = true →
    sampler.readSample s reading = none ∨ handlerThrows = true → 2 ≤ pending.length)
  unfold fire
  cases found : pending[callback]? with
  | none =>
    refine iff_of_true alive fun bound => ?_
    rw [List.getElem?_eq_none_iff] at found
    omega
  | some due =>
    obtain ⟨bound, _⟩ := List.getElem?_eq_some_iff.mp found
    have left := List.length_eraseIdx_of_lt bound
    cases running with
    | false => exact iff_of_true (fun on => by cases on) fun _ on => by cases on
    | true =>
      obtain ⟨still, posted⟩ := postSample_pending sampler
        (⟨s, true, handler, max clock due + late, pending.eraseIdx callback, delivered⟩ :
          TimerControl σ S) reading handlerThrows rfl
      unfold Alive
      rw [still, posted]
      split_ifs with thrown
      · rw [ne_eq, ← List.length_eq_zero_iff, left]
        constructor
        · intro others _ _ _ _
          have := others rfl
          omega
        · intro two _
          have := two bound rfl thrown.1 thrown.2
          omega
      · refine iff_of_true (fun _ => ?_) fun _ _ handled throws => ?_
        · exact List.append_ne_nil_of_right_ne_nil _ (List.cons_ne_nil _ _)
        · exact absurd ⟨handled, throws⟩ thrown

theorem alive_step_iff (sampler : Sampler σ R S) (t : TimerControl σ S) (call : Call R)
    (alive : Alive t) : Alive (step sampler t call) ↔ Survives sampler t call := by
  cases call with
  | setSampleHandler | wait => exact iff_of_true alive trivial
  | stop => exact iff_of_true (fun running => by cases running) trivial
  | start reading =>
    refine iff_of_true ?_ trivial
    change Alive (start sampler t reading)
    rcases start_cases sampler t reading with ⟨_, same⟩ | ⟨sampler', _, started⟩
    · rw [same]
      exact alive
    · rw [started]
      intro _
      cases running : t.running with
      | true => exact alive running
      | false => exact List.append_ne_nil_of_right_ne_nil _ (List.cons_ne_nil _ _)
  | fire callback late reading handlerThrows =>
    exact alive_fire_iff sampler t callback late reading handlerThrows alive

/-- A running timer always has a callback pending in exactly those runs where no tick
    that throws was the only one pending. -/
theorem running_scheduled_iff (sampler : Sampler σ R S) (s : σ) (calls : List (Call R)) :
    Throughout (step sampler) (Alive (S := S)) { sampler := s } calls ↔
      EveryStep (step sampler) (Survives sampler) { sampler := s } calls := by
  have idle : Alive ({ sampler := s } : TimerControl σ S) := fun running => by cases running
  exact throughout_iff_everyStep (fun _ => True) (fun _ _ _ => trivial)
    (fun t call _ alive => alive_step_iff sampler t call alive) trivial idle calls

/-- No start brings back a timer that is running with nothing scheduled. -/
theorem starts_leave_dead (sampler : Sampler σ R S) (t : TimerControl σ S) (readings : List R)
    (running : t.running = true) (nothing : t.pending = []) :
    ((readings.map Call.start).foldl (step sampler) t).running = true ∧
      ((readings.map Call.start).foldl (step sampler) t).pending = [] := by
  induction readings generalizing t with
  | nil => exact ⟨running, nothing⟩
  | cons reading readings ih =>
    rw [List.map_cons, List.foldl_cons]
    change ((readings.map Call.start).foldl _ (start sampler t reading)).running = true ∧ _
    rcases start_cases sampler t reading with ⟨_, same⟩ | ⟨sampler', _, started⟩
    · exact ih _ (by rw [same]; exact running) (by rw [same]; exact nothing)
    · refine ih _ (by rw [started]) ?_
      rw [started]
      simp only [running, ↓reduceIte, nothing]

/-- GetSystemTimes fails at the first tick, and the timer counts as running with nothing
    scheduled. -/
theorem failed_tick_ends_chain :
    ¬ Throughout (step (cpuSamplerWin fun busy _ => busy.toNat)) Alive { sampler := none }
      [.setSampleHandler, .start (some (smallTimes 0 0 0)), .fire 0 0 none false] := by
  intro h
  have last := h _ (List.prefix_refl _) rfl
  exact last rfl

end RdpExt.TimerLiveness
