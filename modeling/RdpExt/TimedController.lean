import RdpExt.ServerTelemetry
import RdpExt.CpuSamplerWin

set_option autoImplicit false

/-!
# The server's controller and its timer: `server/controller.h`

The machine's flag says whether telemetry is on, the timer's whether it runs; the
effects of each step are all that keeps the two together. Ticks fire between steps.
-/
namespace RdpExt.TimedController
open ProtocolMessage LogicStates LogicEvents LogicServer TraceInvariant
open TelemetryTimerControl ServerTelemetry CpuSamplerWin

variable {σ R S : Type}

/-- Of the effects only a start can throw: the machine's messages all serialize. -/
def throws (sampler : Sampler σ R S) (t : TimerControl σ S) (reading : R) : ServerEffect → Bool
  | .startTelemetryTimer => (sampler.reset t.sampler reading).isNone
  | _ => false

def handleEffect (sampler : Sampler σ R S) (t : TimerControl σ S) (reading : R) :
    ServerEffect → TimerControl σ S
  | .startTelemetryTimer => start sampler t reading
  | .stopTelemetryTimer => stop t
  | .sendMessage _ => t
  | .closeTransport => t

def handleEffects (sampler : Sampler σ R S) (t : TimerControl σ S) (reading : R) :
    ServerEffects → TimerControl σ S
  | [] => t
  | effect :: effects =>
    if throws sampler t reading effect then t
    else handleEffects sampler (handleEffect sampler t reading effect) reading effects

/-- `emitted`: all effects of the machine so far. -/
structure Controller (σ S : Type) where
  machine : ServerState := {}
  telemetry : TimerControl σ S
  emitted : ServerEffects := []

def Controller.linkHandlers (s : σ) : Controller σ S where
  telemetry := setSampleHandler { sampler := s }

/-- The machine handles an event, with what the sampler would read; a callback fires. -/
inductive Happening (R : Type) where
  | event (event : ServerEvent) (reading : R)
  | tick (callback late : ℕ) (reading : R) (handlerThrows : Bool)

def step (sampler : Sampler σ R S) (c : Controller σ S) : Happening R → Controller σ S
  | .event event reading =>
    { machine := (doStep c.machine event).1
      telemetry := handleEffects sampler c.telemetry reading (doStep c.machine event).2
      emitted := c.emitted ++ (doStep c.machine event).2 }
  | .tick callback late reading handlerThrows =>
    { c with telemetry := fire sampler c.telemetry callback late reading handlerThrows }

def Unthrown (sampler : Sampler σ R S) (c : Controller σ S) : Happening R → Prop
  | .event event reading => .startTelemetryTimer ∈ (doStep c.machine event).2 →
    sampler.reset c.telemetry.sampler reading ≠ none
  | .tick _ _ _ _ => True

def isTimerEffect : ServerEffect → Bool
  | .startTelemetryTimer => true
  | .stopTelemetryTimer => true
  | _ => false

/-- Flag and timer agree, the latest timer effect said so, and where telemetry is off no
    tick makes a sample. -/
structure Agree (sampler : Sampler σ R S) (c : Controller σ S) : Prop where
  running : c.telemetry.running = c.machine.telemetryEnabled
  latest : ∀ effect, (c.emitted.filter isTimerEffect).getLast? = some effect →
    (effect = .startTelemetryTimer ↔ c.machine.telemetryEnabled = true)
  silent : c.machine.telemetryEnabled = false → ∀ callback late reading handlerThrows,
    (fire sampler c.telemetry callback late reading handlerThrows).delivered =
      c.telemetry.delivered

def Controller.timed (c : Controller σ S) : TimedServer where
  server := c.machine
  timerRunning := c.telemetry.running

theorem handleEffects_startless (sampler : Sampler σ R S) (t : TimerControl σ S) (reading : R)
    {effects : ServerEffects} (startless : .startTelemetryTimer ∉ effects) :
    (handleEffects sampler t reading effects).running = effects.foldl timerEffect t.running := by
  induction effects generalizing t with
  | nil => rfl
  | cons effect effects ih =>
    obtain ⟨other, later⟩ := not_or.mp (List.mem_cons.not.mp startless)
    cases effect with
    | startTelemetryTimer => exact absurd rfl other
    | stopTelemetryTimer | sendMessage _ | closeTransport => exact ih _ later

theorem handleEffects_start (sampler : Sampler σ R S) (t : TimerControl σ S) (reading : R)
    (reads : sampler.reset t.sampler reading ≠ none) :
    (handleEffects sampler t reading [.startTelemetryTimer]).running = true := by
  obtain ⟨sampler', read⟩ := Option.ne_none_iff_exists'.mp reads
  rcases start_cases sampler t reading with ⟨none, _⟩ | ⟨_, _, started⟩
  · exact absurd none reads
  · simp [handleEffects, throws, handleEffect, read, started]

/-- Where no start throws, the timer does what the effects say. -/
theorem timed_event (sampler : Sampler σ R S) (c : Controller σ S) (event : ServerEvent)
    (reading : R) (unthrown : Unthrown sampler c (.event event reading)) :
    (step sampler c (.event event reading)).timed = timedStep c.timed event := by
  have running : (handleEffects sampler c.telemetry reading (doStep c.machine event).2).running =
      (doStep c.machine event).2.foldl timerEffect c.telemetry.running := by
    rcases doStep_effects c.machine event with alone | others
    · have reads := unthrown (by rw [alone]; exact List.mem_singleton.mpr rfl)
      rw [alone, handleEffects_start sampler c.telemetry reading reads]
      rfl
    · apply handleEffects_startless
      intro starts
      rcases others _ starts with stop | ⟨_, send, _⟩
      · cases stop
      · cases send
  unfold timedStep Controller.timed step
  rw [running]

theorem fire_running (sampler : Sampler σ R S) (t : TimerControl σ S) (callback late : ℕ)
    (reading : R) (handlerThrows : Bool) :
    (fire sampler t callback late reading handlerThrows).running = t.running := by
  rcases fire_cases sampler t callback late reading handlerThrows with
    same | ⟨due, sampler', samples, next, _, _, _, _, fired⟩
  · rw [same]
  · rw [fired]

theorem fire_stopped (sampler : Sampler σ R S) (t : TimerControl σ S) (callback late : ℕ)
    (reading : R) (handlerThrows : Bool) (stopped : t.running = false) :
    (fire sampler t callback late reading handlerThrows).delivered = t.delivered := by
  rcases fire_cases sampler t callback late reading handlerThrows with
    same | ⟨due, sampler', samples, next, _, _, _, off, fired⟩
  · rw [same]
  · obtain ⟨rfl, _⟩ := off stopped
    rw [fired]
    exact List.append_nil _

theorem foldl_timerEffect_latest {effects : ServerEffects} {effect : ServerEffect} (before : Bool)
    (latest : (effects.filter isTimerEffect).getLast? = some effect) :
    effect = .startTelemetryTimer ↔ effects.foldl timerEffect before = true := by
  induction effects using List.reverseRecOn with
  | nil => cases latest
  | append_singleton effects last ih =>
    rw [List.foldl_concat]
    rw [List.filter_append] at latest
    cases last with
    | startTelemetryTimer | stopTelemetryTimer =>
      simp [isTimerEffect] at latest
      simp [timerEffect, ← latest]
    | sendMessage _ | closeTransport =>
      change (effects.filter isTimerEffect ++ []).getLast? = some effect at latest
      rw [List.append_nil] at latest
      exact ih latest

/-- What the runs carry: the timer follows the flag and tells what the effects said. -/
structure Kept (c : Controller σ S) : Prop where
  following : Following c.timed
  told : c.telemetry.running = c.emitted.foldl timerEffect false

theorem kept_step (sampler : Sampler σ R S) (c : Controller σ S) (happening : Happening R)
    (kept : Kept c) (unthrown : Unthrown sampler c happening) : Kept (step sampler c happening) := by
  cases happening with
  | event event reading =>
    have timed := timed_event sampler c event reading unthrown
    refine ⟨?_, ?_⟩
    · rw [timed]
      exact following_step c.timed event kept.following
    · have running := congrArg TimedServer.timerRunning timed
      change (step sampler c (.event event reading)).telemetry.running =
        (doStep c.machine event).2.foldl timerEffect c.telemetry.running at running
      rw [running, kept.told]
      exact List.foldl_append.symm
  | tick callback late reading handlerThrows =>
    have same := fire_running sampler c.telemetry callback late reading handlerThrows
    exact ⟨same.trans kept.following, same.trans kept.told⟩

theorem Kept.agree {c : Controller σ S} (kept : Kept c) (sampler : Sampler σ R S) :
    Agree sampler c where
  running := kept.following
  latest effect last := by
    have follows : c.telemetry.running = c.machine.telemetryEnabled := kept.following
    rw [← follows, kept.told]
    exact foldl_timerEffect_latest false last
  silent off callback late reading handlerThrows :=
    fire_stopped sampler c.telemetry callback late reading handlerThrows
      (kept.following.trans off)

/-- The machine and the timer agree in every state of every run in which no call throws. -/
theorem machine_timer_agree (sampler : Sampler σ R S) (s : σ) (run : List (Happening R))
    (unthrown : EveryStep (step sampler) (Unthrown sampler) (.linkHandlers s) run) :
    Throughout (step sampler) (Agree sampler) (.linkHandlers s) run := by
  have start : Kept (Controller.linkHandlers s : Controller σ S) := ⟨rfl, rfl⟩
  have kept := EveryStep.throughout (fun c happening => kept_step sampler c happening) unthrown start
  exact fun past made => (kept past made).agree sampler

theorem linux_unthrown (c : Controller Unit CpuSample) (happening : Happening Unit) :
    Unthrown cpuSamplerLinux c happening := by
  cases happening with
  | event event reading => exact fun _ => nofun
  | tick callback late reading handlerThrows => trivial

/-- A tick while telemetry is on, and one behind the disconnect. -/
def disconnectedRun : List (Happening Unit) :=
  [.event (.transportConnected ⟨1, 1⟩) (),
    .event (.messageReceived MessageFactory.makeTelemetryStart) (), .tick 0 0 () false,
    .event .transportDisconnected (), .tick 0 0 () false]

theorem machine_timer_agree_disconnected :
    Throughout (step cpuSamplerLinux) (Agree cpuSamplerLinux) (.linkHandlers ()) disconnectedRun :=
  machine_timer_agree cpuSamplerLinux () disconnectedRun fun _ _ _ => linux_unthrown _ _

end RdpExt.TimedController
