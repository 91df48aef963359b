import RdpExt.TelemetryDelivery
import RdpExt.TimedController
import RdpExt.TimerLiveness

set_option autoImplicit false

/-!
# The deployment with the server's timer

The effects of the server's machine start and stop the timer, and what the timer samples
joins the tasks that the two executors and the channel are busy with.
-/
namespace RdpExt.TimedDeployment
open ProtocolMessage ProtocolSerializer LogicEvents DeferredOutput Controller
open DeployedSession MessageLedger RankedRefinement
open TelemetryTimerControl TimedController TimerLiveness ServerTelemetry
open LogicServer (ServerState)

variable {σ R : Type}

/-- `thrown`: a call of the sampler has thrown. -/
structure Timed (σ : Type) where
  ledger : Ledger
  telemetry : TimerControl σ CpuSample
  thrown : Bool := false

namespace Timed

def deployment (t : Timed σ) : Deployment := t.ledger.deployment

/-- The next effect that the server's executor handles, if it is at one. -/
def nextEffect (t : Timed σ) : ServerEffects := t.deployment.server.effects.take 1

/-- A start that throws cuts nothing else short: it is the only effect of its step. -/
def serverActs (zpp : ZppBits) (sampler : Sampler σ R CpuSample) (t : Timed σ) (d' : Deployment)
    (reading : R) : Timed σ where
  ledger := t.ledger.serverActs zpp d'
  telemetry := handleEffects sampler t.telemetry reading t.nextEffect
  thrown := t.thrown || t.nextEffect.any (throws sampler t.telemetry reading)

def handleSample (ledger : Ledger) (sample : CpuSample) : Ledger :=
  { ledger with
    deployment :=
      { ledger.deployment with server := ledger.deployment.server.arrive (.sample sample) }
    sampled := ledger.sampled ++ [sample] }

def tickThrows (sampler : Sampler σ R CpuSample) (t : TimerControl σ CpuSample) (reading : R) :
    Bool :=
  t.running && t.sampleHandler && (sampler.readSample t.sampler reading).isNone

/-- A callback fires; to post a task does not throw. -/
def tick (sampler : Sampler σ R CpuSample) (t : Timed σ) (callback late : ℕ) (reading : R) :
    Timed σ :=
  let telemetry := fire sampler t.telemetry callback late reading false
  { ledger := (telemetry.delivered.drop t.telemetry.delivered.length).foldl
      (fun ledger call => handleSample ledger call.2) t.ledger
    telemetry := telemetry
    thrown := t.thrown || tickThrows sampler t.telemetry reading }

inductive Step (zpp : ZppBits) (sampler : Sampler σ R CpuSample) : Timed σ → Timed σ → Prop where
  | clientActs (t : Timed σ) (d' : Deployment) (step : Executes zpp t.deployment d')
      (own : d'.server = t.deployment.server) :
      Step zpp sampler t { t with ledger := t.ledger.clientActs zpp d' }
  | serverActs (t : Timed σ) (d' : Deployment) (reading : R)
      (step : Executes zpp t.deployment d') (own : d'.client = t.deployment.client) :
      Step zpp sampler t (t.serverActs zpp sampler d' reading)
  | delivers (t : Timed σ) (d' : Deployment) (step : Delivers t.deployment d') :
      Step zpp sampler t { t with ledger := { t.ledger with deployment := d' } }
  | changes (t : Timed σ) (d' : Deployment) (step : Changes zpp t.deployment d') :
      Step zpp sampler t
        { t with ledger := { t.ledger with deployment := d', disturbed := true } }
  -- The callback is a task of its own: the server's executor is between two others.
  | ticks (t : Timed σ) (callback late : ℕ) (reading : R)
      (waits : callback < t.telemetry.pending.length)
      (idle : t.deployment.server.effects = []) :
      Step zpp sampler t (t.tick sampler callback late reading)
  | passes (t : Timed σ) (ms : ℕ) :
      Step zpp sampler t { t with telemetry := step sampler t.telemetry (.wait ms) }

def opened (t : Timed σ) : Timed σ := { t with ledger := { deployment := t.deployment } }

def Kept (zpp : ZppBits) (sampler : Sampler σ R CpuSample) (start t : Timed σ) : Prop :=
  Relation.ReflTransGen (Step zpp sampler) start.opened t

end Timed

open Timed

/-! ## What a step does to the timer -/

section
variable (sampler : Sampler σ R CpuSample) (t : TimerControl σ CpuSample) (reading : R)

theorem effect_cases (effects : ServerEffects) :
    handleEffects sampler t reading (effects.take 1) = t ∨
      ∃ call, (call = .start reading ∨ call = .stop) ∧
        handleEffects sampler t reading (effects.take 1) = step sampler t call := by
  cases effects with
  | nil => exact .inl rfl
  | cons x xs =>
    change handleEffects sampler t reading [x] = t ∨ ∃ call, _ ∧
      handleEffects sampler t reading [x] = _
    unfold handleEffects
    split_ifs with thrown
    · exact .inl rfl
    · cases x with
      | sendMessage m | closeTransport => exact .inl rfl
      | startTelemetryTimer => exact .inr ⟨.start reading, .inl rfl, rfl⟩
      | stopTelemetryTimer => exact .inr ⟨.stop, .inr rfl, rfl⟩

theorem effect_running {x : ServerEffect} {xs : ServerEffects}
    (unthrown : throws sampler t reading x = false) :
    (handleEffects sampler t reading ((x :: xs).take 1)).running = timerEffect t.running x := by
  change (handleEffects sampler t reading [x]).running = _
  cases x with
  | sendMessage m | closeTransport | stopTelemetryTimer => rfl
  | startTelemetryTimer =>
    apply handleEffects_start
    intro none
    change (sampler.reset t.sampler reading).isNone = false at unthrown
    rw [none] at unthrown
    cases unthrown

theorem call_keeps {call : Call R} (timer : call = .start reading ∨ call = .stop) :
    (step sampler t call).sampleHandler = t.sampleHandler ∧
      (step sampler t call).delivered = t.delivered := by
  rcases timer with rfl | rfl
  · change (start sampler t reading).sampleHandler = _ ∧ (start sampler t reading).delivered = _
    rcases start_cases sampler t reading with ⟨_, same⟩ | ⟨_, _, started⟩
    · rw [same]
      exact ⟨rfl, rfl⟩
    · rw [started]
      exact ⟨rfl, rfl⟩
  · exact ⟨rfl, rfl⟩

end

/-- A tick posts one sample, which it has read, or none. -/
theorem tick_cases (sampler : Sampler σ R CpuSample) (t : Timed σ) (callback late : ℕ)
    (reading : R) :
    ((t.tick sampler callback late reading).ledger = t.ledger ∧
      (t.tick sampler callback late reading).telemetry.delivered = t.telemetry.delivered) ∨
    ∃ sample moment, (t.tick sampler callback late reading).ledger = handleSample t.ledger sample ∧
      (t.tick sampler callback late reading).telemetry.delivered =
        t.telemetry.delivered ++ [(moment, sample)] := by
  rcases fire_cases sampler t.telemetry callback late reading false with
    same | ⟨due, sampler', samples, next, _, hsamples, _, _, fired⟩
  · left
    unfold Timed.tick
    rw [same]
    simp
  · rcases hsamples with rfl | ⟨sample, rfl⟩
    · left
      unfold Timed.tick
      rw [fired]
      simp
    · right
      refine ⟨sample, max t.telemetry.clock due + late, ?_, ?_⟩
      · unfold Timed.tick
        rw [fired]
        simp
      · unfold Timed.tick
        rw [fired]

theorem tick_running (sampler : Sampler σ R CpuSample) (t : Timed σ) (callback late : ℕ)
    (reading : R) :
    (t.tick sampler callback late reading).telemetry.running = t.telemetry.running ∧
      (t.tick sampler callback late reading).telemetry.sampleHandler =
        t.telemetry.sampleHandler := by
  change (fire sampler t.telemetry callback late reading false).running = _ ∧
    (fire sampler t.telemetry callback late reading false).sampleHandler = _
  rcases fire_cases sampler t.telemetry callback late reading false with
    same | ⟨due, sampler', samples, next, _, _, _, _, fired⟩
  · rw [same]
    exact ⟨rfl, rfl⟩
  · rw [fired]
    exact ⟨rfl, rfl⟩

/-! ## The timer follows the machine -/

/-- Each effect left of a step is handled, and a start is the only one of its step. -/
def Handled (effects : ServerEffects) : Prop :=
  effects = [.startTelemetryTimer] ∨ ∀ x ∈ effects,
    x = .stopTelemetryTimer ∨ ∃ m : Message, x = .sendMessage m ∧ m.TextFits

theorem handled_nil : Handled [] := .inr nofun

theorem Handled.tail {x : ServerEffect} {xs : ServerEffects} (handled : Handled (x :: xs)) :
    Handled xs := by
  rcases handled with alone | others
  · obtain ⟨_, rfl⟩ := List.cons.inj alone
    exact handled_nil
  · exact .inr fun y hy => others y (List.mem_cons_of_mem _ hy)

section
variable {zpp : ZppBits} {d d' : Deployment} {l l' : ServerLoop} {out : Option TransportCall}

/-- Nothing that a step of the executor handles cuts the handling short. -/
theorem server_exec_cases (documented : zpp.Documented) (handled : Handled l.effects)
    (exec : Exec (serverController zpp) l out l') :
    (l.effects = [] ∧ l'.effects = [] ∧ l'.machine = l.machine) ∨
    (l.effects = [] ∧ ∃ event, l'.machine = (LogicServer.doStep l.machine event).1 ∧
      l'.effects = (LogicServer.doStep l.machine event).2) ∨
    ∃ x, l.effects = x :: l'.effects ∧ l'.machine = l.machine := by
  cases exec with
  | input k rest event idle head decoded => exact .inr (.inl ⟨idle, event, rfl, rfl⟩)
  | rejected k rest idle head decoded => exact .inl ⟨idle, idle, rfl⟩
  | output b rest idle head => exact .inl ⟨idle, idle, rfl⟩
  | posted x xs b head handling => exact .inr (.inr ⟨x, head, rfl⟩)
  | performed x xs head handling => exact .inr (.inr ⟨x, head, rfl⟩)
  | thrown x xs head handling =>
    right
    right
    rw [head] at handled
    rcases handled with alone | others
    · obtain ⟨_, rfl⟩ := List.cons.inj alone
      exact ⟨x, head, rfl⟩
    · rcases others x List.mem_cons_self with rfl | ⟨m, rfl, fits⟩
      · rcases handling with handling | handling <;> cases handling
      · obtain ⟨sure, certain⟩ := handleSendMessage_sure documented fits
        rcases handling with handling | handling
        · exact absurd handling sure
        · exact absurd handling certain

theorem closeChannel_server (toServer toClient : List Buffer) :
    (d.closeChannel toServer toClient).server.effects = d.server.effects ∧
      (d.closeChannel toServer toClient).server.machine = d.server.machine := by
  unfold Deployment.closeChannel
  split_ifs <;> exact ⟨rfl, rfl⟩

theorem changes_server (step : Changes zpp d d') :
    d'.server.effects = d.server.effects ∧ d'.server.machine = d.server.machine := by
  cases step with
  | clientConnected | clientDisconnected | serverConnected => exact ⟨rfl, rfl⟩
  | serverReadFails toServer toClient => exact closeChannel_server toServer toClient
  | serverWriteFails server' bytes toServer toClient _ exec
  | serverCloses server' toServer toClient exec =>
    cases exec
    exact closeChannel_server toServer toClient

theorem delivers_server (step : Delivers d d') :
    d'.server.effects = d.server.effects ∧ d'.server.machine = d.server.machine := by
  cases step <;> exact ⟨rfl, rfl⟩

end

/-- Until a call of the sampler throws, the timer runs as the machine's flag says, up to the
    effects that are left, and a running timer has its next callback scheduled. -/
structure Sound (t : Timed σ) : Prop where
  handled : Handled t.deployment.server.effects
  handler : t.telemetry.sampleHandler = true
  prompt : Prompt t.telemetry
  following : t.thrown = false →
    t.deployment.server.effects.foldl timerEffect t.telemetry.running =
      t.deployment.server.machine.telemetryEnabled
  alive : t.thrown = false → Alive t.telemetry

theorem Sound.opened {t : Timed σ} (sound : Sound t) : Sound t.opened :=
  ⟨sound.handled, sound.handler, sound.prompt, sound.following, sound.alive⟩

section
variable {zpp : ZppBits} {sampler : Sampler σ R CpuSample} {t t' : Timed σ}

theorem Sound.serverActs (documented : zpp.Documented) (sound : Sound t) {d' : Deployment}
    (reading : R) (step : Executes zpp t.deployment d') (own : d'.client = t.deployment.client) :
    Sound (t.serverActs zpp sampler d' reading) := by
  obtain ⟨out, exec⟩ := serverActs_exec step own
  have cases' := server_exec_cases documented sound.handled exec
  have calls := effect_cases sampler t.telemetry reading t.deployment.server.effects
  constructor
  · change Handled d'.server.effects
    rcases cases' with ⟨_, none, _⟩ | ⟨_, event, _, effects⟩ | ⟨x, head, _⟩
    · rw [none]
      exact handled_nil
    · rw [effects]
      exact LogicServer.doStep_effects _ event
    · have handled := sound.handled
      rw [head] at handled
      exact handled.tail
  · change (handleEffects sampler t.telemetry reading t.nextEffect).sampleHandler = true
    unfold nextEffect
    rcases calls with same | ⟨call, timer, called⟩
    · rw [same]
      exact sound.handler
    · rw [called]
      exact (call_keeps sampler t.telemetry reading timer).1.trans sound.handler
  · change Prompt (handleEffects sampler t.telemetry reading t.nextEffect)
    unfold nextEffect
    rcases calls with same | ⟨call, _, called⟩
    · rw [same]
      exact sound.prompt
    · rw [called]
      exact prompt_step sampler t.telemetry call sound.prompt
  · intro unthrown
    obtain ⟨before, now⟩ := Bool.or_eq_false_iff.mp unthrown
    change d'.server.effects.foldl timerEffect
      (handleEffects sampler t.telemetry reading t.nextEffect).running = _
    have following := sound.following before
    unfold nextEffect at now ⊢
    -- Either the flag and its effects change together, or one of the effects is made good.
    rcases cases' with ⟨idle, none, same⟩ | ⟨idle, event, machine, effects⟩ | ⟨x, head, same⟩
    · rw [idle] at following ⊢
      rw [none]
      exact following.trans (congrArg ServerState.telemetryEnabled same).symm
    · rw [idle] at following ⊢
      have follows := following_step ⟨t.deployment.server.machine, t.telemetry.running⟩ event
        following
      change d'.server.effects.foldl timerEffect t.telemetry.running =
        d'.server.machine.telemetryEnabled
      rw [effects, machine]
      exact follows
    · rw [head] at following now ⊢
      have unthrown' : throws sampler t.telemetry reading x = false := by simpa using now
      rw [effect_running sampler t.telemetry reading unthrown']
      exact following.trans (congrArg ServerState.telemetryEnabled same).symm
  · intro unthrown
    have alive := sound.alive (Bool.or_eq_false_iff.mp unthrown).1
    change Alive (handleEffects sampler t.telemetry reading t.nextEffect)
    unfold nextEffect
    rcases calls with same | ⟨call, timer, called⟩
    · rw [same]
      exact alive
    · rw [called, alive_step_iff sampler t.telemetry call alive]
      rcases timer with rfl | rfl <;> trivial

theorem Sound.tick (sound : Sound t) (callback late : ℕ) (reading : R) :
    Sound (t.tick sampler callback late reading) := by
  have server : (t.tick sampler callback late reading).deployment.server.effects =
        t.deployment.server.effects ∧
      (t.tick sampler callback late reading).deployment.server.machine =
        t.deployment.server.machine := by
    unfold Timed.deployment
    rcases tick_cases sampler t callback late reading with ⟨same, _⟩ | ⟨sample, _, posted, _⟩
    · rw [same]
      exact ⟨rfl, rfl⟩
    · rw [posted]
      exact ⟨rfl, rfl⟩
  obtain ⟨running, handler⟩ := tick_running sampler t callback late reading
  refine ⟨server.1 ▸ sound.handled, handler.trans sound.handler, ?_, ?_, ?_⟩
  · exact prompt_step sampler t.telemetry (.fire callback late reading false) sound.prompt
  · intro unthrown
    rw [server.1, server.2, running]
    exact sound.following (Bool.or_eq_false_iff.mp unthrown).1
  · intro unthrown
    obtain ⟨before, now⟩ := Bool.or_eq_false_iff.mp unthrown
    have alive := sound.alive before
    refine (alive_step_iff sampler t.telemetry (.fire callback late reading false) alive).mpr ?_
    intro _ running handler faulty
    rcases faulty with none | throws
    · unfold tickThrows at now
      rw [running, handler, none] at now
      cases now
    · cases throws

theorem sound_step (documented : zpp.Documented) (sound : Sound t) (step : Step zpp sampler t t') :
    Sound t' := by
  cases step with
  | clientActs d' step own =>
    have own' : d'.server = t.deployment.server := own
    exact ⟨own' ▸ sound.handled, sound.handler, sound.prompt, own' ▸ sound.following, sound.alive⟩
  | serverActs d' reading step own => exact sound.serverActs documented reading step own
  | delivers d' step =>
    obtain ⟨effects, machine⟩ := delivers_server step
    refine ⟨effects ▸ sound.handled, sound.handler, sound.prompt, fun unthrown => ?_, sound.alive⟩
    change d'.server.effects.foldl timerEffect _ = d'.server.machine.telemetryEnabled
    rw [effects, machine]
    exact sound.following unthrown
  | changes d' step =>
    obtain ⟨effects, machine⟩ := changes_server step
    refine ⟨effects ▸ sound.handled, sound.handler, sound.prompt, fun unthrown => ?_, sound.alive⟩
    change d'.server.effects.foldl timerEffect _ = d'.server.machine.telemetryEnabled
    rw [effects, machine]
    exact sound.following unthrown
  | ticks callback late reading waits idle => exact sound.tick callback late reading
  | passes ms =>
    exact ⟨sound.handled, sound.handler,
      prompt_step sampler t.telemetry (.wait ms) sound.prompt, sound.following, sound.alive⟩

theorem sound_run (documented : zpp.Documented) (sound : Sound t)
    (run : Relation.ReflTransGen (Step zpp sampler) t t') : Sound t' := by
  induction run with
  | refl => exact sound
  | tail _ last ih => exact sound_step documented ih last

end

/-! ## The ledger -/

/-- The loads of the samples that the timer has handed to the sample handler. -/
def Timed.loads (t : Timed σ) : List FloatBits := t.telemetry.delivered.map fun call => call.2.cpuLoad

section
variable {zpp : ZppBits} {sampler : Sampler σ R CpuSample} {start t t' : Timed σ}

theorem step_entered (step : Step zpp sampler t t') :
    Relation.ReflTransGen (Ledger.Step zpp) t.ledger t'.ledger := by
  cases step with
  | clientActs d' step own => exact .single (.clientActs t.ledger d' step own)
  | serverActs d' reading step own => exact .single (.serverActs t.ledger d' step own)
  | delivers d' step => exact .single (.delivers t.ledger d' step)
  | changes d' step => exact .single (.changes t.ledger d' step)
  | ticks callback late reading =>
    rcases tick_cases sampler t callback late reading with ⟨same, _⟩ | ⟨sample, _, posted, _⟩
    · rw [same]
    · rw [posted]
      exact .single (.sampled t.ledger sample)
  | passes ms => exact .refl

theorem run_entered (run : Relation.ReflTransGen (Step zpp sampler) t t') :
    Relation.ReflTransGen (Ledger.Step zpp) t.ledger t'.ledger := by
  induction run with
  | refl => exact .refl
  | tail _ last ih => exact ih.trans (step_entered last)

theorem Timed.Kept.ledger (kept : Kept zpp sampler start t) :
    Ledger.Kept zpp start.deployment t.ledger := run_entered kept

theorem reachable_step (reachable : Reachable zpp t.deployment) (step : Step zpp sampler t t') :
    Reachable zpp t'.deployment := by
  cases step with
  | clientActs d' step own => exact Relation.ReflTransGen.tail reachable (.executes _ _ step)
  | serverActs d' reading step own =>
    exact Relation.ReflTransGen.tail reachable (.executes _ _ step)
  | delivers d' step => exact Relation.ReflTransGen.tail reachable (.delivers _ _ step)
  | changes d' step => exact Relation.ReflTransGen.tail reachable (.changes _ _ step)
  | ticks callback late reading =>
    rcases tick_cases sampler t callback late reading with ⟨same, _⟩ | ⟨sample, _, posted, _⟩
    · unfold Timed.deployment
      rw [same]
      exact reachable
    · unfold Timed.deployment
      rw [posted]
      exact Relation.ReflTransGen.tail reachable (.sampled _ sample)
  | passes ms => exact reachable

theorem reachable_run (reachable : Reachable zpp t.deployment)
    (run : Relation.ReflTransGen (Step zpp sampler) t t') : Reachable zpp t'.deployment := by
  induction run with
  | refl => exact reachable
  | tail _ last ih => exact reachable_step ih last

theorem Timed.Kept.reachable (kept : Kept zpp sampler start t)
    (reachable : Reachable zpp start.deployment) : Reachable zpp t.deployment :=
  reachable_run (t := start.opened) reachable kept

theorem step_loads {before : List FloatBits}
    (h : t.loads = before ++ t.ledger.sampled.map CpuSample.cpuLoad)
    (step : Step zpp sampler t t') :
    t'.loads = before ++ t'.ledger.sampled.map CpuSample.cpuLoad := by
  cases step with
  | clientActs | delivers | changes | passes => exact h
  | serverActs d' reading =>
    refine Eq.trans (congrArg (List.map _) ?_) h
    change (handleEffects sampler t.telemetry reading t.nextEffect).delivered = _
    rcases effect_cases sampler t.telemetry reading t.deployment.server.effects with
      same | ⟨call, timer, called⟩
    · exact congrArg TimerControl.delivered same
    · exact (congrArg TimerControl.delivered called).trans
        (call_keeps sampler t.telemetry reading timer).2
  | ticks callback late reading =>
    unfold Timed.loads at h ⊢
    rcases tick_cases sampler t callback late reading with
      ⟨same, delivered⟩ | ⟨sample, _, posted, delivered⟩
    · rw [same, delivered]
      exact h
    · rw [posted, delivered]
      unfold handleSample
      rw [List.map_append, List.map_append, h, List.append_assoc]
      rfl

theorem Timed.Kept.loads (kept : Kept zpp sampler start t) :
    t.loads = start.loads ++ t.ledger.sampled.map CpuSample.cpuLoad := by
  induction kept with
  | refl => exact (List.append_nil _).symm
  | tail _ last ih => exact step_loads ih last

end

/-! ## At rest -/

section
variable {zpp : ZppBits} {sampler : Sampler σ R CpuSample} {start t : Timed σ}

end

/-! ## One sample after the other -/

section
variable {zpp : ZppBits} {sampler : Sampler σ R CpuSample} {t : Timed σ}
variable (readable : ∀ s, ∃ reading, sampler.readSample s reading ≠ none)
include readable

end

end RdpExt.TimedDeployment
