import RdpExt.TelemetryTimerControl
import Mathlib.Algebra.Order.Field.Rat
import Mathlib.Algebra.Order.Field.Basic

set_option autoImplicit false

/-!
# The sampler of the CPU load: `telemetry/cpu_sampler_win.cpp`

Three counters are read and held against those of the read before, in unsigned
arithmetic. The quotient of the floats is a parameter, as is the type of the load.
-/
namespace RdpExt.CpuSamplerWin
open TelemetryTimerControl TraceInvariant

structure FileTime where
  dwLowDateTime : UInt32
  dwHighDateTime : UInt32
  deriving DecidableEq, Repr

def fileTimeToUint64 (ft : FileTime) : UInt64 :=
  ft.dwHighDateTime.toUInt64 <<< 32 ||| ft.dwLowDateTime.toUInt64

/-- What GetSystemTimes fills in. -/
structure SystemTimes where
  idleTime : FileTime
  kernelTime : FileTime
  userTime : FileTime
  deriving DecidableEq, Repr

structure RawTimes where
  idle : UInt64 := 0
  kernel : UInt64 := 0
  user : UInt64 := 0
  deriving DecidableEq, Repr

/-- Where GetSystemTimes fails there is nothing to read and the call throws. -/
def readRawTimes (times : Option SystemTimes) : Option RawTimes :=
  times.map fun times => {
    idle := fileTimeToUint64 times.idleTime
    kernel := fileTimeToUint64 times.kernelTime
    user := fileTimeToUint64 times.userTime }

def deltaTotal (previous current : RawTimes) : UInt64 :=
  (current.kernel - previous.kernel) + (current.user - previous.user)

def deltaBusy (previous current : RawTimes) : UInt64 :=
  deltaTotal previous current - (current.idle - previous.idle)

section
variable {L : Type} [Zero L] (quotient : UInt64 → UInt64 → L)

def cpuLoad (previous current : RawTimes) : L :=
  if deltaTotal previous current = 0 then 0
  else quotient (deltaBusy previous current) (deltaTotal previous current)

/-- The state is `previous_`; a first read is held against itself. -/
def readSample (previous : Option RawTimes) (times : Option SystemTimes) :
    Option (Option RawTimes × L) :=
  match readRawTimes times with
  | none => none
  | some current => some (some current, cpuLoad quotient (previous.getD current) current)

def cpuSamplerWin : Sampler (Option RawTimes) (Option SystemTimes) L where
  readSample := readSample quotient

end

inductive SamplerCall where
  | reset (times : Option SystemTimes)
  | readSample (times : Option SystemTimes)
  deriving DecidableEq, Repr

def SamplerCall.times : SamplerCall → Option SystemTimes
  | .reset times => times
  | .readSample times => times

def SamplerCall.raw (call : SamplerCall) : Option RawTimes := readRawTimes call.times

def exactQuotient (busy total : UInt64) : ℚ := busy.toNat / total.toNat

/-- A call that throws leaves the sampler as it is. -/
def samplerStep (previous : Option RawTimes) : SamplerCall → Option RawTimes
  | .reset times => ((cpuSamplerWin exactQuotient).reset previous times).getD previous
  | .readSample times =>
    (((cpuSamplerWin exactQuotient).readSample previous times).map Prod.fst).getD previous

theorem samplerStep_eq (previous : Option RawTimes) (call : SamplerCall) :
    samplerStep previous call = (call.raw <|> previous) := by
  cases call with
  | reset times | readSample times =>
    cases read : readRawTimes times <;>
      simp [samplerStep, Sampler.reset, cpuSamplerWin, readSample, SamplerCall.raw,
        SamplerCall.times, read]

/-- The sampler keeps the latest reading. -/
theorem foldl_samplerStep (calls : List SamplerCall) :
    calls.foldl samplerStep none = (calls.filterMap SamplerCall.raw).getLast? := by
  induction calls using List.reverseRecOn with
  | nil => rfl
  | append_singleton calls call ih =>
    rw [List.foldl_concat, samplerStep_eq, ih, List.filterMap_append]
    cases read : call.raw with
    | none => simp [read]
    | some current => simp [read]

def RawTimes.Rises (previous current : RawTimes) : Prop :=
  previous.idle.toNat ≤ current.idle.toNat ∧ previous.kernel.toNat ≤ current.kernel.toNat ∧
    previous.user.toNat ≤ current.user.toNat

/-- Each counter by itself never falls, and stays far from the end of its range. -/
structure Rising (readings : List RawTimes) : Prop where
  below : ∀ r ∈ readings, r.idle.toNat < 2 ^ 62 ∧ r.kernel.toNat < 2 ^ 62 ∧ r.user.toNat < 2 ^ 62
  rises : readings.Pairwise RawTimes.Rises

/-- The difference of the total does not go below zero, and the load is a fraction. -/
structure InRange (previous : Option RawTimes) (call : SamplerCall) : Prop where
  busy : ∀ current, call.raw = some current → deltaTotal (previous.getD current) current ≠ 0 →
    deltaBusy (previous.getD current) current ≤ deltaTotal (previous.getD current) current
  load : ∀ state load, (cpuSamplerWin exactQuotient).readSample previous call.times =
    some (state, load) → 0 ≤ load ∧ load ≤ 1

/-- The idle counter grew by no more than the other two, unless these did not grow. -/
def IdleWithin (previous : Option RawTimes) (call : SamplerCall) : Prop :=
  ∀ current, call.raw = some current →
    ((previous.getD current).kernel = current.kernel ∧
      (previous.getD current).user = current.user) ∨
    current.idle.toNat - (previous.getD current).idle.toNat ≤
      (current.kernel.toNat - (previous.getD current).kernel.toNat) +
        (current.user.toNat - (previous.getD current).user.toNat)

section
variable {previous current : RawTimes}

theorem toNat_sub_of_rises {a b : UInt64} (rises : a.toNat ≤ b.toNat) :
    (b - a).toNat = b.toNat - a.toNat :=
  UInt64.toNat_sub_of_le _ _ (UInt64.le_iff_toNat_le.mpr rises)

variable (rises : previous.Rises current)
include rises

theorem toNat_deltaTotal (kernel : current.kernel.toNat < 2 ^ 62)
    (user : current.user.toNat < 2 ^ 62) :
    (deltaTotal previous current).toNat =
      (current.kernel.toNat - previous.kernel.toNat) +
        (current.user.toNat - previous.user.toNat) := by
  unfold deltaTotal
  rw [UInt64.toNat_add, toNat_sub_of_rises rises.2.1, toNat_sub_of_rises rises.2.2]
  omega

theorem deltaTotal_eq_zero_iff (kernel : current.kernel.toNat < 2 ^ 62)
    (user : current.user.toNat < 2 ^ 62) :
    deltaTotal previous current = 0 ↔
      previous.kernel = current.kernel ∧ previous.user = current.user := by
  have total := toNat_deltaTotal rises kernel user
  obtain ⟨_, kernels, users⟩ := rises
  rw [← UInt64.toNat_inj, ← UInt64.toNat_inj, ← UInt64.toNat_inj, total, UInt64.toNat_zero]
  omega

/-- The busy time wraps exactly where the idle counter grew by more than the total. -/
theorem deltaBusy_le_deltaTotal_iff (idle : current.idle.toNat < 2 ^ 62)
    (kernel : current.kernel.toNat < 2 ^ 62) (user : current.user.toNat < 2 ^ 62) :
    deltaBusy previous current ≤ deltaTotal previous current ↔
      current.idle.toNat - previous.idle.toNat ≤
        (current.kernel.toNat - previous.kernel.toNat) +
          (current.user.toNat - previous.user.toNat) := by
  have total := toNat_deltaTotal rises kernel user
  have idled := toNat_sub_of_rises rises.1
  unfold deltaBusy
  rw [UInt64.le_iff_toNat_le, UInt64.toNat_sub, total, idled]
  omega

end

theorem exactQuotient_nonneg (busy total : UInt64) : 0 ≤ exactQuotient busy total :=
  div_nonneg (Nat.cast_nonneg _) (Nat.cast_nonneg _)

theorem exactQuotient_le_one_iff (busy : UInt64) {total : UInt64} (positive : total ≠ 0) :
    exactQuotient busy total ≤ 1 ↔ busy ≤ total := by
  have above : (0 : ℚ) < total.toNat := by
    rw [Nat.cast_pos, Nat.pos_iff_ne_zero]
    exact fun zero => positive (UInt64.toNat_inj.mp zero)
  unfold exactQuotient
  rw [div_le_one above, Nat.cast_le, UInt64.le_iff_toNat_le]

theorem cpuLoad_in_range_iff (previous current : RawTimes) :
    (0 ≤ cpuLoad exactQuotient previous current ∧ cpuLoad exactQuotient previous current ≤ 1) ↔
      (deltaTotal previous current ≠ 0 →
        deltaBusy previous current ≤ deltaTotal previous current) := by
  unfold cpuLoad
  split_ifs with zero
  · exact iff_of_true ⟨le_refl 0, zero_le_one⟩ fun positive => absurd zero positive
  · rw [exactQuotient_le_one_iff _ zero]
    exact ⟨fun inRange _ => inRange.2, fun le => ⟨exactQuotient_nonneg _ _, le zero⟩⟩

theorem inRange_iff {previous : Option RawTimes} {call : SamplerCall}
    (below : ∀ current, call.raw = some current →
      current.idle.toNat < 2 ^ 62 ∧ current.kernel.toNat < 2 ^ 62 ∧ current.user.toNat < 2 ^ 62)
    (rises : ∀ current, call.raw = some current → (previous.getD current).Rises current) :
    InRange previous call ↔ IdleWithin previous call := by
  cases read : call.raw with
  | none =>
    have throws : (cpuSamplerWin exactQuotient).readSample previous call.times = none := by
      change readSample exactQuotient previous call.times = none
      unfold readSample
      rw [show readRawTimes call.times = none from read]
    refine iff_of_true ⟨?_, ?_⟩ ?_
    · intro current same
      rw [read] at same
      cases same
    · intro state load sampled
      rw [throws] at sampled
      cases sampled
    · intro current same
      rw [read] at same
      cases same
  | some current =>
    obtain ⟨idle, kernel, user⟩ := below current read
    have grows := rises current read
    have zero := deltaTotal_eq_zero_iff grows kernel user
    have wraps := deltaBusy_le_deltaTotal_iff grows idle kernel user
    have sampled : (cpuSamplerWin exactQuotient).readSample previous call.times =
        some (some current, cpuLoad exactQuotient (previous.getD current) current) := by
      change readSample exactQuotient previous call.times = _
      unfold readSample
      rw [show readRawTimes call.times = some current from read]
    have range := cpuLoad_in_range_iff (previous.getD current) current
    have condition : IdleWithin previous call ↔
        (deltaTotal (previous.getD current) current ≠ 0 →
          deltaBusy (previous.getD current) current ≤
            deltaTotal (previous.getD current) current) := by
      rw [wraps, ne_eq, zero, ← or_iff_not_imp_left]
      constructor
      · exact fun within => within current read
      · rintro within _ same
        cases read.symm.trans same
        exact within
    rw [condition]
    constructor
    · exact fun inRange => inRange.busy current read
    · intro le
      refine ⟨?_, ?_⟩
      · rintro _ same
        cases read.symm.trans same
        exact le
      · intro state load reported
        cases sampled.symm.trans reported
        exact range.mpr le

theorem readSample_divides {quotient quotient' : UInt64 → UInt64 → ℚ}
    (agree : ∀ busy total, total ≠ 0 → quotient busy total = quotient' busy total)
    (previous : Option RawTimes) (times : Option SystemTimes) :
    readSample quotient previous times = readSample quotient' previous times := by
  unfold readSample
  cases readRawTimes times with
  | none => rfl
  | some current =>
    change some (_, cpuLoad quotient _ _) = some (_, cpuLoad quotient' _ _)
    unfold cpuLoad
    split_ifs with zero
    · rfl
    · rw [agree _ _ zero]

/-- Nothing is divided by zero, and in exactly those runs where the idle counter never
    grows by more than the other two, no busy time wraps and every load lies between
    zero and one. -/
theorem load_in_range_iff (calls : List SamplerCall)
    (rising : Rising (calls.filterMap SamplerCall.raw)) :
    (∀ quotient quotient' : UInt64 → UInt64 → ℚ,
      (∀ busy total, total ≠ 0 → quotient busy total = quotient' busy total) →
      ∀ previous times, readSample quotient previous times = readSample quotient' previous times) ∧
    (EveryStep samplerStep InRange none calls ↔ EveryStep samplerStep IdleWithin none calls) := by
  refine ⟨fun _ _ => readSample_divides, forall₂_congr fun past call => imp_congr_right ?_⟩
  rintro ⟨later, split⟩
  have readings : calls.filterMap SamplerCall.raw = past.filterMap SamplerCall.raw ++
      ([call].filterMap SamplerCall.raw ++ later.filterMap SamplerCall.raw) := by
    rw [← split, List.append_assoc, List.filterMap_append, List.filterMap_append]
  have now : ∀ current, call.raw = some current →
      current ∈ [call].filterMap SamplerCall.raw := by
    intro current read
    rw [List.filterMap_cons_some read]
    exact List.mem_cons_self
  apply inRange_iff
  · intro current read
    apply rising.below
    rw [readings]
    exact List.mem_append_right _ (List.mem_append_left _ (now current read))
  · intro current read
    rw [foldl_samplerStep]
    cases latest : (past.filterMap SamplerCall.raw).getLast? with
    | none => exact ⟨Nat.le_refl _, Nat.le_refl _, Nat.le_refl _⟩
    | some previous =>
      have order := rising.rises
      rw [readings, List.pairwise_append] at order
      exact order.2.2 previous (List.mem_of_getLast? latest) current
        (List.mem_append_left _ (now current read))

def smallTimes (idle kernel user : UInt32) : SystemTimes :=
  ⟨⟨idle, 0⟩, ⟨kernel, 0⟩, ⟨user, 0⟩⟩

theorem load_in_range_iff_half :
    EveryStep samplerStep InRange none
      [.reset (some (smallTimes 0 0 0)), .readSample (some (smallTimes 10 15 5))] := by
  refine (load_in_range_iff _ ⟨by decide, ?_⟩).2.mpr ?_
  · refine List.pairwise_pair.mpr ?_
    unfold RawTimes.Rises
    decide
  · rw [everyStep_cons, everyStep_cons]
    refine ⟨?_, ?_, everyStep_nil⟩
    · intro current read
      exact .inl ⟨rfl, rfl⟩
    · intro current read
      obtain rfl : (⟨10, 15, 5⟩ : RawTimes) = current := Option.some.inj read
      exact .inr (by decide)

/-- The idle counter grew by ten, the others by one together. -/
theorem idle_overtakes_total :
    Rising ([.readSample (some (smallTimes 0 0 0)),
      .readSample (some (smallTimes 10 1 0))].filterMap SamplerCall.raw) ∧
    (cpuSamplerWin exactQuotient).readSample (some {}) (some (smallTimes 10 1 0)) =
      some (some ⟨10, 1, 0⟩, 18446744073709551607) ∧
    ¬ EveryStep samplerStep InRange none
      [.readSample (some (smallTimes 0 0 0)), .readSample (some (smallTimes 10 1 0))] := by
  have sampled : (cpuSamplerWin exactQuotient).readSample (some {}) (some (smallTimes 10 1 0)) =
      some (some ⟨10, 1, 0⟩, 18446744073709551607) := by
    have load : cpuLoad exactQuotient {} ⟨10, 1, 0⟩ = 18446744073709551607 := by
      have busy : deltaBusy {} ⟨10, 1, 0⟩ = 18446744073709551607 := by decide
      have total : deltaTotal {} ⟨10, 1, 0⟩ = 1 := by decide
      unfold cpuLoad
      rw [busy, total, if_neg (by decide)]
      simp [exactQuotient]
    rw [← load]
    rfl
  refine ⟨⟨by decide, ?_⟩, sampled, fun sound => ?_⟩
  · refine List.pairwise_pair.mpr ?_
    unfold RawTimes.Rises
    decide
  · have last := sound [.readSample (some (smallTimes 0 0 0))] _ (List.prefix_refl _)
    have above := (last.load _ _ sampled).2
    norm_num at above

end RdpExt.CpuSamplerWin
