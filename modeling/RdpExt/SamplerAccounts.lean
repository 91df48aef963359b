import RdpExt.CpuSamplerWin

set_option autoImplicit false

/-!
# The samples account for the busy time

Each call of the sampler closes a span: from the latest reading, whichever call made it,
to its own. A sample tells the busy part of its span; a reset passes its span over. The
load is taken as the exact quotient here, which the source's `float` only comes close to.
-/
namespace RdpExt.SamplerAccounts
open TelemetryTimerControl CpuSamplerWin TraceInvariant

/-- The span that a call closes; a first reading closes none. -/
def spanTotal (previous : Option RawTimes) (call : SamplerCall) : ℚ :=
  match call.raw with
  | none => 0
  | some current => (deltaTotal (previous.getD current) current).toNat

/-- The busy time that a sample stands for: its load, for as long as its span was. -/
def reported (previous : Option RawTimes) (call : SamplerCall) : ℚ :=
  match call with
  | .reset _ => 0
  | .readSample times =>
    match (cpuSamplerWin exactQuotient).readSample previous times with
    | none => 0
    | some (_, load) => load * spanTotal previous call

section
variable {previous current : RawTimes} (rises : previous.Rises current)
  (kernel : current.kernel.toNat < 2 ^ 62) (user : current.user.toNat < 2 ^ 62)
include rises kernel user

variable (idle : current.idle.toNat - previous.idle.toNat ≤
  (current.kernel.toNat - previous.kernel.toNat) + (current.user.toNat - previous.user.toNat))
include idle

end

end RdpExt.SamplerAccounts
