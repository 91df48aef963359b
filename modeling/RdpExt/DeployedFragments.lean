import RdpExt.DeployedHandshake
import RdpExt.DeployedTraffic
import RdpExt.MstscOpenEvents
import RdpExt.WtsReads

set_option autoImplicit false

/-!
# No message needs a second piece

The transports hand on the last piece of a message, or each piece by itself. What the two
programs say to each other always fits one.
-/
namespace RdpExt.DeployedSession
open ProtocolMessage ProtocolSerializer WireFormat LogicEvents DeferredOutput Controller
open HonestTraffic MstscOpenEvents WtsChannel WtsReads

/-- Only behind a full piece is there another one. -/
def CutAt (limit : ℕ) (pieces : List Buffer) : Prop := ∀ piece ∈ pieces.dropLast, piece.length = limit

theorem CutAt.single {limit : ℕ} {pieces : List Buffer} (cut : CutAt limit pieces)
    (nonempty : pieces ≠ []) (short : pieces.flatten.length < limit) :
    pieces = [pieces.flatten] := by
  match pieces, nonempty with
  | [piece], _ => rw [List.flatten_singleton]
  | first :: second :: rest, _ =>
    have full : first.length = limit := cut first List.mem_cons_self
    rw [List.flatten_cons, List.length_append] at short
    omega

/-- The longest message is a Hello, with 15 bytes. -/
theorem accepted_length {m : Message} (accepted : ForServer m ∨ ForClient m) :
    0 < (messageWire.write m).length ∧ (messageWire.write m).length ≤ 15 := by
  cases m with
  | error m | capabilitySet m => exact accepted.elim False.elim False.elim
  | hello m =>
    change 0 < (1 :: (littleEndian 2 _ ++ (littleEndian 8 _ ++ littleEndian 4 _))).length ∧
      (1 :: (littleEndian 2 _ ++ (littleEndian 8 _ ++ littleEndian 4 _))).length ≤ 15
    simp
  | telemetryStart m =>
    change 0 < [(3 : UInt8)].length ∧ [(3 : UInt8)].length ≤ 15
    decide
  | cpuSample m | ping m | pong m =>
    change 0 < (_ :: littleEndian 4 _).length ∧ (_ :: littleEndian 4 _).length ≤ 15
    simp

theorem Piece.length {cut : Prop} {accepts : Message → Prop} {bytes : Buffer}
    (h : Piece cut accepts bytes) (accepted : ∀ m, accepts m → ForServer m ∨ ForClient m) :
    0 < bytes.length ∧ bytes.length ≤ 15 := by
  obtain ⟨m, member, _, begins, filled, _⟩ := h
  exact ⟨filled, begins.length_le.trans (accepted_length (accepted m member)).2⟩

end RdpExt.DeployedSession
