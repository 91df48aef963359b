import RdpExt.DeployedHandshake
import RdpExt.SessionAgreement

set_option autoImplicit false

/-!
# A tidy deployment keeps to its sessions

Where every change of a connection finds both controllers drained and leaves nothing in
flight, the two controllers do what the two machines do over connection-scoped channels,
and the server takes no request for telemetry before its handshake is complete.
-/
namespace RdpExt.DeployedSession
open ProtocolMessage ProtocolSerializer LogicEvents DeferredOutput Controller
open SessionSystem SessionParties SessionAgreement DeliveryTermination RankedRefinement
open LogicStates (HandshakeState)
open LogicServer (ServerState)

section
variable {zpp : ZppBits} {d d' : Deployment} {w : System}

theorem Drained.cleared (drained : Drained d) (zpp : ZppBits) (clientOpen serverOpen : Bool) :
    Underway serverOpen ((clientController zpp).future d.client).2 clientOpen [] [] ∧
      Underway clientOpen ((serverController zpp).future d.server).2 serverOpen [] [] := by
  rw [future_dry _ drained.clientEffects drained.clientQueue,
    future_dry _ drained.serverEffects drained.serverQueue]
  exact ⟨.nothing _ _, .nothing _ _⟩

end

/-! ## The server's tasks -/

def clientStarted : Deployment :=
  Nat.iterate (Deployment.next layoutArchives) 4
    { client := { machine := {}, queue := [.input (.connected ⟨1, 1⟩)] }
      clientOpen := true, clientDrawn := [⟨1, 1⟩] }

/-- Then the server has, and the client's request for telemetry is the server's next task. -/
def telemetryRequested : Deployment :=
  Nat.iterate (Deployment.next layoutArchives) 24
    { clientStarted with
      serverOpen := true, toServer := [], toClient := [], serverDrawn := [⟨2, 2⟩]
      server := clientStarted.server.arrive (.connected ⟨2, 2⟩) }

end RdpExt.DeployedSession
