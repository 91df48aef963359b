import RdpExt.DeployedSession
import RdpExt.SessionConvergence

set_option autoImplicit false

/-!
# The deployment settles with the session established

With both channels open and left to itself, the deployment comes to rest after a bounded
number of steps, whatever is queued and in flight, and whatever the order of the steps.
-/
namespace RdpExt.DeployedSession
open ProtocolMessage ProtocolSerializer LogicStates LogicEvents DeferredOutput Controller
open SessionSystem HandshakeBalance SessionParties SessionConvergence DeliveryTermination
open RankedRefinement
open LogicServer (ServerState)
open LogicClient (ClientState)

/-- A step that neither opens nor closes a channel, nor takes a sample. -/
def Internal (zpp : ZppBits) (d d' : Deployment) : Prop := Executes zpp d d' ∨ Delivers d d'

/-- One order of such steps: the client's executor first, then the server's, then what is
    in flight to the server. -/
def Deployment.next (zpp : ZppBits) (d : Deployment) : Deployment :=
  match (clientController zpp).next d.client with
  | some (none, client') | some (some .close, client') => { d with client := client' }
  | some (some (.send bytes), client') =>
    { d with client := client', toServer := d.toServer ++ written d.clientOpen bytes }
  | none =>
    match (serverController zpp).next d.server with
    | some (none, server') => { d with server := server' }
    | some (some (.send bytes), server') =>
      { d with server := server', toClient := d.toClient ++ written d.serverOpen bytes }
    | some (some .close, _) => d
    | none =>
      match d.serverOpen, d.toServer, d.clientOpen, d.toClient with
      | true, bytes :: rest, _, _ =>
        { d with toServer := rest, server := d.server.arrive (.bytes bytes) }
      | _, _, true, bytes :: rest =>
        { d with toClient := rest, client := d.client.arrive (.bytes bytes) }
      | _, _, _, _ => d

def executorWork (zpp : ZppBits) (d : Deployment) : ℕ :=
  (clientController zpp).work d.client + (serverController zpp).work d.server

/-- A delivery is paid for by the machines above, a step of an executor by its work. -/
def rank (zpp : ZppBits) (d : Deployment) (w : System) : ℕ := 6 * potential w + executorWork zpp d

structure Drained (d : Deployment) : Prop where
  clientEffects : d.client.effects = []
  clientQueue : d.client.queue = []
  serverEffects : d.server.effects = []
  serverQueue : d.server.queue = []

structure Dry (d : Deployment) : Prop extends Drained d where
  toServer : d.toServer = []
  toClient : d.toClient = []

theorem internal_open {zpp : ZppBits} {d d' : Deployment} (step : Internal zpp d d') :
    d'.clientOpen = d.clientOpen ∧ d'.serverOpen = d.serverOpen := by
  rcases step with executes | delivers
  · cases executes <;> exact ⟨rfl, rfl⟩
  · cases delivers <;> exact ⟨rfl, rfl⟩

theorem Outbound.empty {channel : List Message} (h : Outbound [] true [] channel) :
    channel = [] := by
  obtain ⟨inFlight, dropped, pending, rfl, sent, first, live⟩ := h.split
  rw [live rfl, List.map_eq_nil_iff.mp sent.symm, List.map_eq_nil_iff.mp first.symm]
  rfl

theorem future_dry {κ σ ε ω β : Type} (w : Wiring κ σ ε ω β) {l : Loop κ σ ω β}
    (effects : l.effects = []) (queue : l.queue = []) : w.future l = (l.machine, []) := by
  simp [Wiring.future, Wiring.run, Wiring.posts, effects, queue]

/-- Each side's handshake is complete, with the present instance of the other, and
    telemetry was asked for and is on. -/
structure Established (d : Deployment) : Prop where
  dry : Dry d
  clientCompleted : d.client.machine.handshakeState.isCompleted = true
  serverCompleted : d.server.machine.handshakeState.isCompleted = true
  clientKnows : d.client.machine.handshakeState.remoteInstanceId = some d.server.machine.instanceId
  serverKnows : d.server.machine.handshakeState.remoteInstanceId = some d.client.machine.instanceId
  requested : d.client.machine.telemetryRequested = true
  enabled : d.server.machine.telemetryEnabled = true

end RdpExt.DeployedSession
