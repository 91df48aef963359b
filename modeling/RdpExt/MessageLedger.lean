import RdpExt.DeployedHandshake
import RdpExt.DeployedTraffic
import RdpExt.OrderedFlow

set_option autoImplicit false

/-!
# What is heard was said, once and in order

The way of a message goes from the machine that says it through the effects and the queue
of one executor, the buffers in flight and the queue of the other executor to the machine
that hears it. Beside the deployment a ledger keeps what has been said and heard. Writes
may fail or be short.
-/
namespace RdpExt.MessageLedger
open ProtocolMessage ProtocolSerializer LogicEvents DeferredOutput Controller
open DeployedSession OrderedFlow HonestTraffic

section
variable {κ σ ε ω κ' σ' ε' ω' : Type} {zpp : ZppBits}
  {sending : Wiring κ σ ε ω TransportCall} {hearing : Wiring κ' σ' ε' ω' TransportCall}
  {hears : ε' → Option Message}

/-- What is under way from one executor to the other, the next to be heard first. -/
def underway (zpp : ZppBits) (sending : Wiring κ σ ε ω TransportCall)
    (hearing : Wiring κ' σ' ε' ω' TransportCall) (hears : ε' → Option Message)
    (sender : Loop κ σ ω TransportCall) (wire : List Buffer)
    (receiver : Loop κ' σ' ω' TransportCall) : List Message :=
  (hearing.events receiver.queue).filterMap hears ++
    (wire ++ sentBuffers (sending.pending sender)).filterMap (received? zpp)

/-- What the next step of an executor hands to its machine. -/
def heardNext (hearing : Wiring κ' σ' ε' ω' TransportCall) (hears : ε' → Option Message)
    (receiver : Loop κ' σ' ω' TransportCall) : List Message :=
  (hearing.takes receiver).toList.filterMap hears

variable {sender sender' : Loop κ σ ω TransportCall} {wire wire' : List Buffer}
  {receiver receiver' : Loop κ' σ' ω' TransportCall} {whole : Prop}

theorem received?_writes (documented : zpp.Documented) {said : List Message}
    (fit : ∀ m ∈ said, m.TextFits) :
    (sentBuffers (said.map sendOf)).filterMap (received? zpp) = said := by
  induction said with
  | nil => rfl
  | cons m rest ih =>
    have first := received?_write documented (fit m List.mem_cons_self)
    rw [List.map_cons, sendOf, sentBuffers_send, List.filterMap_cons_some first,
      ih fun n hn => fit n (List.mem_cons_of_mem _ hn)]

theorem underway_sends (documented : zpp.Documented) {out : Option TransportCall}
    (exec : Exec sending sender out sender') (safe : sending.AbortsLast sender.effects)
    {said : List Message} (posted : sending.posts (sending.reacts sender) = said.map sendOf)
    (fit : ∀ m ∈ said, m.TextFits)
    (writes : Flow whole wire (sentBuffers out.toList) [] wire') :
    Flow whole (underway zpp sending hearing hears sender wire receiver) said []
      (underway zpp sending hearing hears sender' wire' receiver) := by
  have owed : Flow whole (sending.pending sender) (said.map sendOf) out.toList
      (sending.pending sender') := .exact (posted ▸ (sending.exec_pending exec safe).symm)
  have buffers : Flow whole (sentBuffers (sending.pending sender)) (sentBuffers (said.map sendOf))
      (sentBuffers out.toList) (sentBuffers (sending.pending sender')) := owed.filterMap _
  have messages := (buffers.join writes).filterMap (received? zpp)
  rw [received?_writes documented fit] at messages
  exact messages.join (.idle _)

theorem underway_hears {out : Option TransportCall} (exec : Exec hearing receiver out receiver') :
    Flow whole (underway zpp sending hearing hears sender wire receiver) []
      (heardNext hearing hears receiver)
      (underway zpp sending hearing hears sender wire receiver') := by
  have taken : Flow whole (hearing.events receiver.queue) [] (hearing.takes receiver).toList
      (hearing.events receiver'.queue) := by
    rw [hearing.exec_takes exec]
    exact .leaves _ _
  exact Flow.join (.idle _) (taken.filterMap hears)

theorem underway_reports (k : κ') {reported : List Buffer}
    (heard : (hearing.decode k).toList.filterMap hears = reported.filterMap (received? zpp))
    (reads : Flow whole wire [] reported wire') :
    Flow whole (underway zpp sending hearing hears sender wire receiver) [] []
      (underway zpp sending hearing hears sender wire' (receiver.arrive k)) := by
  have arrives : Flow whole ((hearing.events receiver.queue).filterMap hears)
      (reported.filterMap (received? zpp)) []
      ((hearing.events (receiver.arrive k).queue).filterMap hears) := by
    unfold Loop.arrive
    rw [hearing.events_append, hearing.events_input, ← heard, List.filterMap_append,
      List.filterMap_append]
    exact .exact (by simp)
  have flight : Flow whole (wire ++ sentBuffers (sending.pending sender)) [] reported
      (wire' ++ sentBuffers (sending.pending sender)) := Flow.join (.idle _) reads
  exact (flight.filterMap _).join arrives

theorem underway_arrive (k : κ) : underway zpp sending hearing hears (sender.arrive k) wire receiver =
    underway zpp sending hearing hears sender wire receiver := by
  have same : sending.pending (sender.arrive k) = sending.pending sender := by
    unfold Wiring.pending Loop.arrive
    rw [outputs_append, outputs_input, outputs_nil, List.append_nil]
  unfold underway
  rw [same]

end

/-! ## The two ways of the deployment -/

def clientHears : ClientEvent → Option Message
  | .messageReceived m => some m
  | _ => none

def serverHears : ServerEvent → Option Message
  | .messageReceived m => some m
  | _ => none

def towardsClient (zpp : ZppBits) (d : Deployment) : List Message :=
  underway zpp (serverController zpp) (clientController zpp) clientHears d.server d.toClient d.client

def towardsServer (zpp : ZppBits) (d : Deployment) : List Message :=
  underway zpp (clientController zpp) (serverController zpp) serverHears d.client d.toServer d.server

/-- What the client's machine says in its executor's next step, and what it hears. -/
def clientSaying (zpp : ZppBits) (d : Deployment) : List Message :=
  clientMessages ((clientController zpp).reacts d.client)

def clientHearing (zpp : ZppBits) (d : Deployment) : List Message :=
  heardNext (clientController zpp) clientHears d.client

def serverSaying (zpp : ZppBits) (d : Deployment) : List Message :=
  serverMessages ((serverController zpp).reacts d.server)

def serverHearing (zpp : ZppBits) (d : Deployment) : List Message :=
  heardNext (serverController zpp) serverHears d.server

theorem clientSaying_posted {zpp : ZppBits} (documented : zpp.Documented) (d : Deployment) :
    (clientController zpp).posts ((clientController zpp).reacts d.client) =
        (clientSaying zpp d).map sendOf ∧ ∀ m ∈ clientSaying zpp d, m.TextFits := by
  unfold clientSaying Wiring.reacts
  cases (clientController zpp).takes d.client with
  | none => exact ⟨rfl, nofun⟩
  | some event =>
    exact ⟨client_posts documented d.client.machine event, client_messages_fit _ event⟩

theorem serverSaying_posted {zpp : ZppBits} (documented : zpp.Documented) (d : Deployment) :
    (serverController zpp).posts ((serverController zpp).reacts d.server) =
        (serverSaying zpp d).map sendOf ∧ ∀ m ∈ serverSaying zpp d, m.TextFits := by
  unfold serverSaying Wiring.reacts
  cases (serverController zpp).takes d.server with
  | none => exact ⟨rfl, nofun⟩
  | some event =>
    exact ⟨server_posts documented d.server.machine event, server_messages_fit _ event⟩

theorem flow_written (channelOpen : Bool) (wire : List Buffer) (bytes : Buffer) :
    Flow (channelOpen = true) wire [bytes] [] (wire ++ written channelOpen bytes) := by
  cases channelOpen with
  | true => exact .enters wire [bytes]
  | false =>
    refine ⟨?_, nofun⟩
    change (wire ++ []).Sublist _
    exact (List.nil_sublist _).append_left wire

section
variable {zpp : ZppBits} {d d' : Deployment} {whole : Prop}

theorem clientActs_exec (step : Executes zpp d d') (own : d'.server = d.server) :
    ∃ out, Exec (clientController zpp) d.client out d'.client := by
  cases step with
  | client client' exec | clientSends client' bytes exec | clientCloses client' exec =>
    exact ⟨_, exec⟩
  | server server' exec | serverSends server' bytes exec =>
    exact absurd own (Wiring.exec_moves exec)

theorem serverActs_exec (step : Executes zpp d d') (own : d'.client = d.client) :
    ∃ out, Exec (serverController zpp) d.server out d'.server := by
  cases step with
  | server server' exec | serverSends server' bytes exec => exact ⟨_, exec⟩
  | client client' exec | clientSends client' bytes exec | clientCloses client' exec =>
    exact absurd own (Wiring.exec_moves exec)

theorem clientActs_hears (step : Executes zpp d d') (own : d'.server = d.server) :
    Flow whole (towardsClient zpp d) [] (clientHearing zpp d) (towardsClient zpp d') := by
  cases step with
  | client client' exec | clientSends client' bytes exec | clientCloses client' exec =>
    exact underway_hears exec
  | server server' exec | serverSends server' bytes exec =>
    exact absurd own (Wiring.exec_moves exec)

theorem clientActs_sends (documented : zpp.Documented)
    (safe : (clientController zpp).AbortsLast d.client.effects) (step : Executes zpp d d')
    (own : d'.server = d.server) :
    Flow (d.clientOpen = true) (towardsServer zpp d) (clientSaying zpp d) []
      (towardsServer zpp d') := by
  obtain ⟨posted, fit⟩ := clientSaying_posted documented d
  cases step with
  | client client' exec | clientCloses client' exec =>
    exact underway_sends documented exec safe posted fit (.idle _)
  | clientSends client' bytes exec =>
    exact underway_sends documented exec safe posted fit (flow_written _ _ _)
  | server server' exec | serverSends server' bytes exec =>
    exact absurd own (Wiring.exec_moves exec)

theorem serverActs_hears (step : Executes zpp d d') (own : d'.client = d.client) :
    Flow whole (towardsServer zpp d) [] (serverHearing zpp d) (towardsServer zpp d') := by
  cases step with
  | server server' exec | serverSends server' bytes exec => exact underway_hears exec
  | client client' exec | clientSends client' bytes exec | clientCloses client' exec =>
    exact absurd own (Wiring.exec_moves exec)

theorem serverActs_sends (documented : zpp.Documented)
    (safe : (serverController zpp).AbortsLast d.server.effects) (step : Executes zpp d d')
    (own : d'.client = d.client) :
    Flow (d.serverOpen = true) (towardsClient zpp d) (serverSaying zpp d) []
      (towardsClient zpp d') := by
  obtain ⟨posted, fit⟩ := serverSaying_posted documented d
  cases step with
  | server server' exec => exact underway_sends documented exec safe posted fit (.idle _)
  | serverSends server' bytes exec =>
    exact underway_sends documented exec safe posted fit (flow_written _ _ _)
  | client client' exec | clientSends client' bytes exec | clientCloses client' exec =>
    exact absurd own (Wiring.exec_moves exec)

theorem client_reports (bytes : Buffer) :
    ((clientController zpp).decode (.bytes bytes)).toList.filterMap clientHears =
      [bytes].filterMap (received? zpp) := by
  change ((received? zpp bytes).map .messageReceived).toList.filterMap clientHears = _
  cases read : received? zpp bytes <;> simp [read, clientHears]

theorem server_reports (bytes : Buffer) :
    ((serverController zpp).decode (.bytes bytes)).toList.filterMap serverHears =
      [bytes].filterMap (received? zpp) := by
  change ((received? zpp bytes).map .messageReceived).toList.filterMap serverHears = _
  cases read : received? zpp bytes <;> simp [read, serverHears]

theorem flow_read {wire rest : List Buffer} {bytes : Buffer} (head : wire = bytes :: rest) :
    Flow whole wire [] [bytes] rest := by
  rw [head]
  exact .leaves [bytes] rest

/-- Nothing is said or heard; what is under way stays so, all of it where `whole` holds. -/
def Passes (whole : Prop) (zpp : ZppBits) (d d' : Deployment) : Prop :=
  Flow whole (towardsClient zpp d) [] [] (towardsClient zpp d') ∧
    Flow whole (towardsServer zpp d) [] [] (towardsServer zpp d')

theorem Passes.trans {d'' : Deployment} (first : Passes whole zpp d d')
    (second : Passes whole zpp d' d'') : Passes whole zpp d d'' :=
  ⟨first.1.trans second.1, first.2.trans second.2⟩

theorem delivers_passes (step : Delivers d d') : Passes whole zpp d d' := by
  cases step with
  | toClient bytes rest channelOpen head =>
    have same : towardsServer zpp
        { d with toClient := rest, client := d.client.arrive (.bytes bytes) } =
          towardsServer zpp d := underway_arrive _
    refine ⟨underway_reports (ClientCallback.bytes bytes) (client_reports bytes) (flow_read head), ?_⟩
    rw [same]
    exact .idle _
  | toServer bytes rest channelOpen head =>
    have same : towardsClient zpp
        { d with toServer := rest, server := d.server.arrive (.bytes bytes) } =
          towardsClient zpp d := underway_arrive _
    refine ⟨?_, underway_reports (ServerCallback.bytes bytes) (server_reports bytes) (flow_read head)⟩
    rw [same]
    exact .idle _

theorem serverArrives_passes (callback : ServerCallback)
    (silent : ((serverController zpp).decode callback).toList.filterMap serverHears = []) :
    Passes whole zpp d { d with server := d.server.arrive callback } := by
  have same : towardsClient zpp { d with server := d.server.arrive callback } =
      towardsClient zpp d := underway_arrive _
  refine ⟨?_, underway_reports callback (silent.trans List.filterMap_nil.symm) (.idle _)⟩
  rw [same]
  exact .idle _

end

/-! ## The ledger -/

/-- `disturbed`: a connection has changed, or a write has failed or was short. -/
structure Ledger where
  deployment : Deployment
  clientSaid : List Message := []
  clientHeard : List Message := []
  serverSaid : List Message := []
  serverHeard : List Message := []
  sampled : List CpuSample := []
  disturbed : Bool := false

namespace Ledger

def clientActs (zpp : ZppBits) (l : Ledger) (d' : Deployment) : Ledger :=
  { l with
    deployment := d'
    clientSaid := l.clientSaid ++ clientSaying zpp l.deployment
    clientHeard := l.clientHeard ++ clientHearing zpp l.deployment }

def serverActs (zpp : ZppBits) (l : Ledger) (d' : Deployment) : Ledger :=
  { l with
    deployment := d'
    serverSaid := l.serverSaid ++ serverSaying zpp l.deployment
    serverHeard := l.serverHeard ++ serverHearing zpp l.deployment }

/-- An executor's step is entered for the side whose executor made it. -/
inductive Step (zpp : ZppBits) : Ledger → Ledger → Prop where
  | clientActs (l : Ledger) (d' : Deployment) (step : Executes zpp l.deployment d')
      (own : d'.server = l.deployment.server) : Step zpp l (l.clientActs zpp d')
  | serverActs (l : Ledger) (d' : Deployment) (step : Executes zpp l.deployment d')
      (own : d'.client = l.deployment.client) : Step zpp l (l.serverActs zpp d')
  | delivers (l : Ledger) (d' : Deployment) (step : Delivers l.deployment d') :
      Step zpp l { l with deployment := d' }
  | changes (l : Ledger) (d' : Deployment) (step : Changes zpp l.deployment d') :
      Step zpp l { l with deployment := d', disturbed := true }
  | faults (l : Ledger) (d' : Deployment) (step : Faults zpp l.deployment d') :
      Step zpp l { l with deployment := d', disturbed := true }
  | sampled (l : Ledger) (sample : CpuSample) :
      Step zpp l
        { l with
          deployment :=
            { l.deployment with server := l.deployment.server.arrive (.sample sample) }
          sampled := l.sampled ++ [sample] }

def Kept (zpp : ZppBits) (start : Deployment) (l : Ledger) : Prop :=
  Relation.ReflTransGen (Step zpp) { deployment := start } l

section
variable {zpp : ZppBits} {start : Deployment} {l l' : Ledger}

theorem Step.made (step : Step zpp l l') : FaultyStep zpp l.deployment l'.deployment := by
  cases step with
  | clientActs d' step own | serverActs d' step own => exact .whole _ _ (.executes _ _ step)
  | delivers d' step => exact .whole _ _ (.delivers _ _ step)
  | changes d' step => exact .whole _ _ (.changes _ _ step)
  | faults d' step => exact .faults _ _ step
  | sampled sample => exact .whole _ _ (.sampled _ sample)

theorem Kept.faulty (kept : Kept zpp start l) (reachable : FaultyReachable zpp start) :
    FaultyReachable zpp l.deployment := by
  induction kept with
  | refl => exact reachable
  | tail _ last ih => exact Relation.ReflTransGen.tail ih last.made

/-- Both ways so far. Undisturbed, nothing is lost on the way from a side whose channel is
    open. -/
structure Conserved (zpp : ZppBits) (start : Deployment) (l : Ledger) : Prop where
  steady : l.disturbed = false →
    l.deployment.clientOpen = start.clientOpen ∧ l.deployment.serverOpen = start.serverOpen
  towardsClient : Flow (l.disturbed = false ∧ start.serverOpen = true)
    (towardsClient zpp start) l.serverSaid l.clientHeard (towardsClient zpp l.deployment)
  towardsServer : Flow (l.disturbed = false ∧ start.clientOpen = true)
    (towardsServer zpp start) l.clientSaid l.serverHeard (towardsServer zpp l.deployment)

/-- A step that disturbs. -/
theorem Conserved.loses (h : Conserved zpp start l) {d' : Deployment}
    (passes : Passes False zpp l.deployment d') :
    Conserved zpp start { l with deployment := d', disturbed := true } := by
  refine ⟨nofun, ?_, ?_⟩
  · exact ((h.towardsClient.weaken False.elim).then_stays passes.1).weaken nofun
  · exact ((h.towardsServer.weaken False.elim).then_stays passes.2).weaken nofun

end

end Ledger

def eventLoad? : ServerEvent → Option FloatBits
  | .cpuSampleReady sample => some sample.cpuLoad
  | _ => none

section
variable {zpp : ZppBits} {start d d' : Deployment} {l l' : Ledger}

end

end RdpExt.MessageLedger
