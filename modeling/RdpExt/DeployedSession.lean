import RdpExt.Controller
import RdpExt.DeliveryTermination
import RdpExt.RankedRefinement

set_option autoImplicit false

/-!
# The plugin and the server, joined by the channel

Both controllers behind their executors, and between them the buffers that one side's
transport has written and the other's has yet to report. A buffer is written by one call
and reported by one; opening or closing a channel and reporting it are one step. The runs
of `Step` are those in which an open channel takes what is written to it; in those of
`FaultyStep` the plugin's may refuse it and the server's take only a part.
-/
namespace RdpExt.DeployedSession
open ProtocolMessage ProtocolSerializer LogicEvents DeferredOutput Controller SessionSystem
open HandshakeParties DeliveryTermination RankedRefinement
open LogicServer (ServerState)
open LogicClient (ClientState)

abbrev ClientLoop := Loop ClientCallback ClientState ClientEffect TransportCall
abbrev ServerLoop := Loop ServerCallback ServerState ServerEffect TransportCall

/-- The drawn ids of each side are kept for freshness. -/
structure Deployment where
  client : ClientLoop := { machine := {} }
  server : ServerLoop := { machine := {} }
  toServer : List Buffer := []
  toClient : List Buffer := []
  clientOpen : Bool := false
  serverOpen : Bool := false
  clientDrawn : List InstanceId := []
  serverDrawn : List InstanceId := []

/-- A buffer sent while the side's channel is not open is dropped. -/
def written (channelOpen : Bool) (bytes : Buffer) : List Buffer :=
  if channelOpen then [bytes] else []

/-- `WtsTransport::closeChannel`: reports only if the channel was open; what is in flight
    may be lost. -/
def Deployment.closeChannel (d : Deployment) (toServer toClient : List Buffer) : Deployment :=
  if d.serverOpen then
    { d with
      serverOpen := false, toServer := toServer, toClient := toClient
      server := d.server.arrive .disconnected }
  else d

/-- The executors' steps; what is sent is written whole, or dropped. -/
inductive Executes (zpp : ZppBits) : Deployment → Deployment → Prop where
  | client (d : Deployment) (client' : ClientLoop)
      (exec : Exec (clientController zpp) d.client none client') :
      Executes zpp d { d with client := client' }
  | server (d : Deployment) (server' : ServerLoop)
      (exec : Exec (serverController zpp) d.server none server') :
      Executes zpp d { d with server := server' }
  | clientSends (d : Deployment) (client' : ClientLoop) (bytes : Buffer)
      (exec : Exec (clientController zpp) d.client (some (.send bytes)) client') :
      Executes zpp d
        { d with client := client', toServer := d.toServer ++ written d.clientOpen bytes }
  | serverSends (d : Deployment) (server' : ServerLoop) (bytes : Buffer)
      (exec : Exec (serverController zpp) d.server (some (.send bytes)) server') :
      Executes zpp d
        { d with server := server', toClient := d.toClient ++ written d.serverOpen bytes }
  -- `MstscTransport::close` has an empty body.
  | clientCloses (d : Deployment) (client' : ClientLoop)
      (exec : Exec (clientController zpp) d.client (some .close) client') :
      Executes zpp d { d with client := client' }

inductive Delivers : Deployment → Deployment → Prop where
  | toClient (d : Deployment) (bytes : Buffer) (rest : List Buffer)
      (channelOpen : d.clientOpen = true) (head : d.toClient = bytes :: rest) :
      Delivers d { d with toClient := rest, client := d.client.arrive (.bytes bytes) }
  | toServer (d : Deployment) (bytes : Buffer) (rest : List Buffer)
      (channelOpen : d.serverOpen = true) (head : d.toServer = bytes :: rest) :
      Delivers d { d with toServer := rest, server := d.server.arrive (.bytes bytes) }

/-- A channel is opened or closed, and what is in flight may be lost. -/
inductive Changes (zpp : ZppBits) : Deployment → Deployment → Prop where
  | clientConnected (d : Deployment) (drawn : InstanceId) (toServer toClient : List Buffer)
      (unreserved : drawn ≠ {}) (fresh : drawn ∉ d.clientDrawn)
      (server : toServer.Sublist d.toServer) (client : toClient.Sublist d.toClient) :
      Changes zpp d
        { d with
          clientOpen := true, toServer := toServer, toClient := toClient
          clientDrawn := drawn :: d.clientDrawn, client := d.client.arrive (.connected drawn) }
  | clientDisconnected (d : Deployment) (toServer toClient : List Buffer)
      (server : toServer.Sublist d.toServer) (client : toClient.Sublist d.toClient) :
      Changes zpp d
        { d with
          clientOpen := false, toServer := toServer, toClient := toClient
          client := d.client.arrive .disconnected }
  | serverConnected (d : Deployment) (drawn : InstanceId) (toServer toClient : List Buffer)
      (closed : d.serverOpen = false) (unreserved : drawn ≠ {}) (fresh : drawn ∉ d.serverDrawn)
      (server : toServer.Sublist d.toServer) (client : toClient.Sublist d.toClient) :
      Changes zpp d
        { d with
          serverOpen := true, toServer := toServer, toClient := toClient
          serverDrawn := drawn :: d.serverDrawn, server := d.server.arrive (.connected drawn) }
  -- A read of the server's fails.
  | serverReadFails (d : Deployment) (toServer toClient : List Buffer)
      (server : toServer.Sublist d.toServer) (client : toClient.Sublist d.toClient) :
      Changes zpp d (d.closeChannel toServer toClient)
  | serverWriteFails (d : Deployment) (server' : ServerLoop) (bytes : Buffer)
      (toServer toClient : List Buffer) (channelOpen : d.serverOpen = true)
      (exec : Exec (serverController zpp) d.server (some (.send bytes)) server')
      (server : toServer.Sublist d.toServer) (client : toClient.Sublist d.toClient) :
      Changes zpp d ({ d with server := server' }.closeChannel toServer toClient)
  | serverCloses (d : Deployment) (server' : ServerLoop) (toServer toClient : List Buffer)
      (exec : Exec (serverController zpp) d.server (some .close) server')
      (server : toServer.Sublist d.toServer) (client : toClient.Sublist d.toClient) :
      Changes zpp d ({ d with server := server' }.closeChannel toServer toClient)

inductive Step (zpp : ZppBits) : Deployment → Deployment → Prop where
  | executes (d d' : Deployment) (step : Executes zpp d d') : Step zpp d d'
  | delivers (d d' : Deployment) (step : Delivers d d') : Step zpp d d'
  | changes (d d' : Deployment) (step : Changes zpp d d') : Step zpp d d'
  | sampled (d : Deployment) (sample : CpuSample) :
      Step zpp d { d with server := d.server.arrive (.sample sample) }

def Reachable (zpp : ZppBits) (d : Deployment) : Prop := Relation.ReflTransGen (Step zpp) {} d

/-- The first `bytesWritten` bytes of a buffer, as they are in flight. -/
def writtenShort (bytes : Buffer) (bytesWritten : ℕ) : List Buffer :=
  if 0 < bytesWritten then [bytes.take bytesWritten] else []

/-- A write goes wrong and leaves its channel open. -/
inductive Faults (zpp : ZppBits) : Deployment → Deployment → Prop where
  -- `pVirtualChannelWrite` is refused, or cancelled: `MstscTransport` only logs it.
  | clientWriteFails (d : Deployment) (client' : ClientLoop) (bytes : Buffer)
      (channelOpen : d.clientOpen = true)
      (exec : Exec (clientController zpp) d.client (some (.send bytes)) client') :
      Faults zpp d { d with client := client' }
  -- `WTSVirtualChannelWrite` succeeds, and `WtsTransport::send` does not look at how far.
  | serverWritesShort (d : Deployment) (server' : ServerLoop) (bytes : Buffer) (bytesWritten : ℕ)
      (channelOpen : d.serverOpen = true)
      (exec : Exec (serverController zpp) d.server (some (.send bytes)) server')
      (short : bytesWritten < bytes.length) :
      Faults zpp d
        { d with server := server', toClient := d.toClient ++ writtenShort bytes bytesWritten }

/-- A step of the deployment, whatever becomes of the writes. -/
inductive FaultyStep (zpp : ZppBits) : Deployment → Deployment → Prop where
  | whole (d d' : Deployment) (step : Step zpp d d') : FaultyStep zpp d d'
  | faults (d d' : Deployment) (step : Faults zpp d d') : FaultyStep zpp d d'

def FaultyReachable (zpp : ZppBits) (d : Deployment) : Prop :=
  Relation.ReflTransGen (FaultyStep zpp) {} d

theorem Reachable.faulty {zpp : ZppBits} {d : Deployment} (reachable : Reachable zpp d) :
    FaultyReachable zpp d :=
  Relation.ReflTransGen.mono (fun d d' step => .whole d d' step) _ _ reachable

/-! ## What is under way in one direction -/

def sendOf (m : Message) : TransportCall := .send (messageWire.write m)

theorem received?_write {zpp : ZppBits} (documented : zpp.Documented) {m : Message}
    (fits : m.TextFits) : received? zpp (messageWire.write m) = some m := by
  have own := messageWire.read_own m (messageWire_fits m fits)
  rw [received?, deserialize_documented documented own]

/-- `calls` are still to be made on a transport whose channel is open or not and has
    `wire` in flight. The messages in `channel` are those in flight, then those dropped
    since the channel was last open, then those to be sent. -/
structure Outbound (calls : List TransportCall) (channelOpen : Bool) (wire : List Buffer)
    (channel : List Message) : Prop where
  split : ∃ inFlight dropped pending, channel = inFlight ++ dropped ++ pending ∧
    wire = inFlight.map messageWire.write ∧ calls = pending.map sendOf ∧
    (channelOpen = true → dropped = [])
  fits : ∀ m ∈ channel, m.TextFits

namespace Outbound

variable {calls : List TransportCall} {channelOpen : Bool} {wire : List Buffer}
  {channel : List Message}

theorem nothing (channelOpen : Bool) : Outbound [] channelOpen [] [] :=
  ⟨⟨[], [], [], rfl, rfl, rfl, fun _ => rfl⟩, nofun⟩

theorem grows (h : Outbound calls channelOpen wire channel) {sent : List Message}
    (fit : ∀ m ∈ sent, m.TextFits) :
    Outbound (calls ++ sent.map sendOf) channelOpen wire (channel ++ sent) := by
  obtain ⟨inFlight, dropped, pending, rfl, rfl, rfl, live⟩ := h.split
  refine ⟨⟨inFlight, dropped, pending ++ sent, by simp, rfl, by simp, live⟩, fun m hm => ?_⟩
  rcases List.mem_append.mp hm with old | new
  · exact h.fits m old
  · exact fit m new

/-- Once the channel is closed, or as it closes, the first call comes to nothing. -/
theorem drops {bytes : Buffer} (h : Outbound (.send bytes :: calls) channelOpen wire channel) :
    Outbound calls false wire channel := by
  obtain ⟨inFlight, dropped, pending, whole, rfl, first, _⟩ := h.split
  obtain ⟨m, rest, rfl, _, rfl⟩ := List.map_eq_cons_iff.mp first.symm
  refine ⟨⟨inFlight, dropped ++ [m], rest, ?_, rfl, rfl, nofun⟩, h.fits⟩
  rw [whole]
  simp

theorem closed (h : Outbound calls channelOpen wire channel) :
    Outbound calls false wire channel := by
  obtain ⟨inFlight, dropped, pending, whole, sent, first, _⟩ := h.split
  exact ⟨⟨inFlight, dropped, pending, whole, sent, first, nofun⟩, h.fits⟩

theorem sends {bytes : Buffer}
    (h : Outbound (.send bytes :: calls) channelOpen wire channel) :
    Outbound calls channelOpen (wire ++ written channelOpen bytes) channel := by
  obtain ⟨inFlight, dropped, pending, whole, rfl, first, live⟩ := h.split
  obtain ⟨m, rest, rfl, same, rfl⟩ := List.map_eq_cons_iff.mp first.symm
  cases same
  cases channelOpen with
  | true =>
    refine ⟨⟨inFlight ++ [m], [], rest, ?_, by simp [written], rfl, fun _ => rfl⟩, h.fits⟩
    rw [whole, live rfl]
    simp
  | false =>
    have nothing : inFlight.map messageWire.write ++ written false (messageWire.write m) =
        inFlight.map messageWire.write := List.append_nil _
    rw [nothing]
    exact h.drops

theorem no_close (h : Outbound (.close :: calls) channelOpen wire channel) : False := by
  obtain ⟨_, _, pending, _, _, first, _⟩ := h.split
  obtain ⟨_, _, _, same, _⟩ := List.map_eq_cons_iff.mp first.symm
  cases same

/-- The channel is opened or closed: what is in flight may be lost, and what was dropped
    can be forgotten. -/
theorem cut (h : Outbound calls channelOpen wire channel) {wire' : List Buffer}
    (kept : wire'.Sublist wire) (channelOpen' : Bool) :
    ∃ channel', channel'.Sublist channel ∧ Outbound calls channelOpen' wire' channel' := by
  obtain ⟨inFlight, dropped, pending, whole, rfl, same, _⟩ := h.split
  obtain ⟨inFlight', sub, rfl⟩ := List.sublist_map_iff.mp kept
  have shorter : (inFlight' ++ pending).Sublist channel := by
    rw [whole]
    exact (sub.trans (List.sublist_append_left _ _)).append_right _
  refine ⟨_, shorter, ⟨inFlight', [], pending, by simp, rfl, same, fun _ => rfl⟩, ?_⟩
  exact fun m hm => h.fits m (shorter.subset hm)

theorem taken {bytes : Buffer} {rest : List Buffer}
    (h : Outbound calls channelOpen (bytes :: rest) channel) :
    ∃ m channel', channel = m :: channel' ∧ m.TextFits ∧ bytes = messageWire.write m ∧
      Outbound calls channelOpen rest channel' := by
  obtain ⟨inFlight, dropped, pending, rfl, head, same, live⟩ := h.split
  obtain ⟨m, inFlight', rfl, rfl, rfl⟩ := List.map_eq_cons_iff.mp head.symm
  have fits := h.fits
  refine ⟨m, inFlight' ++ dropped ++ pending, by simp, fits m (by simp), rfl,
    ⟨inFlight', dropped, pending, rfl, rfl, same, live⟩, fun n hn => fits n ?_⟩
  simpa using .inr (by simpa using hn)

end Outbound

/-! ## The controllers' calls -/

section
variable {σ κ ε ω : Type} (w : Wiring κ σ ε ω TransportCall)

theorem posts_sendOf {zpp : ZppBits} (documented : zpp.Documented) (message? : ω → Option Message)
    (sends : ∀ x m, message? x = some m → w.handle x = handleSendMessage zpp m) {effects : List ω}
    (quiet : ∀ x ∈ effects, message? x = none → ∀ call, w.handle x ≠ .posts call)
    (fit : ∀ m ∈ effects.filterMap message?, m.TextFits) :
    w.posts effects = (effects.filterMap message?).map sendOf := by
  induction effects with
  | nil => rfl
  | cons x xs ih =>
    have rest := ih fun y hy => quiet y (List.mem_cons_of_mem _ hy)
    cases message : message? x with
    | none =>
      rw [List.filterMap_cons_none message] at fit ⊢
      rw [w.posts_cons_of_quiet (quiet x List.mem_cons_self message), rest fit]
    | some m =>
      rw [List.filterMap_cons_some message] at fit ⊢
      have handled : w.handle x = .posts (sendOf m) := by
        rw [sends x m message, handleSendMessage,
          serialize_documented documented (fit m List.mem_cons_self)]
        rfl
      rw [w.posts_cons_of_posts handled, rest fun n hn => fit n (List.mem_cons_of_mem _ hn)]
      rfl

end

theorem server_posts {zpp : ZppBits} (documented : zpp.Documented) (s : ServerState)
    (event : ServerEvent) :
    (serverController zpp).posts (LogicServer.doStep s event).2 =
      (serverMessages (LogicServer.doStep s event).2).map sendOf := by
  apply posts_sendOf _ documented ServerEffect.message?
  · rintro (m | _ | _ | _) message same <;> cases same
    rfl
  · intro x hx message call handled
    rcases LogicServer.doStep_effects s event with alone | others
    · rw [alone] at hx
      rw [List.mem_singleton.mp hx] at handled
      cases handled
    · rcases others x hx with rfl | ⟨m, rfl, _⟩
      · cases handled
      · cases message
  · exact server_messages_fit s event

/-- The client's machine never asks for the transport to be closed, or for pings. -/
theorem client_effects (s : ClientState) (event : ClientEvent) :
    ∀ x ∈ (LogicClient.doStep s event).2, x = .stopPing ∨ ∃ m, x = .sendMessage m := by
  intro x hx
  cases event with
  | transportConnected drawn =>
    rcases List.mem_cons.mp hx with stop | hello
    · exact .inl stop
    · exact .inr ⟨_, List.mem_singleton.mp hello⟩
  | transportDisconnected => exact .inl (List.mem_singleton.mp hx)
  | pingRequest drawn =>
    simp only [LogicClient.doStep, LogicClient.handlePingRequest] at hx
    split_ifs at hx
    · cases hx
    · exact .inr ⟨_, List.mem_singleton.mp hx⟩
  | messageReceived message =>
    cases message with
    | hello hello =>
      change x ∈ (LogicClient.handleHelloMessage s hello).2 at hx
      by_cases hv : hello.protocolVersion = PROTOCOL_VERSION
      · rw [LogicClient.handleHelloMessage_current s hello hv] at hx
        rcases List.mem_append.mp hx with answer | start
        · split_ifs at answer
          · exact .inr ⟨_, List.mem_singleton.mp answer⟩
          · cases answer
        · split_ifs at start
          · exact .inr ⟨_, List.mem_singleton.mp start⟩
          · cases start
      · rw [LogicClient.handleHelloMessage_other s hello hv] at hx
        exact .inr ⟨_, List.mem_singleton.mp hx⟩
    | error _ | cpuSample _ | pong _ => cases hx
    | capabilitySet _ | telemetryStart _ | ping _ => exact .inr ⟨_, List.mem_singleton.mp hx⟩

theorem client_posts {zpp : ZppBits} (documented : zpp.Documented) (s : ClientState)
    (event : ClientEvent) :
    (clientController zpp).posts (LogicClient.doStep s event).2 =
      (clientMessages (LogicClient.doStep s event).2).map sendOf := by
  apply posts_sendOf _ documented ClientEffect.message?
  · rintro (m | _ | _ | _) message same <;> cases same
    rfl
  · intro x hx message call handled
    rcases client_effects s event x hx with rfl | ⟨m, rfl⟩
    · cases handled
    · cases message
  · exact client_messages_fit s event

/-! ## The deployment refines the machines and their channels -/

/-- A channel above: what is under way, or nothing where nothing is kept for the receiver. -/
structure Underway (live : Bool) (calls : List TransportCall) (channelOpen : Bool)
    (wire : List Buffer) (channel : List Message) : Prop where
  kept : live = true → Outbound calls channelOpen wire channel
  gone : live = false → channel = []

namespace Underway

variable {live : Bool} {calls : List TransportCall} {channelOpen : Bool} {wire : List Buffer}
  {channel : List Message}

theorem of_outbound (h : Outbound calls channelOpen wire channel) :
    Underway true calls channelOpen wire channel := ⟨fun _ => h, nofun⟩

theorem nothing (live channelOpen : Bool) : Underway live [] channelOpen [] [] :=
  ⟨fun _ => .nothing channelOpen, fun _ => rfl⟩

theorem map (h : Underway live calls channelOpen wire channel) {calls' : List TransportCall}
    {wire' : List Buffer}
    (onwards : Outbound calls channelOpen wire channel → Outbound calls' channelOpen wire' channel) :
    Underway live calls' channelOpen wire' channel :=
  ⟨fun here => onwards (h.kept here), h.gone⟩

theorem grows {policy : Policy} {up : Bool}
    (h : Underway (policy.live up) calls channelOpen wire channel) {sent : List Message}
    (fit : ∀ m ∈ sent, m.TextFits) :
    Underway (policy.live up) (calls ++ sent.map sendOf) channelOpen wire
      (channel ++ policy.carries up sent) := by
  constructor
  · intro here
    rw [carries_live here]
    exact (h.kept here).grows fit
  · intro here
    rw [carries_dead here, List.append_nil]
    exact h.gone here

end Underway

/-- The machines above are those below once they have handled all that has been reported;
    the channels above hold what is in flight and what the executors will still send. -/
structure Refines (policy : Policy) (zpp : ZppBits) (d : Deployment) (w : System) : Prop where
  client : w.client = ((clientController zpp).future d.client).1
  server : w.server = ((serverController zpp).future d.server).1
  toServer : Underway (policy.live d.serverOpen) ((clientController zpp).future d.client).2
    d.clientOpen d.toServer w.toServer
  toClient : Underway (policy.live d.clientOpen) ((serverController zpp).future d.server).2
    d.serverOpen d.toClient w.toClient
  clientUp : w.clientUp = d.clientOpen
  serverUp : w.serverUp = d.serverOpen
  clientDrawn : w.clientDrawn = d.clientDrawn
  serverDrawn : w.serverDrawn = d.serverDrawn
  clientSafe : (clientController zpp).AbortsLast d.client.effects
  serverSafe : (serverController zpp).AbortsLast d.server.effects

section
variable {policy : Policy} {zpp : ZppBits} {d d' : Deployment} {w : System}

/-- A callback of the client's that decodes is a step of its machine above. -/
theorem Refines.clientArrives (documented : zpp.Documented) (h : Refines policy zpp d w)
    (callback : ClientCallback) {event : ClientEvent}
    (decoded : clientEvent? zpp callback = some event) :
    Refines policy zpp { d with client := d.client.arrive callback }
      (w.clientStep policy event) := by
  have ahead := (clientController zpp).future_arrive d.client callback
  have decoded' : (clientController zpp).decode callback = some event := decoded
  rw [decoded'] at ahead
  have grown := h.toServer.grows (client_messages_fit w.client event)
  rw [← client_posts documented w.client event, ← h.serverUp] at grown
  exact { h with
    client := by rw [ahead, ← h.client]; rfl
    toServer := by rw [ahead, ← h.client, ← h.serverUp]; exact grown }

theorem Refines.serverArrives (documented : zpp.Documented) (h : Refines policy zpp d w)
    (callback : ServerCallback) {event : ServerEvent}
    (decoded : serverEvent? zpp callback = some event) :
    Refines policy zpp { d with server := d.server.arrive callback }
      (w.serverStep policy event) := by
  have ahead := (serverController zpp).future_arrive d.server callback
  have decoded' : (serverController zpp).decode callback = some event := decoded
  rw [decoded'] at ahead
  have grown := h.toClient.grows (server_messages_fit w.server event)
  rw [← server_posts documented w.server event, ← h.clientUp] at grown
  exact { h with
    server := by rw [ahead, ← h.server]; rfl
    toClient := by rw [ahead, ← h.server, ← h.clientUp]; exact grown }

/-- A step of the client's executor is none above. -/
theorem Refines.clientRuns (documented : zpp.Documented) (h : Refines policy zpp d w)
    {client' : ClientLoop} {out : Option TransportCall}
    (exec : Exec (clientController zpp) d.client out client') {toServer : List Buffer}
    (outbound : ∀ calls, Outbound (out.toList ++ calls) d.clientOpen d.toServer w.toServer →
      Outbound calls d.clientOpen toServer w.toServer) :
    Refines policy zpp { d with client := client', toServer := toServer } w := by
  obtain ⟨state, _, outputs⟩ := (clientController zpp).exec_future exec
  have waiting := h.toServer
  rw [outputs h.clientSafe] at waiting
  exact { h with
    client := h.client.trans state.symm
    toServer := waiting.map (outbound _)
    clientSafe := (clientController zpp).exec_abortsLast (clientController_careful documented)
      exec h.clientSafe }

theorem Refines.serverRuns (documented : zpp.Documented) (h : Refines policy zpp d w)
    {server' : ServerLoop} {out : Option TransportCall}
    (exec : Exec (serverController zpp) d.server out server') {toClient : List Buffer}
    (outbound : ∀ calls, Outbound (out.toList ++ calls) d.serverOpen d.toClient w.toClient →
      Outbound calls d.serverOpen toClient w.toClient) :
    Refines policy zpp { d with server := server', toClient := toClient } w := by
  obtain ⟨state, _, outputs⟩ := (serverController zpp).exec_future exec
  have waiting := h.toClient
  rw [outputs h.serverSafe] at waiting
  exact { h with
    server := h.server.trans state.symm
    toClient := waiting.map (outbound _)
    serverSafe := (serverController zpp).exec_abortsLast (serverController_careful documented)
      exec h.serverSafe }

theorem Refines.executes (documented : zpp.Documented) (h : Refines policy zpp d w)
    (step : Executes zpp d d') : Refines policy zpp d' w := by
  cases step with
  | client client' exec => exact h.clientRuns documented exec fun _ same => same
  | server server' exec => exact h.serverRuns documented exec fun _ same => same
  | clientSends client' bytes exec =>
    exact h.clientRuns documented exec fun _ waiting => waiting.sends
  | serverSends server' bytes exec =>
    exact h.serverRuns documented exec fun _ waiting => waiting.sends
  | clientCloses client' exec =>
    exact h.clientRuns documented exec fun _ waiting => waiting.no_close.elim

theorem live_open (policy : Policy) {channelOpen : Bool} (here : channelOpen = true) :
    policy.live channelOpen = true := by
  rw [here, live_up]

theorem Refines.delivers (documented : zpp.Documented) (h : Refines policy zpp d w)
    (step : Delivers d d') : ∃ w', Delivery policy w w' ∧ Refines policy zpp d' w' := by
  cases step with
  | toClient bytes rest channelOpen head =>
    have waiting := h.toClient
    rw [head, live_open policy channelOpen] at waiting
    obtain ⟨m, channel, above, fits, rfl, taken⟩ := (waiting.kept rfl).taken
    have received : clientEvent? zpp (.bytes (messageWire.write m)) = some (.messageReceived m) := by
      rw [clientEvent?, received?_write documented fits]
      rfl
    have before : Refines policy zpp { d with toClient := rest } { w with toClient := channel } :=
      { h with toClient := by rw [live_open policy channelOpen]; exact .of_outbound taken }
    exact ⟨_, .toClient w m channel above, before.clientArrives documented _ received⟩
  | toServer bytes rest channelOpen head =>
    have waiting := h.toServer
    rw [head, live_open policy channelOpen] at waiting
    obtain ⟨m, channel, above, fits, rfl, taken⟩ := (waiting.kept rfl).taken
    have received : serverEvent? zpp (.bytes (messageWire.write m)) = some (.messageReceived m) := by
      rw [serverEvent?, received?_write documented fits]
      rfl
    have before : Refines policy zpp { d with toServer := rest } { w with toServer := channel } :=
      { h with toServer := by rw [live_open policy channelOpen]; exact .of_outbound taken }
    exact ⟨_, .toServer w m channel above, before.serverArrives documented _ received⟩

end

/-! ## Lossy channels -/

section
variable {zpp : ZppBits} {d d' : Deployment} {w : System}

theorem Refines.cutClient (h : Refines .lossy zpp d w) (up : Bool) {toServer toClient : List Buffer}
    (server : toServer.Sublist d.toServer) (client : toClient.Sublist d.toClient) :
    ∃ toServer' toClient', toServer'.Sublist w.toServer ∧ toClient'.Sublist w.toClient ∧
      Refines .lossy zpp { d with toServer := toServer, toClient := toClient, clientOpen := up }
        { w with toServer := toServer', toClient := toClient', clientUp := up } := by
  obtain ⟨toServer', keptServer, outbound⟩ := (h.toServer.kept rfl).cut server up
  obtain ⟨toClient', keptClient, inbound⟩ := (h.toClient.kept rfl).cut client d.serverOpen
  exact ⟨toServer', toClient', keptServer, keptClient,
    { h with
      toServer := .of_outbound outbound, toClient := .of_outbound inbound, clientUp := rfl }⟩

theorem Refines.cutServer (h : Refines .lossy zpp d w) (up : Bool) {toServer toClient : List Buffer}
    (server : toServer.Sublist d.toServer) (client : toClient.Sublist d.toClient) :
    ∃ toServer' toClient', toServer'.Sublist w.toServer ∧ toClient'.Sublist w.toClient ∧
      Refines .lossy zpp { d with toServer := toServer, toClient := toClient, serverOpen := up }
        { w with toServer := toServer', toClient := toClient', serverUp := up } := by
  obtain ⟨toServer', keptServer, outbound⟩ := (h.toServer.kept rfl).cut server d.clientOpen
  obtain ⟨toClient', keptClient, inbound⟩ := (h.toClient.kept rfl).cut client up
  exact ⟨toServer', toClient', keptServer, keptClient,
    { h with
      toServer := .of_outbound outbound, toClient := .of_outbound inbound, serverUp := rfl }⟩

theorem Refines.disconnects (documented : zpp.Documented)
    (h : Refines .lossy zpp { d with serverOpen := false } { w with serverUp := false })
    {toServer toClient : List Buffer} (server : toServer.Sublist d.toServer)
    (client : toClient.Sublist d.toClient) :
    ∃ w', Relation.ReflTransGen (SessionSystem.Step .lossy) w w' ∧
      Refines .lossy zpp
        { d with
          serverOpen := false, toServer := toServer, toClient := toClient
          server := d.server.arrive .disconnected } w' := by
  obtain ⟨toServer', toClient', keptServer, keptClient, cut⟩ := h.cutServer false server client
  exact ⟨_, .single (.serverDisconnected w toServer' toClient' keptServer keptClient),
    cut.serverArrives documented .disconnected rfl⟩

theorem Refines.closes (documented : zpp.Documented) (h : Refines .lossy zpp d w)
    {toServer toClient : List Buffer} (server : toServer.Sublist d.toServer)
    (client : toClient.Sublist d.toClient) :
    ∃ w', Relation.ReflTransGen (SessionSystem.Step .lossy) w w' ∧
      Refines .lossy zpp (d.closeChannel toServer toClient) w' := by
  unfold Deployment.closeChannel
  split_ifs
  · have closed : Refines .lossy zpp { d with serverOpen := false } { w with serverUp := false } :=
      { h with toClient := .of_outbound (h.toClient.kept rfl).closed, serverUp := rfl }
    exact closed.disconnects documented server client
  · exact ⟨w, .refl, h⟩

theorem Refines.changes (documented : zpp.Documented) (h : Refines .lossy zpp d w)
    (step : Changes zpp d d') :
    ∃ w', Relation.ReflTransGen (SessionSystem.Step .lossy) w w' ∧ Refines .lossy zpp d' w' := by
  cases step with
  | clientConnected drawn toServer toClient unreserved fresh server client =>
    obtain ⟨toServer', toClient', keptServer, keptClient, cut⟩ := h.cutClient true server client
    have unreserved' : drawn ∉ Policy.lossy.reserved := fun known =>
      unreserved (List.mem_singleton.mp known)
    have fresh' : drawn ∉ w.clientDrawn := h.clientDrawn ▸ fresh
    have noted : Refines .lossy zpp
        { d with
          toServer := toServer, toClient := toClient, clientOpen := true
          clientDrawn := drawn :: d.clientDrawn }
        { w with
          toServer := toServer', toClient := toClient', clientUp := true
          clientDrawn := drawn :: w.clientDrawn } :=
      { cut with clientDrawn := congrArg (drawn :: ·) h.clientDrawn }
    exact ⟨_, .single (.clientConnected w drawn toServer' toClient' unreserved' fresh' keptServer
      keptClient), noted.clientArrives documented (.connected drawn) rfl⟩
  | clientDisconnected toServer toClient server client =>
    obtain ⟨toServer', toClient', keptServer, keptClient, cut⟩ := h.cutClient false server client
    exact ⟨_, .single (.clientDisconnected w toServer' toClient' keptServer keptClient),
      cut.clientArrives documented .disconnected rfl⟩
  | serverConnected drawn toServer toClient closed unreserved fresh server client =>
    obtain ⟨toServer', toClient', keptServer, keptClient, cut⟩ := h.cutServer true server client
    have unreserved' : drawn ∉ Policy.lossy.reserved := fun known =>
      unreserved (List.mem_singleton.mp known)
    have fresh' : drawn ∉ w.serverDrawn := h.serverDrawn ▸ fresh
    have noted : Refines .lossy zpp
        { d with
          toServer := toServer, toClient := toClient, serverOpen := true
          serverDrawn := drawn :: d.serverDrawn }
        { w with
          toServer := toServer', toClient := toClient', serverUp := true
          serverDrawn := drawn :: w.serverDrawn } :=
      { cut with serverDrawn := congrArg (drawn :: ·) h.serverDrawn }
    exact ⟨_, .single (.serverConnected w drawn toServer' toClient' unreserved' fresh' keptServer
      keptClient), noted.serverArrives documented (.connected drawn) rfl⟩
  | serverReadFails toServer toClient server client => exact h.closes documented server client
  | serverWriteFails server' bytes toServer toClient channelOpen exec server client =>
    obtain ⟨state, _, outputs⟩ := (serverController zpp).exec_future exec
    have waiting := h.toClient.kept rfl
    rw [outputs h.serverSafe] at waiting
    -- The buffer is neither written nor kept, and the channel closes.
    have failed : Refines .lossy zpp { d with server := server', serverOpen := false }
        { w with serverUp := false } :=
      { h with
        server := h.server.trans state.symm
        toClient := .of_outbound waiting.drops
        serverUp := rfl
        serverSafe := (serverController zpp).exec_abortsLast
          (serverController_careful documented) exec h.serverSafe }
    unfold Deployment.closeChannel
    rw [if_pos channelOpen]
    exact failed.disconnects documented server client
  | serverCloses server' toServer toClient exec server client =>
    have made : Refines .lossy zpp { d with server := server' } w :=
      h.serverRuns documented exec fun _ waiting => waiting.no_close.elim
    exact made.closes documented server client

end

end RdpExt.DeployedSession
