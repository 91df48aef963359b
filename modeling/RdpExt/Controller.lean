import RdpExt.DeferredOutput
import RdpExt.LogicServer
import RdpExt.LogicClient
import RdpExt.ProtocolSerializer

set_option autoImplicit false

/-!
# The controllers: `server/controller.h`, `client/controller.h`

Every transport or telemetry callback posts a task to the executor. The task lets
the machine step and handles the effects; a message is serialized there and then,
and sent by a task of its own. An exception ends the task it was thrown in.
-/
namespace RdpExt.Controller
open ProtocolMessage ProtocolSerializer LogicEvents DeferredOutput
open LogicServer (ServerState)
open LogicClient (ClientState)

/-- What a posted task calls on the transport. -/
inductive TransportCall where
  | send (bytes : Buffer)
  | close
  deriving DecidableEq, Repr

/-- The value drawn while a connect is handled comes with it. -/
inductive ServerCallback where
  | connected (drawn : InstanceId)
  | disconnected
  | bytes (data : Buffer)
  | sample (sample : CpuSample)
  deriving DecidableEq, Repr

inductive ClientCallback where
  | connected (drawn : InstanceId)
  | disconnected
  | bytes (data : Buffer)
  deriving DecidableEq, Repr

def received? (zpp : ZppBits) (data : Buffer) : Option Message :=
  match Serializer.deserialize zpp data with
  | .ok message => some message
  | .error _ => none

def serverEvent? (zpp : ZppBits) : ServerCallback → Option ServerEvent
  | .connected drawn => some (.transportConnected drawn)
  | .disconnected => some .transportDisconnected
  | .bytes data => (received? zpp data).map .messageReceived
  | .sample sample => some (.cpuSampleReady sample)

def clientEvent? (zpp : ZppBits) : ClientCallback → Option ClientEvent
  | .connected drawn => some (.transportConnected drawn)
  | .disconnected => some .transportDisconnected
  | .bytes data => (received? zpp data).map .messageReceived

def handleSendMessage (zpp : ZppBits) (message : Message) : Handling TransportCall :=
  match Serializer.serialize zpp message with
  | .ok bytes => .posts (.send bytes)
  | .error _ => .throws

/-- `telemetry_.start()` reads the sampler, which may throw. -/
def handleServerEffect (zpp : ZppBits) : ServerEffect → Handling TransportCall
  | .sendMessage message => handleSendMessage zpp message
  | .startTelemetryTimer => .mayThrow
  | .stopTelemetryTimer => .direct
  | .closeTransport => .posts .close

def handleClientEffect (zpp : ZppBits) : ClientEffect → Handling TransportCall
  | .sendMessage message => handleSendMessage zpp message
  | .startPing => .direct
  | .stopPing => .direct
  | .closeTransport => .posts .close

def serverController (zpp : ZppBits) :
    Wiring ServerCallback ServerState ServerEvent ServerEffect TransportCall where
  decode := serverEvent? zpp
  react := LogicServer.doStep
  handle := handleServerEffect zpp

def clientController (zpp : ZppBits) :
    Wiring ClientCallback ClientState ClientEvent ClientEffect TransportCall where
  decode := clientEvent? zpp
  react := LogicClient.doStep
  handle := handleClientEffect zpp

def TransportCall.sent? : TransportCall → Option Buffer
  | .send bytes => some bytes
  | .close => none

/-- The buffers passed to `transport.send`, in order. -/
def sentBuffers (calls : List TransportCall) : List Buffer := calls.filterMap TransportCall.sent?

@[simp] theorem sentBuffers_send (bytes : Buffer) (calls : List TransportCall) :
    sentBuffers (.send bytes :: calls) = bytes :: sentBuffers calls := rfl

@[simp] theorem sentBuffers_close (calls : List TransportCall) :
    sentBuffers (.close :: calls) = sentBuffers calls := rfl

theorem server_messages_fit (s : ServerState) (event : ServerEvent) :
    ∀ m ∈ serverMessages (LogicServer.doStep s event).2, m.TextFits := by
  intro m hm
  obtain ⟨x, hx, sent⟩ := List.mem_filterMap.mp hm
  rcases LogicServer.doStep_effects s event with alone | others
  · rw [alone] at hx
    rw [List.mem_singleton.mp hx] at sent
    cases sent
  · rcases others x hx with rfl | ⟨message, rfl, fits⟩
    · cases sent
    · cases sent
      exact fits

theorem client_messages_fit (s : ClientState) (event : ClientEvent) :
    ∀ m ∈ clientMessages (LogicClient.doStep s event).2, m.TextFits := by
  intro m hm
  cases event with
  | transportConnected drawn =>
    rw [List.mem_singleton.mp hm]
    trivial
  | transportDisconnected => cases hm
  | pingRequest drawn =>
    simp only [LogicClient.doStep, LogicClient.handlePingRequest] at hm
    split_ifs at hm
    · cases hm
    · rw [List.mem_singleton.mp hm]
      trivial
  | messageReceived message =>
    cases message with
    | hello hello =>
      change m ∈ clientMessages (LogicClient.handleHelloMessage s hello).2 at hm
      by_cases hv : hello.protocolVersion = PROTOCOL_VERSION
      · rw [LogicClient.handleHelloMessage_current s hello hv, clientMessages_append] at hm
        rcases List.mem_append.mp hm with hm | hm
        · split_ifs at hm
          · rw [List.mem_singleton.mp hm]
            trivial
          · cases hm
        · split_ifs at hm
          · rw [List.mem_singleton.mp hm]
            trivial
          · cases hm
      · rw [LogicClient.handleHelloMessage_other s hello hv] at hm
        rw [List.mem_singleton.mp hm]
        decide
    | error _ | cpuSample _ | pong _ => cases hm
    | capabilitySet _ | telemetryStart _ | ping _ =>
      rw [List.mem_singleton.mp hm]
      decide

section
variable {κ σ ε ω : Type} (w : Wiring κ σ ε ω TransportCall)

theorem abortsLast_of_sure {effects : List ω}
    (sure : ∀ x ∈ effects, w.handle x ≠ .throws ∧ w.handle x ≠ .mayThrow) :
    w.AbortsLast effects := by
  induction effects with
  | nil => trivial
  | cons x xs ih =>
    have here := sure x List.mem_cons_self
    refine ⟨fun thrown => ?_, ih fun y hy => sure y (List.mem_cons_of_mem _ hy)⟩
    rcases thrown with thrown | thrown
    · exact absurd thrown here.1
    · exact absurd thrown here.2

/-- What is posted for effects whose messages all serialize. -/
theorem sentBuffers_posts {zpp : ZppBits} (documented : zpp.Documented) (message? : ω → Option Message)
    (sends : ∀ x m, message? x = some m → w.handle x = handleSendMessage zpp m)
    (other : ∀ x, message? x = none → ∀ bytes, w.handle x ≠ .posts (.send bytes))
    {effects : List ω} (fit : ∀ m ∈ effects.filterMap message?, m.TextFits) :
    List.Forall₂ (fun m bytes => Serializer.serialize zpp m = .ok bytes)
      (effects.filterMap message?) (sentBuffers (w.posts effects)) := by
  induction effects with
  | nil => exact .nil
  | cons x xs ih =>
    cases message : message? x with
    | none =>
      have quiet : sentBuffers (w.posts (x :: xs)) = sentBuffers (w.posts xs) := by
        by_cases close : w.handle x = .posts .close
        · rw [w.posts_cons_of_posts close, sentBuffers_close]
        · rw [w.posts_cons_of_quiet]
          intro call handled
          cases call with
          | send bytes => exact other x message bytes handled
          | close => exact close handled
      rw [List.filterMap_cons_none message, quiet]
      rw [List.filterMap_cons_none message] at fit
      exact ih fit
    | some m =>
      rw [List.filterMap_cons_some message] at fit ⊢
      have encoded := serialize_documented documented (fit m List.mem_cons_self)
      have handled : w.handle x = .posts (.send (messageWire.write m)) := by
        rw [sends x m message, handleSendMessage, encoded]
      rw [w.posts_cons_of_posts handled, sentBuffers_send]
      exact .cons encoded (ih fun m hm => fit m (List.mem_cons_of_mem _ hm))

theorem run_messages_fit (message? : ω → Option Message)
    (fit : ∀ s event, ∀ m ∈ (w.react s event).2.filterMap message?, m.TextFits) (s : σ)
    (events : List ε) : ∀ m ∈ (w.run s events).2.filterMap message?, m.TextFits := by
  induction events generalizing s with
  | nil =>
    intro m hm
    cases hm
  | cons event events ih =>
    intro m hm
    rw [Wiring.run, List.filterMap_append] at hm
    rcases List.mem_append.mp hm with hm | hm
    · exact fit s event m hm
    · exact ih _ m hm

end

theorem handleSendMessage_sure {zpp : ZppBits} (documented : zpp.Documented) {m : Message}
    (fits : m.TextFits) :
    handleSendMessage zpp m ≠ .throws ∧ handleSendMessage zpp m ≠ .mayThrow := by
  rw [handleSendMessage, serialize_documented documented fits]
  exact ⟨nofun, nofun⟩

/-- The one effect that may throw comes alone. -/
theorem serverController_careful {zpp : ZppBits} (documented : zpp.Documented) :
    (serverController zpp).Careful := by
  intro s event
  change (serverController zpp).AbortsLast (LogicServer.doStep s event).2
  rcases LogicServer.doStep_effects s event with alone | others
  · rw [alone]
    exact ⟨fun _ => rfl, trivial⟩
  · apply abortsLast_of_sure
    intro x hx
    rcases others x hx with rfl | ⟨m, rfl, fits⟩
    · exact ⟨nofun, nofun⟩
    · exact handleSendMessage_sure documented fits

theorem clientController_careful {zpp : ZppBits} (documented : zpp.Documented) :
    (clientController zpp).Careful := by
  intro s event
  apply abortsLast_of_sure
  intro x hx
  cases x with
  | sendMessage m =>
    apply handleSendMessage_sure documented
    apply client_messages_fit s event
    exact List.mem_filterMap.mpr ⟨_, hx, rfl⟩
  | startPing | stopPing | closeTransport => exact ⟨nofun, nofun⟩

theorem server_sent {zpp : ZppBits} (documented : zpp.Documented) (s : ServerState)
    (events : List ServerEvent) :
    List.Forall₂ (fun m bytes => Serializer.serialize zpp m = .ok bytes)
      (serverMessages ((serverController zpp).run s events).2)
      (sentBuffers ((serverController zpp).posts ((serverController zpp).run s events).2)) := by
  apply sentBuffers_posts _ documented ServerEffect.message?
  · rintro (m | _ | _ | _) message same <;> cases same
    rfl
  · rintro (m | _ | _ | _) message bytes handled <;> cases message <;> cases handled
  · exact run_messages_fit _ _ server_messages_fit s events

theorem client_sent {zpp : ZppBits} (documented : zpp.Documented) (s : ClientState)
    (events : List ClientEvent) :
    List.Forall₂ (fun m bytes => Serializer.serialize zpp m = .ok bytes)
      (clientMessages ((clientController zpp).run s events).2)
      (sentBuffers ((clientController zpp).posts ((clientController zpp).run s events).2)) := by
  apply sentBuffers_posts _ documented ClientEffect.message?
  · rintro (m | _ | _ | _) message same <;> cases same
    rfl
  · rintro (m | _ | _ | _) message bytes handled <;> cases message <;> cases handled
  · exact run_messages_fit _ _ client_messages_fit s events

/-- Whatever the order of callbacks and executor steps: once the queue is drained,
    the buffers sent are the messages of the machine alone, run over the callbacks
    that decode, serialized in order. -/
theorem controllers_refine_machines (zpp : ZppBits) (documented : zpp.Documented) :
    (∀ r, Record.Reachable (serverController zpp) {} r →
      r.loop.effects = [] → r.loop.queue = [] →
      r.loop.machine =
          ((serverController zpp).run {} (r.arrived.filterMap (serverEvent? zpp))).1 ∧
        List.Forall₂ (fun m bytes => Serializer.serialize zpp m = .ok bytes)
          (serverMessages
            ((serverController zpp).run {} (r.arrived.filterMap (serverEvent? zpp))).2)
          (sentBuffers r.done)) ∧
    (∀ r, Record.Reachable (clientController zpp) {} r →
      r.loop.effects = [] → r.loop.queue = [] →
      r.loop.machine =
          ((clientController zpp).run {} (r.arrived.filterMap (clientEvent? zpp))).1 ∧
        List.Forall₂ (fun m bytes => Serializer.serialize zpp m = .ok bytes)
          (clientMessages
            ((clientController zpp).run {} (r.arrived.filterMap (clientEvent? zpp))).2)
          (sentBuffers r.done)) := by
  constructor
  · intro r reachable idle empty
    obtain ⟨state, outputs⟩ := reachable.drained (serverController_careful documented) idle empty
    refine ⟨state, ?_⟩
    rw [outputs]
    exact server_sent documented {} _
  · intro r reachable idle empty
    obtain ⟨state, outputs⟩ := reachable.drained (clientController_careful documented) idle empty
    refine ⟨state, ?_⟩
    rw [outputs]
    exact client_sent documented {} _

/-- A connect and an empty buffer that came before its Hello was sent. -/
def helloRecord : Record ServerCallback ServerState ServerEffect TransportCall where
  loop := { machine := (LogicServer.handleTransportConnected {} ⟨1, 1⟩).1 }
  arrived := [.connected ⟨1, 1⟩, .bytes []]
  done := [.send (messageWire.write (MessageFactory.makeHello ⟨1, 1⟩))]

theorem helloRecord_reachable : Record.Reachable (serverController layoutArchives) {} helloRecord :=
  Relation.ReflTransGen.refl
    |>.tail (.arrive _ (.connected ⟨1, 1⟩))
    |>.tail (.arrive _ (.bytes []))
    |>.tail (.exec _ none _ (.input _ (.connected ⟨1, 1⟩) [.input (.bytes [])] _ rfl rfl rfl))
    |>.tail (.exec _ none _ (.performed _ .stopTelemetryTimer _ rfl (.inl rfl)))
    |>.tail (.exec _ none _ (.posted _ _ [] _ rfl rfl))
    |>.tail (.exec _ none _ (.rejected _ (.bytes []) _ rfl rfl rfl))
    |>.tail (.exec _ (some _) _ (.output _ _ [] rfl rfl))

theorem controllers_refine_machines_hello :
    List.Forall₂ (fun m bytes => Serializer.serialize layoutArchives m = .ok bytes)
      [MessageFactory.makeHello ⟨1, 1⟩] (sentBuffers helloRecord.done) :=
  ((controllers_refine_machines layoutArchives layoutArchives_documented).1 helloRecord
    helloRecord_reachable rfl rfl).2

end RdpExt.Controller
