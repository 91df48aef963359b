import RdpExt.SessionParties
import RdpExt.TraceInvariant

set_option autoImplicit false

/-!
# What `connection_state` says

Both machines keep it beside the handshake record and write it at transport events
only. A handshake that completes leaves it where it is.
-/
namespace RdpExt.ConnectionStates
open ProtocolMessage LogicStates LogicEvents TraceInvariant SessionParties
open LogicServer (ServerState)
open LogicClient (ClientState)

/-- An event as far as either record sees it. -/
inductive LinkEvent where
  | connected
  | disconnected
  | received (message : Message)
  | other
  deriving DecidableEq, Repr

def LinkEvent.connectionState (now : ConnectionState) : LinkEvent → ConnectionState
  | .connected => .awaitingHandshake
  | .disconnected => .disconnected
  | _ => now

def LinkEvent.handshakeState (h : HandshakeState) : LinkEvent → HandshakeState
  | .connected => h.reset.localHelloSent
  | .disconnected => h.reset
  | .received message => after h message
  | .other => h

/-- The latest transport event is TransportConnected. -/
def LinkEvent.isConnected (before : Bool) : LinkEvent → Bool
  | .connected => true
  | .disconnected => false
  | _ => before

/-- What the two machines have in common here. -/
structure Machine (σ ε : Type) where
  doStep : σ → ε → σ
  connectionState : σ → ConnectionState
  handshakeState : σ → HandshakeState
  linkEvent : ε → LinkEvent
  messageReceived : Message → ε
  linkEvent_messageReceived : ∀ message, linkEvent (messageReceived message) = .received message
  connectionState_doStep : ∀ s event,
    connectionState (doStep s event) = (linkEvent event).connectionState (connectionState s)
  handshakeState_doStep : ∀ s event,
    handshakeState (doStep s event) = (linkEvent event).handshakeState (handshakeState s)

def serverLinkEvent : ServerEvent → LinkEvent
  | .transportConnected _ => .connected
  | .transportDisconnected => .disconnected
  | .messageReceived message => .received message
  | .cpuSampleReady _ => .other

def clientLinkEvent : ClientEvent → LinkEvent
  | .transportConnected _ => .connected
  | .transportDisconnected => .disconnected
  | .messageReceived message => .received message
  | .pingRequest _ => .other

/-- No message moves `connection_state`. -/
theorem server_connectionState_received (s : ServerState) (message : Message) :
    (LogicServer.doStep s (.messageReceived message)).1.connectionState = s.connectionState := by
  cases message with
  | hello m =>
    change (LogicServer.handleHelloMessage s m).1.connectionState = _
    by_cases hv : m.protocolVersion = PROTOCOL_VERSION
    · rw [LogicServer.handleHelloMessage_current s m hv]
    · rw [LogicServer.handleHelloMessage_other s m hv]
  | _ => rfl

theorem client_connectionState_received (s : ClientState) (message : Message) :
    (LogicClient.doStep s (.messageReceived message)).1.connectionState = s.connectionState := by
  cases message with
  | hello m =>
    change (LogicClient.handleHelloMessage s m).1.connectionState = _
    by_cases hv : m.protocolVersion = PROTOCOL_VERSION
    · rw [LogicClient.handleHelloMessage_current s m hv]
    · rw [LogicClient.handleHelloMessage_other s m hv]
  | _ => rfl

def serverMachine : Machine ServerState ServerEvent where
  doStep s event := (LogicServer.doStep s event).1
  connectionState := ServerState.connectionState
  handshakeState := ServerState.handshakeState
  linkEvent := serverLinkEvent
  messageReceived := .messageReceived
  linkEvent_messageReceived _ := rfl
  connectionState_doStep s event := by
    cases event with
    | transportConnected drawn | transportDisconnected => rfl
    | messageReceived message => exact server_connectionState_received s message
    | cpuSampleReady sample => rw [(server_sample s sample).1]; rfl
  handshakeState_doStep s event := by
    cases event with
    | transportConnected drawn | transportDisconnected => rfl
    | messageReceived message => exact server_record s message
    | cpuSampleReady sample => rw [(server_sample s sample).1]; rfl

def clientMachine : Machine ClientState ClientEvent where
  doStep s event := (LogicClient.doStep s event).1
  connectionState := ClientState.connectionState
  handshakeState := ClientState.handshakeState
  linkEvent := clientLinkEvent
  messageReceived := .messageReceived
  linkEvent_messageReceived _ := rfl
  connectionState_doStep s event := by
    cases event with
    | transportConnected drawn | transportDisconnected => rfl
    | messageReceived message => exact client_connectionState_received s message
    | pingRequest drawn => rw [(client_ping s drawn).1]; rfl
  handshakeState_doStep s event := by
    cases event with
    | transportConnected drawn | transportDisconnected => rfl
    | messageReceived message => exact client_record s message
    | pingRequest drawn => rw [(client_ping s drawn).1]; rfl

structure Tracked (σ : Type) where
  machine : σ
  connected : Bool := false

section
variable {σ ε : Type} (m : Machine σ ε)

def trackedStep (t : Tracked σ) (event : ε) : Tracked σ where
  machine := m.doStep t.machine event
  connected := (m.linkEvent event).isConnected t.connected

/-- Active once the handshake is complete and AwaitingHandshake before, as long as the
    side is connected; Disconnected otherwise, and then no message completes it. -/
structure Truthful (t : Tracked σ) : Prop where
  active : m.connectionState t.machine = .active ↔
    (m.handshakeState t.machine).isCompleted = true
  awaiting : m.connectionState t.machine = .awaitingHandshake ↔
    t.connected = true ∧ (m.handshakeState t.machine).isCompleted = false
  disconnected : m.connectionState t.machine = .disconnected → t.connected = false ∧
    ∀ message, (m.handshakeState (m.doStep t.machine (m.messageReceived message))).isCompleted =
      false

/-- No Hello of the own version comes while the side is not connected, and none of the
    id heard last, which would complete the handshake. -/
def Unheard (t : Tracked σ) (event : ε) : Prop :=
  ∀ hello : HelloMessage, m.linkEvent event = .received (.hello hello) →
    hello.protocolVersion = PROTOCOL_VERSION →
      t.connected = true ∧ (m.handshakeState t.machine).remoteInstanceId ≠ some hello.instanceId

/-- What `connection_state` really says. -/
def Linked (t : Tracked σ) : Prop :=
  m.connectionState t.machine = if t.connected then .awaitingHandshake else .disconnected

theorem heard_pos_iff (h : HandshakeState) (id : InstanceId) :
    1 ≤ h.heard id ↔ h.remoteInstanceId = some id := by
  rw [Nat.one_le_iff_ne_zero, ne_eq, h.heard_eq_zero_iff, not_not]

/-- An open handshake is completed by the Hello of the id heard last, and by nothing else. -/
theorem isCompleted_after_iff {h : HandshakeState} (pending : h.isCompleted = false)
    (message : Message) : (after h message).isCompleted = true ↔
      ∃ hello : HelloMessage, message = .hello hello ∧
        hello.protocolVersion = PROTOCOL_VERSION ∧ h.remoteInstanceId = some hello.instanceId := by
  have stays : ¬ h.isCompleted = true := by
    rw [pending]
    exact Bool.false_ne_true
  cases message with
  | hello hello =>
    simp only [after]
    split_ifs with hv
    · rw [HandshakeState.isCompleted_localHelloSent,
        HandshakeState.isCompleted_remoteHelloReceived, heard_pos_iff]
      constructor
      · exact fun same => ⟨hello, rfl, hv, same⟩
      · rintro ⟨_, ⟨⟩, _, same⟩
        exact same
    · refine iff_of_false (by rw [HandshakeState.isCompleted_reset]; exact Bool.false_ne_true) ?_
      rintro ⟨_, ⟨⟩, current, _⟩
      exact hv current
  | _ =>
    refine iff_of_false stays ?_
    rintro ⟨_, ⟨⟩, _⟩

theorem linked_step (t : Tracked σ) (event : ε) (linked : Linked m t) :
    Linked m (trackedStep m t event) := by
  have next := m.connectionState_doStep t.machine event
  unfold Linked trackedStep at *
  simp only [next]
  cases m.linkEvent event with
  | connected | disconnected => rfl
  | received _ | other => exact linked

/-- The record is true just as long as nothing has been completed, nor could be where the
    side is not connected. -/
theorem truthful_iff {t : Tracked σ} (linked : Linked m t) : Truthful m t ↔
    (m.handshakeState t.machine).isCompleted = false ∧
      (t.connected = false → (m.handshakeState t.machine).remoteInstanceId = none) := by
  have received : ∀ message, m.handshakeState (m.doStep t.machine (m.messageReceived message)) =
      after (m.handshakeState t.machine) message := by
    intro message
    rw [m.handshakeState_doStep, m.linkEvent_messageReceived]
    rfl
  unfold Linked at linked
  constructor
  · intro truthful
    have pending : (m.handshakeState t.machine).isCompleted = false := by
      rw [Bool.eq_false_iff]
      intro completed
      have active := truthful.active.mpr completed
      rw [linked] at active
      split_ifs at active
    refine ⟨pending, fun down => ?_⟩
    have never := (truthful.disconnected (by rw [linked, down]; rfl)).2
    by_contra known
    obtain ⟨id, stored⟩ := Option.ne_none_iff_exists'.mp known
    have completed := (isCompleted_after_iff pending (MessageFactory.makeHello id)).mpr
      ⟨_, rfl, rfl, stored⟩
    rw [← received, never] at completed
    cases completed
  · rintro ⟨pending, unknown⟩
    refine ⟨?_, ?_, ?_⟩
    · rw [linked, pending]
      exact iff_of_false (by split_ifs <;> nofun) nofun
    · rw [linked, pending]
      cases t.connected <;> simp
    · intro disconnected
      have down : t.connected = false := by
        rw [linked] at disconnected
        split_ifs at disconnected with up
        exact Bool.eq_false_iff.mpr up
      refine ⟨down, fun message => ?_⟩
      rw [received, Bool.eq_false_iff]
      intro completed
      obtain ⟨hello, _, _, stored⟩ := (isCompleted_after_iff pending message).mp completed
      rw [unknown down] at stored
      cases stored

theorem truthful_step_iff (t : Tracked σ) (event : ε) (linked : Linked m t)
    (truthful : Truthful m t) : Truthful m (trackedStep m t event) ↔ Unheard m t event := by
  obtain ⟨pending, unknown⟩ := (truthful_iff m linked).mp truthful
  rw [truthful_iff m (linked_step m t event linked)]
  have next := m.handshakeState_doStep t.machine event
  unfold trackedStep Unheard
  simp only [next]
  cases m.linkEvent event with
  | connected => exact iff_of_true ⟨rfl, fun down => by cases down⟩ (by rintro _ ⟨⟩)
  | disconnected => exact iff_of_true ⟨rfl, fun _ => rfl⟩ (by rintro _ ⟨⟩)
  | other => exact iff_of_true ⟨pending, unknown⟩ (by rintro _ ⟨⟩)
  | received message =>
    cases message with
    | hello hello =>
      by_cases hv : hello.protocolVersion = PROTOCOL_VERSION
      · have completes := isCompleted_after_iff pending (.hello hello)
        have stored : (after (m.handshakeState t.machine) (.hello hello)).remoteInstanceId =
            some hello.instanceId := by
          rw [after, if_pos hv, HandshakeState.remoteInstanceId_localHelloSent,
            HandshakeState.remoteInstanceId_remoteHelloReceived]
        constructor
        · rintro ⟨open', forgotten⟩ _ ⟨⟩ _
          refine ⟨?_, fun known => ?_⟩
          · by_contra down
            have gone := forgotten (Bool.eq_false_iff.mpr down)
            exact Option.some_ne_none _ (stored.symm.trans gone)
          · have completed := completes.mpr ⟨hello, rfl, hv, known⟩
            exact Bool.eq_false_iff.mp open' completed
        · intro unheard
          obtain ⟨up, other⟩ := unheard hello rfl hv
          refine ⟨?_, fun down => absurd up (Bool.eq_false_iff.mp down)⟩
          rw [Bool.eq_false_iff]
          intro completed
          obtain ⟨_, ⟨⟩, _, known⟩ := completes.mp completed
          exact other known
      · have reset : after (m.handshakeState t.machine) (.hello hello) =
            (m.handshakeState t.machine).reset := by
          rw [after, if_neg hv]
        refine iff_of_true ?_ ?_
        · change (after _ (.hello hello)).isCompleted = false ∧
            (_ → (after _ (.hello hello)).remoteInstanceId = none)
          rw [reset]
          exact ⟨rfl, fun _ => rfl⟩
        · rintro _ ⟨⟩ current
          exact absurd current hv
    | _ => exact iff_of_true ⟨pending, unknown⟩ (by rintro _ ⟨⟩)

theorem truthful_throughout_iff {start : σ} (disconnected : m.connectionState start = .disconnected)
    (initial : m.handshakeState start = {}) (events : List ε) :
    Throughout (trackedStep m) (Truthful m) ⟨start, false⟩ events ↔
      EveryStep (trackedStep m) (Unheard m) ⟨start, false⟩ events := by
  have linked : Linked m ⟨start, false⟩ := disconnected
  have truthful : Truthful m ⟨start, false⟩ := by
    rw [truthful_iff m linked, initial]
    exact ⟨rfl, fun _ => rfl⟩
  exact throughout_iff_everyStep (Linked m) (linked_step m) (truthful_step_iff m) linked truthful
    events

end

/-- On either side `connection_state` tells the truth in exactly those runs where no
    Hello of the own version comes while the side is not connected, and no second one of
    an id completes the handshake. -/
theorem connection_state_truthful_iff (serverEvents : List ServerEvent)
    (clientEvents : List ClientEvent) :
    (Throughout (trackedStep serverMachine) (Truthful serverMachine) ⟨{}, false⟩ serverEvents ↔
      EveryStep (trackedStep serverMachine) (Unheard serverMachine) ⟨{}, false⟩ serverEvents) ∧
    (Throughout (trackedStep clientMachine) (Truthful clientMachine) ⟨{}, false⟩ clientEvents ↔
      EveryStep (trackedStep clientMachine) (Unheard clientMachine) ⟨{}, false⟩ clientEvents) :=
  ⟨truthful_throughout_iff serverMachine rfl rfl serverEvents,
    truthful_throughout_iff clientMachine rfl rfl clientEvents⟩

/-- A completed handshake while `connection_state` says AwaitingHandshake, and one that the
    next message may complete while it says Disconnected. -/
theorem completed_never_active :
    ¬ Throughout (trackedStep serverMachine) (Truthful serverMachine) ⟨{}, false⟩
      [.transportConnected ⟨1, 1⟩, .messageReceived (MessageFactory.makeHello ⟨2, 2⟩),
        .messageReceived (MessageFactory.makeHello ⟨2, 2⟩)] ∧
    ¬ Throughout (trackedStep clientMachine) (Truthful clientMachine) ⟨{}, false⟩
      [.messageReceived (MessageFactory.makeHello ⟨2, 2⟩)] := by
  constructor
  · intro h
    have active := (h _ (List.prefix_refl _)).active.mpr rfl
    cases active
  · intro h
    have never := ((h _ (List.prefix_refl _)).disconnected rfl).2 (MessageFactory.makeHello ⟨2, 2⟩)
    cases never

end RdpExt.ConnectionStates
