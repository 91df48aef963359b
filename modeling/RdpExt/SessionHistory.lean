import RdpExt.MealyMachine
import RdpExt.SessionParties
import Mathlib.Data.List.DropRight

set_option autoImplicit false

/-!
# What the machines remember of their history

The handshake record keeps no counter; the counts here are of the events that came.
Of the history only its latest stretch counts, behind whatever ended the session
before or was said by another peer.
-/
namespace RdpExt.SessionHistory
open ProtocolMessage LogicStates LogicEvents MealyMachine SessionParties
open LogicServer (ServerState)
open LogicClient (ClientState)

/-- An event as far as either machine remembers it. -/
inductive Cue where
  | interruption
  | hello (id : InstanceId)
  | start
  | other
  deriving DecidableEq, Repr

/-- A Hello of another protocol version interrupts, as a transport event does. -/
def messageCue : Message → Cue
  | .hello m => if m.protocolVersion = PROTOCOL_VERSION then .hello m.instanceId else .interruption
  | .telemetryStart _ => .start
  | _ => .other

def serverCue : ServerEvent → Cue
  | .transportConnected _ => .interruption
  | .transportDisconnected => .interruption
  | .messageReceived message => messageCue message
  | .cpuSampleReady _ => .other

def clientCue : ClientEvent → Cue
  | .transportConnected _ => .interruption
  | .transportDisconnected => .interruption
  | .messageReceived message => messageCue message
  | .pingRequest _ => .other

def interrupts (id : InstanceId) : Cue → Bool
  | .interruption => true
  | .hello id' => id' != id
  | _ => false

/-- What came behind the latest transport event, Hello of another version or Hello of
    another id, oldest first. -/
def stretch (id : InstanceId) (history : List Cue) : List Cue :=
  history.rtakeWhile fun cue => !interrupts id cue

def helloCount (id : InstanceId) (history : List Cue) : ℕ :=
  (stretch id history).count (.hello id)

/-- A TelemetryStart came in it, behind the first Hello of `id`. -/
def Requested (id : InstanceId) (history : List Cue) : Prop :=
  Cue.start ∈ (stretch id history).dropWhile (· ≠ .hello id)

instance (id : InstanceId) (history : List Cue) : Decidable (Requested id history) :=
  inferInstanceAs (Decidable (_ ∈ _))

section
variable (id : InstanceId) (history : List Cue) (cue : Cue)

theorem stretch_concat : stretch id (history ++ [cue]) =
    if interrupts id cue then [] else stretch id history ++ [cue] := by
  unfold stretch
  rw [List.rtakeWhile_concat]
  cases interrupts id cue <;> rfl

theorem helloCount_concat : helloCount id (history ++ [cue]) =
    if interrupts id cue then 0 else helloCount id history + if cue = .hello id then 1 else 0 := by
  unfold helloCount
  rw [stretch_concat]
  split_ifs with interrupted own
  · rfl
  · rw [List.count_append, own, List.count_singleton_self]
  · rw [List.count_append, List.count_singleton, if_neg (by simpa using own)]

theorem dropWhile_eq_nil_of_unheard (unheard : helloCount id history = 0) :
    (stretch id history).dropWhile (· ≠ .hello id) = [] := by
  unfold helloCount at unheard
  rw [List.count_eq_zero] at unheard
  rw [List.dropWhile_eq_nil_iff]
  intro cue hcue
  rw [decide_eq_true_iff]
  exact fun own => unheard (own ▸ hcue)

theorem requested_of_unheard (unheard : helloCount id history = 0) : ¬ Requested id history := by
  unfold Requested
  rw [dropWhile_eq_nil_of_unheard id history unheard]
  exact List.not_mem_nil

theorem requested_concat : Requested id (history ++ [cue]) ↔
    interrupts id cue = false ∧
      (Requested id history ∨ cue = .start ∧ 1 ≤ helloCount id history) := by
  unfold Requested
  rw [stretch_concat]
  cases interrupted : interrupts id cue with
  | true => simp
  | false =>
    rw [if_neg Bool.false_ne_true, List.dropWhile_append]
    by_cases unheard : helloCount id history = 0
    · rw [dropWhile_eq_nil_of_unheard id history unheard]
      by_cases own : cue = .hello id
      · simp [own, unheard]
      · simp [own, unheard]
    · have heard : ((stretch id history).dropWhile (· ≠ .hello id)).isEmpty = false := by
        rw [List.isEmpty_eq_false_iff]
        intro empty
        apply unheard
        rw [List.dropWhile_eq_nil_iff] at empty
        unfold helloCount
        rw [List.count_eq_zero]
        exact fun own => by simpa using empty _ own
      rw [heard, if_neg Bool.false_ne_true, List.mem_append, List.mem_singleton]
      have counted : 1 ≤ helloCount id history := by omega
      simp [counted, eq_comm]

/-- A TelemetryStart from before the first Hello of `id` does not count for it. -/
theorem requested_of_start_before (later : List Cue) (unheard : helloCount id history = 0)
    (silent : Cue.start ∉ later) : ¬ Requested id (history ++ later) := by
  induction later using List.reverseRecOn with
  | nil =>
    rw [List.append_nil]
    exact requested_of_unheard id history unheard
  | append_singleton later cue ih =>
    rw [List.mem_append, List.mem_singleton, not_or] at silent
    rw [← List.append_assoc, requested_concat]
    rintro ⟨_, before | ⟨now, _⟩⟩
    · exact ih silent.1 before
    · exact silent.2 now.symm

end

/-- All that an event does to the record of either machine. -/
inductive RecordStep (h : HandshakeState) : Cue → HandshakeState → Prop where
  | connected : RecordStep h .interruption h.reset.localHelloSent
  | ended : RecordStep h .interruption h.reset
  | hello (id : InstanceId) : RecordStep h (.hello id) (h.remoteHelloReceived id).localHelloSent
  | start : RecordStep h .start h
  | other : RecordStep h .other h

/-- The records that a history may leave. -/
inductive Recorded : List Cue → HandshakeState → Prop where
  | nothing : Recorded [] {}
  | concat {history : List Cue} {h h' : HandshakeState} {cue : Cue} (before : Recorded history h)
      (step : RecordStep h cue h') : Recorded (history ++ [cue]) h'

theorem recordStep_after (h : HandshakeState) (message : Message) :
    RecordStep h (messageCue message) (after h message) := by
  cases message with
  | hello m =>
    simp only [messageCue, after]
    split_ifs
    · exact .hello m.instanceId
    · exact .ended
  | telemetryStart m => exact .start
  | _ => exact .other

theorem server_recordStep (s : ServerState) (event : ServerEvent) :
    RecordStep s.handshakeState (serverCue event) (LogicServer.doStep s event).1.handshakeState := by
  cases event with
  | transportConnected drawn => exact .connected
  | transportDisconnected => exact .ended
  | messageReceived message =>
    rw [server_record]
    exact recordStep_after s.handshakeState message
  | cpuSampleReady sample =>
    rw [(server_sample s sample).1]
    exact .other

theorem client_recordStep (s : ClientState) (event : ClientEvent) :
    RecordStep s.handshakeState (clientCue event) (LogicClient.doStep s event).1.handshakeState := by
  cases event with
  | transportConnected drawn => exact .connected
  | transportDisconnected => exact .ended
  | messageReceived message =>
    rw [client_record]
    exact recordStep_after s.handshakeState message
  | pingRequest drawn =>
    rw [(client_ping s drawn).1]
    exact .other

def serverAfter (history : List ServerEvent) : ServerState := state LogicServer.doStep {} history

def clientAfter (history : List ClientEvent) : ClientState := state LogicClient.doStep {} history

theorem server_recorded (history : List ServerEvent) :
    Recorded (history.map serverCue) (serverAfter history).handshakeState := by
  induction history using List.reverseRecOn with
  | nil => exact .nothing
  | append_singleton history event ih =>
    unfold serverAfter at ih ⊢
    rw [state_concat, List.map_append]
    exact ih.concat (server_recordStep _ event)

theorem client_recorded (history : List ClientEvent) :
    Recorded (history.map clientCue) (clientAfter history).handshakeState := by
  induction history using List.reverseRecOn with
  | nil => exact .nothing
  | append_singleton history event ih =>
    unfold clientAfter at ih ⊢
    rw [state_concat, List.map_append]
    exact ih.concat (client_recordStep _ event)

section
variable {history : List Cue} {h : HandshakeState}

/-- The record stands for the count, up to two. -/
theorem Recorded.heard (recorded : Recorded history h) (id : InstanceId) :
    h.heard id = min 2 (helloCount id history) := by
  induction recorded with
  | nothing => rfl
  | @concat history h h' cue before step ih =>
    rw [helloCount_concat]
    cases step with
    | connected | ended => exact h.heard_reset id
    | hello id' =>
      rw [HandshakeState.heard_localHelloSent]
      by_cases own : id' = id
      · rw [own, HandshakeState.heard_remoteHelloReceived, ih]
        simp only [interrupts, bne_self_eq_false, Bool.false_eq_true, ↓reduceIte]
        omega
      · rw [HandshakeState.heard_remoteHelloReceived_ne _ own]
        simp [interrupts, own]
    | start | other => exact ih

theorem Recorded.unknown (recorded : Recorded history h) (unknown : h.remoteInstanceId = none) :
    h.isCompleted = false := by
  induction recorded with
  | nothing => rfl
  | concat before step ih =>
    cases step with
    | connected | ended => rfl
    | hello id => simp at unknown
    | start | other => exact ih unknown

/-- A record is complete exactly when the id it stores was heard twice. -/
theorem Recorded.isCompleted_iff (recorded : Recorded history h) :
    h.isCompleted = true ↔ ∃ id, h.remoteInstanceId = some id ∧ 2 ≤ helloCount id history := by
  constructor
  · intro completed
    cases stored : h.remoteInstanceId with
    | none =>
      rw [recorded.unknown stored] at completed
      cases completed
    | some id =>
      have heard := (h.heard_eq_two_iff id).mpr ⟨stored, completed⟩
      have counted := recorded.heard id
      exact ⟨id, rfl, by omega⟩
  · rintro ⟨id, _, counted⟩
    have heard := recorded.heard id
    exact ((h.heard_eq_two_iff id).mp (by omega)).2

end

/-- For the peer that is known the server's flag says whether it has asked. -/
theorem server_enabled (history : List ServerEvent) (id : InstanceId)
    (heard : 1 ≤ helloCount id (history.map serverCue)) :
    (serverAfter history).telemetryEnabled = true ↔ Requested id (history.map serverCue) := by
  induction history using List.reverseRecOn with
  | nil => cases heard
  | append_singleton history event ih =>
    have record := (server_recorded history).heard id
    unfold serverAfter at ih record ⊢
    rw [state_concat]
    rw [List.map_append, List.map_singleton] at heard ⊢
    rw [requested_concat]
    rw [helloCount_concat] at heard
    generalize state LogicServer.doStep {} history = s at ih record ⊢
    cases event with
    | transportConnected drawn | transportDisconnected => cases heard
    | cpuSampleReady sample =>
      rw [(server_sample s sample).1]
      simpa [serverCue, interrupts] using ih heard
    | messageReceived message =>
      cases message with
      | hello m =>
        by_cases hv : m.protocolVersion = PROTOCOL_VERSION
        · change (LogicServer.handleHelloMessage s m).1.telemetryEnabled = true ↔ _
          rw [LogicServer.handleHelloMessage_current s m hv]
          simp only [serverCue, messageCue, hv, ↓reduceIte, interrupts] at heard ⊢
          by_cases own : m.instanceId = id
          · -- The first Hello of an id turns the flag off, and nothing asked behind it yet.
            rw [own]
            by_cases known : 1 ≤ helloCount id (history.map serverCue)
            · have again : 1 ≤ s.handshakeState.heard id := by omega
              simp [again, ih known]
            · have first : s.handshakeState.heard id = 0 := by omega
              have unasked := requested_of_unheard id (history.map serverCue) (by omega)
              simp [first, unasked]
          · simp [own] at heard
        · simp [serverCue, messageCue, hv, interrupts] at heard
      | telemetryStart m =>
        have known : 1 ≤ helloCount id (history.map serverCue) := heard
        change true = true ↔ _
        simp [serverCue, messageCue, interrupts, known]
      | _ =>
        change s.telemetryEnabled = true ↔ _
        simpa [serverCue, messageCue, interrupts] using ih heard

/-- For the peer that is known the client's flag follows the record. -/
theorem client_requested (history : List ClientEvent) (id : InstanceId)
    (heard : 1 ≤ helloCount id (history.map clientCue)) :
    (clientAfter history).telemetryRequested =
      decide (2 ≤ helloCount id (history.map clientCue)) := by
  induction history using List.reverseRecOn with
  | nil => cases heard
  | append_singleton history event ih =>
    have record := (client_recorded history).heard id
    unfold clientAfter at ih record ⊢
    rw [state_concat]
    rw [List.map_append, List.map_singleton, helloCount_concat] at heard ⊢
    generalize state LogicClient.doStep {} history = s at ih record ⊢
    cases event with
    | transportConnected drawn | transportDisconnected => cases heard
    | pingRequest drawn =>
      rw [(client_ping s drawn).1]
      exact ih heard
    | messageReceived message =>
      cases message with
      | hello m =>
        by_cases hv : m.protocolVersion = PROTOCOL_VERSION
        · change (LogicClient.handleHelloMessage s m).1.telemetryRequested = _
          rw [LogicClient.handleHelloMessage_current s m hv]
          by_cases own : m.instanceId = id
          · simp only [clientCue, messageCue, hv, ↓reduceIte, interrupts, own, bne_self_eq_false,
              Bool.false_eq_true]
            congr 1
            rw [record, eq_iff_iff]
            omega
          · simp [clientCue, messageCue, hv, interrupts, own] at heard
        · simp [clientCue, messageCue, hv, interrupts] at heard
      | _ => exact ih heard

/-- What the server answers the Hello that is the `k`-th of its id. -/
def serverReply (own : InstanceId) (k : ℕ) : ServerEffects :=
  if k = 1 then [.sendMessage (MessageFactory.makeHello own), .stopTelemetryTimer]
  else if k = 2 then [.sendMessage (MessageFactory.makeHello own)]
  else []

def clientReply (own : InstanceId) (k : ℕ) : ClientEffects :=
  if k = 1 then [.sendMessage (MessageFactory.makeHello own)]
  else if k = 2 then
    [.sendMessage (MessageFactory.makeHello own), .sendMessage MessageFactory.makeTelemetryStart]
  else []

theorem helloCount_received (history : List Cue) {m : HelloMessage}
    (hv : m.protocolVersion = PROTOCOL_VERSION) :
    helloCount m.instanceId (history ++ [messageCue (.hello m)]) =
      helloCount m.instanceId history + 1 := by
  rw [helloCount_concat, messageCue, if_pos hv]
  simp [interrupts]

theorem server_reply (history : List ServerEvent) {m : HelloMessage}
    (hv : m.protocolVersion = PROTOCOL_VERSION) :
    (LogicServer.doStep (serverAfter history) (.messageReceived (.hello m))).2 =
      serverReply (serverAfter history).instanceId
        (helloCount m.instanceId (history.map serverCue) + 1) := by
  have heard := (server_recorded history).heard m.instanceId
  change (LogicServer.handleHelloMessage (serverAfter history) m).2 = _
  rw [LogicServer.handleHelloMessage_current _ m hv]
  unfold serverReply
  generalize helloCount m.instanceId (history.map serverCue) = n at heard ⊢
  obtain rfl | rfl | more : n = 0 ∨ n = 1 ∨ 2 ≤ n := by omega
  · simp [heard]
  · simp [heard]
  · have twice : (serverAfter history).handshakeState.heard m.instanceId = 2 := by omega
    have neither : n + 1 ≠ 1 ∧ n + 1 ≠ 2 := by omega
    simp only [twice, if_neg neither.1, if_neg neither.2]
    rfl

theorem client_reply (history : List ClientEvent) {m : HelloMessage}
    (hv : m.protocolVersion = PROTOCOL_VERSION) :
    (LogicClient.doStep (clientAfter history) (.messageReceived (.hello m))).2 =
      clientReply (clientAfter history).instanceId
        (helloCount m.instanceId (history.map clientCue) + 1) := by
  have heard := (client_recorded history).heard m.instanceId
  have requested := client_requested history m.instanceId
  change (LogicClient.handleHelloMessage (clientAfter history) m).2 = _
  rw [LogicClient.handleHelloMessage_current _ m hv]
  unfold clientReply
  generalize helloCount m.instanceId (history.map clientCue) = n at heard requested ⊢
  obtain rfl | rfl | more : n = 0 ∨ n = 1 ∨ 2 ≤ n := by omega
  · simp [heard]
  · simp [heard, requested]
  · have twice : (clientAfter history).handshakeState.heard m.instanceId = 2 := by omega
    have asked : (clientAfter history).telemetryRequested = true := by
      rw [requested (by omega), decide_eq_true_iff]
      exact more
    have neither : n + 1 ≠ 1 ∧ n + 1 ≠ 2 := by omega
    simp only [twice, asked, if_neg neither.1, if_neg neither.2]
    rfl

/-- Either machine's answer to a Hello, and whether its handshake is complete, as a
    function of how often the id was heard without interruption. -/
theorem hello_replies_counted :
    (∀ (history : List ServerEvent) (m : HelloMessage), m.protocolVersion = PROTOCOL_VERSION →
      let k := helloCount m.instanceId ((history ++ [ServerEvent.messageReceived (.hello m)]).map serverCue)
      1 ≤ k ∧ (LogicServer.doStep (serverAfter history) (.messageReceived (.hello m))).2 =
        serverReply (serverAfter history).instanceId k) ∧
    (∀ (history : List ClientEvent) (m : HelloMessage), m.protocolVersion = PROTOCOL_VERSION →
      let k := helloCount m.instanceId ((history ++ [ClientEvent.messageReceived (.hello m)]).map clientCue)
      1 ≤ k ∧ (LogicClient.doStep (clientAfter history) (.messageReceived (.hello m))).2 =
        clientReply (clientAfter history).instanceId k) ∧
    (∀ history : List ServerEvent, (serverAfter history).handshakeState.isCompleted = true ↔
      ∃ id, (serverAfter history).handshakeState.remoteInstanceId = some id ∧
        2 ≤ helloCount id (history.map serverCue)) ∧
    (∀ history : List ClientEvent, (clientAfter history).handshakeState.isCompleted = true ↔
      ∃ id, (clientAfter history).handshakeState.remoteInstanceId = some id ∧
        2 ≤ helloCount id (history.map clientCue)) := by
  refine ⟨?_, ?_, fun history => (server_recorded history).isCompleted_iff,
    fun history => (client_recorded history).isCompleted_iff⟩
  · intro history m hv k
    have counted : k = helloCount m.instanceId (history.map serverCue) + 1 := by
      rw [← helloCount_received _ hv]
      exact congrArg (helloCount m.instanceId) List.map_append
    rw [counted]
    exact ⟨by omega, server_reply history hv⟩
  · intro history m hv k
    have counted : k = helloCount m.instanceId (history.map clientCue) + 1 := by
      rw [← helloCount_received _ hv]
      exact congrArg (helloCount m.instanceId) List.map_append
    rw [counted]
    exact ⟨by omega, client_reply history hv⟩

/-- A Hello of another version between two of one id: the count starts anew. -/
theorem hello_replies_counted_anew :
    (LogicClient.doStep
        (clientAfter [.transportConnected ⟨1, 1⟩,
          .messageReceived (MessageFactory.makeHello ⟨2, 2⟩),
          .messageReceived (.hello ⟨0x0102, ⟨2, 2⟩⟩)])
        (.messageReceived (MessageFactory.makeHello ⟨2, 2⟩))).2 =
      [.sendMessage (MessageFactory.makeHello ⟨1, 1⟩)] ∧
    (LogicServer.doStep
        (serverAfter [.transportConnected ⟨1, 1⟩,
          .messageReceived (MessageFactory.makeHello ⟨2, 2⟩),
          .messageReceived (.hello ⟨0x0102, ⟨2, 2⟩⟩)])
        (.messageReceived (MessageFactory.makeHello ⟨2, 2⟩))).2 =
      [.sendMessage (MessageFactory.makeHello ⟨1, 1⟩), .stopTelemetryTimer] :=
  ⟨(hello_replies_counted.2.1 _ ⟨PROTOCOL_VERSION, ⟨2, 2⟩⟩ rfl).2,
    (hello_replies_counted.1 _ ⟨PROTOCOL_VERSION, ⟨2, 2⟩⟩ rfl).2⟩

/-- The peer that is known has completed the handshake and asked for telemetry. -/
theorem server_answers_iff (history : List ServerEvent) :
    (serverAfter history).telemetryEnabled = true ∧
        (serverAfter history).handshakeState.isCompleted = true ↔
      ∃ id, 2 ≤ helloCount id (history.map serverCue) ∧ Requested id (history.map serverCue) := by
  have recorded := server_recorded history
  constructor
  · rintro ⟨enabled, completed⟩
    obtain ⟨id, _, counted⟩ := recorded.isCompleted_iff.mp completed
    exact ⟨id, counted, (server_enabled history id (by omega)).mp enabled⟩
  · rintro ⟨id, counted, requested⟩
    have heard := recorded.heard id
    refine ⟨(server_enabled history id (by omega)).mpr requested, ?_⟩
    exact ((HandshakeState.heard_eq_two_iff _ id).mp (by omega)).2

theorem server_sample_effects (s : ServerState) (sample : CpuSample) :
    (LogicServer.doStep s (.cpuSampleReady sample)).2 =
      if s.telemetryEnabled = true ∧ s.handshakeState.isCompleted = true then
        [.sendMessage (MessageFactory.makeCpuSample sample.cpuLoad)] else [] := by
  change (LogicServer.handleCpuSampleReady s sample).2 = _
  unfold LogicServer.handleCpuSampleReady
  cases s.telemetryEnabled <;> cases s.handshakeState.isCompleted <;> rfl

/-- A sample is sent, once, exactly where the current peer was heard twice and asked
    behind its first Hello. What was asked before that Hello does not count. -/
theorem cpu_sample_sent_iff (history : List ServerEvent) (sample : CpuSample) :
    ((∃ id, 2 ≤ helloCount id (history.map serverCue) ∧ Requested id (history.map serverCue)) →
      (LogicServer.doStep (serverAfter history) (.cpuSampleReady sample)).2 =
        [.sendMessage (MessageFactory.makeCpuSample sample.cpuLoad)]) ∧
    ((¬ ∃ id, 2 ≤ helloCount id (history.map serverCue) ∧ Requested id (history.map serverCue)) →
      (LogicServer.doStep (serverAfter history) (.cpuSampleReady sample)).2 = []) ∧
    (∀ past later id, history = past ++ later → helloCount id (past.map serverCue) = 0 →
      Cue.start ∉ later.map serverCue →
      (serverAfter history).handshakeState.remoteInstanceId = some id →
      (LogicServer.doStep (serverAfter history) (.cpuSampleReady sample)).2 = []) := by
  rw [server_sample_effects]
  refine ⟨fun sent => if_pos ((server_answers_iff history).mpr sent),
    fun unsent => if_neg fun answers => unsent ((server_answers_iff history).mp answers), ?_⟩
  intro past later id split unheard silent stored
  apply if_neg
  intro answers
  obtain ⟨id', counted, requested⟩ := (server_answers_iff history).mp answers
  have heard := (server_recorded history).heard id'
  have twice : (serverAfter history).handshakeState.heard id' = 2 := by omega
  have stored' := ((HandshakeState.heard_eq_two_iff _ id').mp twice).1
  obtain rfl : id = id' := Option.some.inj (stored.symm.trans stored')
  rw [split, List.map_append] at requested
  exact requested_of_start_before id _ _ unheard silent requested

/-- Asked for between the two Hellos, and in front of both. -/
theorem cpu_sample_sent_iff_asked :
    (LogicServer.doStep (serverAfter [.transportConnected ⟨1, 1⟩,
        .messageReceived (MessageFactory.makeHello ⟨2, 2⟩),
        .messageReceived MessageFactory.makeTelemetryStart,
        .messageReceived (MessageFactory.makeHello ⟨2, 2⟩)]) (.cpuSampleReady ⟨5⟩)).2 =
      [.sendMessage (MessageFactory.makeCpuSample 5)] ∧
    (LogicServer.doStep (serverAfter [.transportConnected ⟨1, 1⟩,
        .messageReceived MessageFactory.makeTelemetryStart,
        .messageReceived (MessageFactory.makeHello ⟨2, 2⟩),
        .messageReceived (MessageFactory.makeHello ⟨2, 2⟩)]) (.cpuSampleReady ⟨5⟩)).2 = [] := by
  constructor
  · exact (cpu_sample_sent_iff _ ⟨5⟩).1 ⟨⟨2, 2⟩, by decide⟩
  · exact (cpu_sample_sent_iff _ ⟨5⟩).2.2 [.transportConnected ⟨1, 1⟩,
      .messageReceived MessageFactory.makeTelemetryStart] _ ⟨2, 2⟩ rfl (by decide) (by decide) rfl

end RdpExt.SessionHistory
