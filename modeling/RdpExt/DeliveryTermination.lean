import RdpExt.SessionParties

set_option autoImplicit false

/-!
# Deliveries come to an end

Left to themselves, with no transport event, ping or sample, the two machines
answer each other only finitely often, from any state and any queue contents.
Each Hello that is answered is paid for by the replies its receiver still owes.
-/
namespace RdpExt.DeliveryTermination
open ProtocolMessage LogicStates LogicEvents SessionSystem HandshakeParties SessionParties
open LogicServer (ServerState)
open LogicClient (ClientState)

/-- A side takes the head of its channel. -/
inductive Delivery (policy : Policy) : System → System → Prop where
  | toClient (w : System) (m : Message) (rest : List Message) (head : w.toClient = m :: rest) :
      Delivery policy w (System.clientStep policy { w with toClient := rest } (.messageReceived m))
  | toServer (w : System) (m : Message) (rest : List Message) (head : w.toServer = m :: rest) :
      Delivery policy w (System.serverStep policy { w with toServer := rest } (.messageReceived m))

theorem Delivery.step {policy : Policy} {w w' : System} (h : Delivery policy w w') :
    Step policy w w' := by
  cases h with
  | toClient m rest head => exact .clientReceives w m rest head
  | toServer m rest head => exact .serverReceives w m rest head

/-- Whether the record makes its side answer with a Hello, as a number. -/
def answers (h : HandshakeState) : Message → ℕ
  | .hello m => if m.protocolVersion = PROTOCOL_VERSION ∧ h.heard m.instanceId < 2 then 1 else 0
  | _ => 0

/-- The Hellos that a side with this record will answer the queue with, and then
    any number of Hellos of `peer`. -/
def owed (peer : InstanceId) : HandshakeState → List Message → ℕ
  | h, [] => 2 - h.heard peer
  | h, m :: rest => answers h m + owed peer (after h m) rest

/-- What the present instance of a side sends between its transport events. -/
def Present (id : InstanceId) (sent : List Message) : Prop :=
  ∀ m ∈ sent, token m = none ∨ m = MessageFactory.makeHello id

theorem owed_present {peer : InstanceId} (h : HandshakeState) {sent : List Message}
    (present : Present peer sent) : owed peer h sent = 2 - h.heard peer := by
  induction sent generalizing h with
  | nil => rfl
  | cons m rest ih =>
    have tail := ih (after h m) fun m hm => present m (List.mem_cons_of_mem _ hm)
    rw [owed, tail]
    rcases present m List.mem_cons_self with other | own
    · cases m with
      | hello m => cases other
      | _ => simp [answers, after]
    · have bound := h.heard_le_two peer
      have again := h.heard_remoteHelloReceived peer
      subst own
      change (if PROTOCOL_VERSION = PROTOCOL_VERSION ∧ h.heard peer < 2 then 1 else 0) +
        (2 - (h.remoteHelloReceived peer).heard peer) = _
      rw [again]
      split_ifs with first
      · have := first.2
        omega
      · have : ¬ h.heard peer < 2 := fun less => first ⟨rfl, less⟩
        omega

/-- New messages of the peer's present instance ask for no more than was owed. -/
theorem owed_append {peer : InstanceId} (h : HandshakeState) (queue : List Message)
    {sent : List Message} (present : Present peer sent) :
    owed peer h (queue ++ sent) = owed peer h queue := by
  induction queue generalizing h with
  | nil => exact owed_present h present
  | cons m rest ih =>
    change answers h m + owed peer (after h m) (rest ++ sent) = _
    rw [ih (after h m)]
    rfl

/-- What a message may still give rise to, Hellos apart. -/
def weight : Message → ℕ
  | .error _ => 1
  | .hello _ => 3
  | .capabilitySet _ => 2
  | .telemetryStart _ => 2
  | .cpuSample _ => 2
  | .ping _ => 3
  | .pong _ => 2

def load (queue : List Message) : ℕ := (queue.map weight).sum

theorem load_append (xs ys : List Message) : load (xs ++ ys) = load xs + load ys := by
  simp [load]

theorem load_carries (policy : Policy) (up : Bool) (sent : List Message) :
    load (policy.carries up sent) ≤ load sent := by
  unfold Policy.carries
  split_ifs
  · exact Nat.le_refl _
  · exact Nat.zero_le _

def potential (w : System) : ℕ :=
  3 * (owed w.client.instanceId w.server.handshakeState w.toServer +
      owed w.server.instanceId w.client.handshakeState w.toClient) +
    load w.toServer + load w.toClient

theorem client_present (s : ClientState) (message : Message) :
    Present s.instanceId (clientMessages (LogicClient.doStep s (.messageReceived message)).2) := by
  cases message with
  | hello m =>
    change Present s.instanceId (clientMessages (LogicClient.handleHelloMessage s m).2)
    by_cases hv : m.protocolVersion = PROTOCOL_VERSION
    · have sent := client_hello s hv
      change clientMessages (LogicClient.handleHelloMessage s m).2 = _ at sent
      rw [sent]
      intro m hm
      rcases List.mem_append.mp hm with hm | hm
      · split_ifs at hm
        · exact .inr (List.mem_singleton.mp hm)
        · cases hm
      · split_ifs at hm
        · rw [List.mem_singleton.mp hm]
          exact .inl rfl
        · cases hm
    · rw [LogicClient.handleHelloMessage_other s m hv]
      intro m hm
      rw [List.mem_singleton.mp hm]
      exact .inl rfl
  | _ => exact fun m hm => .inl ((client_other s rfl).2 m hm)

theorem server_present (s : ServerState) (message : Message) :
    Present s.instanceId (serverMessages (LogicServer.doStep s (.messageReceived message)).2) := by
  cases message with
  | hello m =>
    change Present s.instanceId (serverMessages (LogicServer.handleHelloMessage s m).2)
    by_cases hv : m.protocolVersion = PROTOCOL_VERSION
    · have sent := server_hello s hv
      change serverMessages (LogicServer.handleHelloMessage s m).2 = _ at sent
      rw [sent]
      intro m hm
      split_ifs at hm
      · exact .inr (List.mem_singleton.mp hm)
      · cases hm
    · rw [LogicServer.handleHelloMessage_other s m hv]
      intro m hm
      rw [List.mem_singleton.mp hm]
      exact .inl rfl
  | _ => exact fun m hm => .inl ((server_other s rfl).2 m hm)

/-- A message and the answer it claims outweigh all that it makes the client send. -/
theorem client_load (s : ClientState) (message : Message) :
    load (clientMessages (LogicClient.doStep s (.messageReceived message)).2) <
      weight message + 3 * answers s.handshakeState message := by
  cases message with
  | hello m =>
    change load (clientMessages (LogicClient.handleHelloMessage s m).2) <
      3 + 3 * (if m.protocolVersion = PROTOCOL_VERSION ∧ s.handshakeState.heard m.instanceId < 2
        then 1 else 0)
    by_cases hv : m.protocolVersion = PROTOCOL_VERSION
    · have sent := client_hello s hv
      change clientMessages (LogicClient.handleHelloMessage s m).2 = _ at sent
      rw [sent, load_append]
      simp only [hv, true_and]
      split_ifs <;> simp [load, weight, MessageFactory.makeHello, MessageFactory.makeTelemetryStart]
    · rw [LogicClient.handleHelloMessage_other s m hv]
      change 1 < 3 + _
      omega
  | error m | cpuSample m | pong m => exact Nat.succ_pos _
  | capabilitySet m | telemetryStart m | ping m => exact Nat.succ_lt_succ (Nat.succ_pos _)

theorem server_load (s : ServerState) (message : Message) :
    load (serverMessages (LogicServer.doStep s (.messageReceived message)).2) <
      weight message + 3 * answers s.handshakeState message := by
  cases message with
  | hello m =>
    change load (serverMessages (LogicServer.handleHelloMessage s m).2) <
      3 + 3 * (if m.protocolVersion = PROTOCOL_VERSION ∧ s.handshakeState.heard m.instanceId < 2
        then 1 else 0)
    by_cases hv : m.protocolVersion = PROTOCOL_VERSION
    · have sent := server_hello s hv
      change serverMessages (LogicServer.handleHelloMessage s m).2 = _ at sent
      rw [sent]
      simp only [hv, true_and]
      split_ifs <;> simp [load, weight, MessageFactory.makeHello]
    · rw [LogicServer.handleHelloMessage_other s m hv]
      change 1 < 3 + _
      omega
  | error m | capabilitySet m | telemetryStart m => exact Nat.succ_pos _
  | cpuSample m | pong m => exact Nat.one_lt_two
  | ping m => exact Nat.lt_succ_self 2

theorem Present.carries {id : InstanceId} {sent : List Message} (h : Present id sent)
    (policy : Policy) (up : Bool) : Present id (policy.carries up sent) :=
  fun m hm => h m (mem_carries hm)

theorem potential_decreases {policy : Policy} {w w' : System} (delivery : Delivery policy w w') :
    potential w' < potential w := by
  cases delivery with
  | toClient m rest head =>
    have paid := client_load w.client m
    have queued := load_carries policy w.serverUp
      (clientMessages (LogicClient.doStep w.client (.messageReceived m)).2)
    have present := (client_present w.client m).carries policy w.serverUp
    unfold potential
    rw [head]
    simp only [System.clientStep, client_instanceId_received, client_record]
    rw [owed_append _ _ present, load_append]
    change _ < 3 * (_ + (answers w.client.handshakeState m + _)) + _ + load ([m] ++ rest)
    rw [load_append]
    change _ < _ + (weight m + _)
    omega
  | toServer m rest head =>
    have paid := server_load w.server m
    have queued := load_carries policy w.clientUp
      (serverMessages (LogicServer.doStep w.server (.messageReceived m)).2)
    have present := (server_present w.server m).carries policy w.clientUp
    unfold potential
    rw [head]
    simp only [System.serverStep, server_instanceId_received, server_record]
    rw [owed_append _ _ present, load_append]
    change _ < 3 * ((answers w.server.handshakeState m + _) + _) + load ([m] ++ rest) + _
    rw [load_append]
    change _ < _ + (weight m + _) + _
    omega

theorem deliveries_bounded {policy : Policy} (run : ℕ → System) (n : ℕ)
    (deliveries : ∀ i < n, Delivery policy (run i) (run (i + 1))) :
    potential (run n) + n ≤ potential (run 0) := by
  induction n with
  | zero => exact Nat.le_refl _
  | succ n ih =>
    have before := ih fun i hi => deliveries i (by omega)
    have last := potential_decreases (deliveries n (by omega))
    omega

/-- No message storm: the potential falls with every delivery, so no sequence of
    deliveries goes on for ever. -/
theorem no_message_storm (policy : Policy) :
    (∀ w w', Delivery policy w w' → potential w' < potential w) ∧
      WellFounded (fun w' w => Delivery policy w w') ∧
      ∀ run : ℕ → System, ∃ n ≤ potential (run 0), ¬ Delivery policy (run n) (run (n + 1)) := by
  refine ⟨fun _ _ => potential_decreases, ?_, ?_⟩
  · exact Subrelation.wf (fun delivery => potential_decreases delivery) (measure potential).wf
  · intro run
    by_contra endless
    push Not at endless
    have := deliveries_bounded run (potential (run 0) + 1) fun i hi => endless i (by omega)
    omega

theorem no_message_storm_opened :
    potential ((openedSession .lossy ⟨1, 1⟩ ⟨2, 2⟩).clientTakes .lossy) <
      potential (openedSession .lossy ⟨1, 1⟩ ⟨2, 2⟩) :=
  (no_message_storm .lossy).1 _ _ (.toClient _ _ _ rfl)

end RdpExt.DeliveryTermination
