import RdpExt.SessionParties

set_option autoImplicit false

/-!
# What two honest sides say to each other

Channels that belong to one connection, each message recorded as it is sent and as it
is delivered. Neither side is ever sent what it does not accept, and every ping is
answered once and in turn.
-/
namespace RdpExt.HonestTraffic
open ProtocolMessage LogicEvents SessionSystem HandshakeParties SessionParties
open LogicServer (ServerState)
open LogicClient (ClientState)

inductive SideEvent where
  | client (event : ClientEvent)
  | server (event : ServerEvent)

/-- The event may come next; the system as the side finds it when it handles it. A
    connect may draw any id here, one drawn before as well. -/
inductive Occurs (policy : Policy) (w : System) : System → SideEvent → Prop where
  | clientConnected (drawn : InstanceId) (toServer toClient : List Message)
      (server : policy.Keeps w.toServer toServer) (client : policy.Keeps w.toClient toClient) :
      Occurs policy w
        { w with
          toServer := toServer, toClient := toClient
          clientUp := true, clientDrawn := drawn :: w.clientDrawn }
        (.client (.transportConnected drawn))
  | clientDisconnected (toServer toClient : List Message)
      (server : policy.Keeps w.toServer toServer) (client : policy.Keeps w.toClient toClient) :
      Occurs policy w { w with toServer := toServer, toClient := toClient, clientUp := false }
        (.client .transportDisconnected)
  | serverConnected (drawn : InstanceId) (toServer toClient : List Message)
      (server : policy.Keeps w.toServer toServer) (client : policy.Keeps w.toClient toClient) :
      Occurs policy w
        { w with
          toServer := toServer, toClient := toClient
          serverUp := true, serverDrawn := drawn :: w.serverDrawn }
        (.server (.transportConnected drawn))
  | serverDisconnected (toServer toClient : List Message)
      (server : policy.Keeps w.toServer toServer) (client : policy.Keeps w.toClient toClient) :
      Occurs policy w { w with toServer := toServer, toClient := toClient, serverUp := false }
        (.server .transportDisconnected)
  | clientReceives (m : Message) (rest : List Message) (head : w.toClient = m :: rest) :
      Occurs policy w { w with toClient := rest } (.client (.messageReceived m))
  | serverReceives (m : Message) (rest : List Message) (head : w.toServer = m :: rest) :
      Occurs policy w { w with toServer := rest } (.server (.messageReceived m))
  | pingRequest (drawn : UInt32) : Occurs policy w w (.client (.pingRequest drawn))
  | cpuSampleReady (sample : CpuSample) : Occurs policy w w (.server (.cpuSampleReady sample))

def SideEvent.Fresh (policy : Policy) (w : System) : SideEvent → Prop
  | .client (.transportConnected drawn) => drawn ∉ policy.reserved ∧ drawn ∉ w.clientDrawn
  | .server (.transportConnected drawn) => drawn ∉ policy.reserved ∧ drawn ∉ w.serverDrawn
  | _ => True

def handle (policy : Policy) (w : System) : SideEvent → System
  | .client event => w.clientStep policy event
  | .server event => w.serverStep policy event

/-- A step of the system is an event that occurs, draws no id again and is handled. -/
theorem step_iff_occurs {policy : Policy} {w w' : System} :
    Step policy w w' ↔ ∃ found event,
      Occurs policy w found event ∧ event.Fresh policy w ∧ w' = handle policy found event := by
  constructor
  · intro step
    cases step with
    | clientConnected drawn toServer toClient unreserved fresh server client =>
      exact ⟨_, _, .clientConnected drawn toServer toClient server client, ⟨unreserved, fresh⟩, rfl⟩
    | clientDisconnected toServer toClient server client =>
      exact ⟨_, _, .clientDisconnected toServer toClient server client, trivial, rfl⟩
    | serverConnected drawn toServer toClient unreserved fresh server client =>
      exact ⟨_, _, .serverConnected drawn toServer toClient server client, ⟨unreserved, fresh⟩, rfl⟩
    | serverDisconnected toServer toClient server client =>
      exact ⟨_, _, .serverDisconnected toServer toClient server client, trivial, rfl⟩
    | clientReceives m rest head => exact ⟨_, _, .clientReceives m rest head, trivial, rfl⟩
    | serverReceives m rest head => exact ⟨_, _, .serverReceives m rest head, trivial, rfl⟩
    | pingRequest drawn => exact ⟨_, _, .pingRequest drawn, trivial, rfl⟩
    | cpuSampleReady sample => exact ⟨_, _, .cpuSampleReady sample, trivial, rfl⟩
  · rintro ⟨found, event, occurs, fresh, rfl⟩
    cases occurs with
    | clientConnected drawn toServer toClient server client =>
      exact .clientConnected w drawn toServer toClient fresh.1 fresh.2 server client
    | clientDisconnected toServer toClient server client =>
      exact .clientDisconnected w toServer toClient server client
    | serverConnected drawn toServer toClient server client =>
      exact .serverConnected w drawn toServer toClient fresh.1 fresh.2 server client
    | serverDisconnected toServer toClient server client =>
      exact .serverDisconnected w toServer toClient server client
    | clientReceives m rest head => exact .clientReceives w m rest head
    | serverReceives m rest head => exact .serverReceives w m rest head
    | pingRequest drawn => exact .pingRequest w drawn
    | cpuSampleReady sample => exact .cpuSampleReady w sample

def pingId? : Message → Option UInt32
  | .ping m => some m.id
  | _ => none

def pongId? : Message → Option UInt32
  | .pong m => some m.id
  | _ => none

def pingIds (messages : List Message) : List UInt32 := messages.filterMap pingId?

def pongIds (messages : List Message) : List UInt32 := messages.filterMap pongId?

@[simp] theorem pingIds_nil : pingIds [] = [] := rfl

@[simp] theorem pongIds_nil : pongIds [] = [] := rfl

@[simp] theorem pingIds_append (xs ys : List Message) :
    pingIds (xs ++ ys) = pingIds xs ++ pingIds ys := List.filterMap_append

@[simp] theorem pongIds_append (xs ys : List Message) :
    pongIds (xs ++ ys) = pongIds xs ++ pongIds ys := List.filterMap_append

namespace SideEvent

def isTransport : SideEvent → Bool
  | .client (.transportConnected _) => true
  | .client .transportDisconnected => true
  | .server (.transportConnected _) => true
  | .server .transportDisconnected => true
  | _ => false

/-- What the client sends when it handles the event, whether or not it is kept. -/
def clientSays (w : System) : SideEvent → List Message
  | .client event => clientMessages (LogicClient.doStep w.client event).2
  | .server _ => []

def serverSays (w : System) : SideEvent → List Message
  | .client _ => []
  | .server event => serverMessages (LogicServer.doStep w.server event).2

def clientHears : SideEvent → List Message
  | .client (.messageReceived m) => [m]
  | _ => []

end SideEvent

/-- The system with a record: all that either side ever sent, and since the latest
    transport event of either the ids of the Pings sent and of the Pongs delivered. -/
structure Traffic where
  system : System := {}
  clientSaid : List Message := []
  serverSaid : List Message := []
  pings : List UInt32 := []
  pongs : List UInt32 := []

def Traffic.next (t : Traffic) (found : System) (event : SideEvent) : Traffic where
  system := handle .perConnection found event
  clientSaid := t.clientSaid ++ event.clientSays found
  serverSaid := t.serverSaid ++ event.serverSays found
  pings := (if event.isTransport then [] else t.pings) ++ pingIds (event.clientSays found)
  pongs := (if event.isTransport then [] else t.pongs) ++ pongIds event.clientHears

section
variable (t : Traffic) {found : System} {event : SideEvent} (inside : event.isTransport = false)
include inside

theorem Traffic.next_pings :
    (t.next found event).pings = t.pings ++ pingIds (event.clientSays found) := by
  unfold next
  rw [inside]
  rfl

theorem Traffic.next_pongs :
    (t.next found event).pongs = t.pongs ++ pongIds event.clientHears := by
  unfold next
  rw [inside]
  rfl

end

inductive Traffic.Step : Traffic → Traffic → Prop where
  | intro (t : Traffic) (found : System) (event : SideEvent)
      (occurs : Occurs .perConnection t.system found event) : Traffic.Step t (t.next found event)

def Traffic.Reachable (t : Traffic) : Prop := Relation.ReflTransGen Traffic.Step {} t

/-- The runs of the system are among those recorded. -/
theorem exists_recorded {w : System} (reachable : Reachable .perConnection w) :
    ∃ t : Traffic, t.Reachable ∧ t.system = w := by
  induction reachable with
  | refl => exact ⟨{}, .refl, rfl⟩
  | tail _ step ih =>
    obtain ⟨t, reached, rfl⟩ := ih
    obtain ⟨found, event, occurs, _, rfl⟩ := step_iff_occurs.mp step
    exact ⟨_, reached.tail (.intro t found event occurs), rfl⟩

/-- What the server accepts of the client, and the client of the server. -/
def ForServer : Message → Prop
  | .hello m => m.protocolVersion = PROTOCOL_VERSION
  | .telemetryStart _ => True
  | .ping _ => True
  | _ => False

def ForClient : Message → Prop
  | .hello m => m.protocolVersion = PROTOCOL_VERSION
  | .cpuSample _ => True
  | .pong _ => True
  | _ => False

theorem client_says_accepted (s : ClientState) (event : ClientEvent)
    (accepted : ∀ m, event = .messageReceived m → ForClient m) :
    ∀ m ∈ clientMessages (LogicClient.doStep s event).2, ForServer m := by
  intro m hm
  cases event with
  | transportConnected drawn =>
    rw [List.mem_singleton.mp hm]
    rfl
  | transportDisconnected => cases hm
  | pingRequest drawn =>
    simp only [LogicClient.doStep, LogicClient.handlePingRequest] at hm
    split_ifs at hm
    · cases hm
    · rw [List.mem_singleton.mp hm]
      trivial
  | messageReceived message =>
    have fits := accepted message rfl
    cases message with
    | hello hello =>
      rw [client_hello s fits] at hm
      rcases List.mem_append.mp hm with answer | request
      · split_ifs at answer
        · rw [List.mem_singleton.mp answer]
          rfl
        · cases answer
      · split_ifs at request
        · rw [List.mem_singleton.mp request]
          trivial
        · cases request
    | cpuSample _ | pong _ => cases hm
    | _ => exact fits.elim

theorem server_says_accepted (s : ServerState) (event : ServerEvent)
    (accepted : ∀ m, event = .messageReceived m → ForServer m) :
    ∀ m ∈ serverMessages (LogicServer.doStep s event).2, ForClient m := by
  intro m hm
  cases event with
  | transportConnected drawn =>
    rw [List.mem_singleton.mp hm]
    rfl
  | transportDisconnected => cases hm
  | cpuSampleReady sample =>
    simp only [LogicServer.doStep, LogicServer.handleCpuSampleReady] at hm
    split_ifs at hm
    · cases hm
    · rw [List.mem_singleton.mp hm]
      trivial
  | messageReceived message =>
    have fits := accepted message rfl
    cases message with
    | hello hello =>
      rw [server_hello s fits] at hm
      split_ifs at hm
      · rw [List.mem_singleton.mp hm]
        rfl
      · cases hm
    | telemetryStart _ => cases hm
    | ping _ =>
      rw [List.mem_singleton.mp hm]
      trivial
    | _ => exact fits.elim

/-- Only a ping request makes the client ping. -/
theorem client_says_pings (s : ClientState) (event : ClientEvent)
    (accepted : ∀ m, event = .messageReceived m → ForClient m)
    (unasked : ∀ drawn, event ≠ .pingRequest drawn) :
    pingIds (clientMessages (LogicClient.doStep s event).2) = [] := by
  cases event with
  | transportConnected drawn | transportDisconnected => rfl
  | pingRequest drawn => exact absurd rfl (unasked drawn)
  | messageReceived message =>
    have fits := accepted message rfl
    cases message with
    | hello hello =>
      rw [client_hello s fits, pingIds_append]
      split_ifs <;> rfl
    | cpuSample _ | pong _ => rfl
    | _ => exact fits.elim

/-- The server answers a Ping with its Pong, and nothing else. -/
theorem server_says_pongs (s : ServerState) (event : ServerEvent)
    (accepted : ∀ m, event = .messageReceived m → ForServer m) :
    pongIds (serverMessages (LogicServer.doStep s event).2) =
      match event with
      | .messageReceived m => pingIds [m]
      | _ => [] := by
  cases event with
  | transportConnected drawn | transportDisconnected => rfl
  | cpuSampleReady sample =>
    simp only [LogicServer.doStep, LogicServer.handleCpuSampleReady]
    split_ifs <;> rfl
  | messageReceived message =>
    have fits := accepted message rfl
    cases message with
    | hello hello =>
      rw [server_hello s fits]
      split_ifs <;> rfl
    | telemetryStart _ | ping _ => rfl
    | _ => exact fits.elim

structure Honest (t : Traffic) : Prop where
  toServer : ∀ m ∈ t.system.toServer, ForServer m
  toClient : ∀ m ∈ t.system.toClient, ForClient m
  clientSaid : ∀ m ∈ t.clientSaid, ForServer m
  serverSaid : ∀ m ∈ t.serverSaid, ForClient m
  answered : t.system.clientUp = true → t.system.serverUp = true →
    t.pings = t.pongs ++ pongIds t.system.toClient ++ pingIds t.system.toServer

/-- The channels as the side finds them hold no more than before, and the message it
    is handed is acceptable to it. -/
theorem Honest.found {t : Traffic} (h : Honest t) {found : System} {event : SideEvent}
    (occurs : Occurs .perConnection t.system found event) :
    (∀ m ∈ found.toServer, ForServer m) ∧ (∀ m ∈ found.toClient, ForClient m) ∧
      (∀ m ∈ event.clientSays found, ForServer m) ∧
      (∀ m ∈ event.serverSays found, ForClient m) := by
  obtain ⟨hs, hc, _, _, _⟩ := h
  cases occurs with
  | clientConnected drawn toServer toClient server client
  | clientDisconnected toServer toClient server client =>
    obtain rfl : toServer = [] := server
    obtain rfl : toClient = [] := client
    exact ⟨nofun, nofun, client_says_accepted _ _ nofun, nofun⟩
  | serverConnected drawn toServer toClient server client
  | serverDisconnected toServer toClient server client =>
    obtain rfl : toServer = [] := server
    obtain rfl : toClient = [] := client
    exact ⟨nofun, nofun, nofun, server_says_accepted _ _ nofun⟩
  | clientReceives m rest head =>
    rw [head] at hc
    refine ⟨hs, fun m hm => hc m (List.mem_cons_of_mem _ hm), ?_, nofun⟩
    apply client_says_accepted
    rintro _ ⟨⟩
    exact hc m List.mem_cons_self
  | serverReceives m rest head =>
    rw [head] at hs
    refine ⟨fun m hm => hs m (List.mem_cons_of_mem _ hm), hc, nofun, ?_⟩
    apply server_says_accepted
    rintro _ ⟨⟩
    exact hs m List.mem_cons_self
  | pingRequest drawn => exact ⟨hs, hc, client_says_accepted _ _ nofun, nofun⟩
  | cpuSampleReady sample => exact ⟨hs, hc, nofun, server_says_accepted _ _ nofun⟩

/-- Handling adds to a channel what was said into it, where it is kept. -/
theorem handle_channels (policy : Policy) (found : System) (event : SideEvent) :
    (handle policy found event).toServer =
        found.toServer ++ policy.carries found.serverUp (event.clientSays found) ∧
      (handle policy found event).toClient =
        found.toClient ++ policy.carries found.clientUp (event.serverSays found) ∧
      (handle policy found event).clientUp = found.clientUp ∧
      (handle policy found event).serverUp = found.serverUp := by
  have nothing : ∀ up : Bool, policy.carries up ([] : List Message) = [] := by
    intro up
    unfold Policy.carries
    split_ifs <;> rfl
  cases event with
  | client event => exact ⟨rfl, by simp [handle, System.clientStep, SideEvent.serverSays, nothing],
      rfl, rfl⟩
  | server event => exact ⟨by simp [handle, System.serverStep, SideEvent.clientSays, nothing],
      rfl, rfl, rfl⟩

theorem answered_next {t : Traffic} (h : Honest t) {found : System} {event : SideEvent}
    (occurs : Occurs .perConnection t.system found event) (clientUp : found.clientUp = true)
    (serverUp : found.serverUp = true) :
    (t.next found event).pings = (t.next found event).pongs ++
      pongIds (found.toClient ++ event.serverSays found) ++
      pingIds (found.toServer ++ event.clientSays found) := by
  cases occurs with
  | clientConnected drawn toServer toClient server client
  | clientDisconnected toServer toClient server client
  | serverConnected drawn toServer toClient server client
  | serverDisconnected toServer toClient server client =>
    obtain rfl : toServer = [] := server
    obtain rfl : toClient = [] := client
    rfl
  | clientReceives m rest head =>
    have accepted := h.toClient m (by rw [head]; exact List.mem_cons_self)
    have silent := client_says_pings t.system.client (.messageReceived m)
      (by rintro _ ⟨⟩; exact accepted) nofun
    have answered := h.answered clientUp serverUp
    have split : pongIds t.system.toClient = pongIds [m] ++ pongIds rest := by
      rw [head, ← pongIds_append]
      rfl
    rw [t.next_pings rfl, t.next_pongs rfl]
    simp only [SideEvent.clientSays, SideEvent.serverSays, SideEvent.clientHears, silent,
      List.append_nil, pingIds_append, answered, split, List.append_assoc]
  | serverReceives m rest head =>
    have accepted := h.toServer m (by rw [head]; exact List.mem_cons_self)
    have pongs : pongIds (serverMessages (LogicServer.doStep t.system.server
        (.messageReceived m)).2) = pingIds [m] :=
      server_says_pongs t.system.server (.messageReceived m) (by rintro _ ⟨⟩; exact accepted)
    have answered := h.answered clientUp serverUp
    have split : pingIds t.system.toServer = pingIds [m] ++ pingIds rest := by
      rw [head, ← pingIds_append]
      rfl
    rw [t.next_pings rfl, t.next_pongs rfl]
    simp only [SideEvent.clientSays, SideEvent.serverSays, SideEvent.clientHears, pongs,
      List.append_nil, pongIds_append, pingIds_nil, pongIds_nil, answered, split,
      List.append_assoc]
  | pingRequest drawn =>
    have answered := h.answered clientUp serverUp
    rw [t.next_pings rfl, t.next_pongs rfl]
    simp only [SideEvent.clientSays, SideEvent.serverSays, SideEvent.clientHears,
      List.append_nil, pingIds_append, pongIds_nil, answered, List.append_assoc]
  | cpuSampleReady sample =>
    have silent : pongIds (serverMessages (LogicServer.doStep t.system.server
        (.cpuSampleReady sample)).2) = [] :=
      server_says_pongs t.system.server (.cpuSampleReady sample) nofun
    have answered := h.answered clientUp serverUp
    rw [t.next_pings rfl, t.next_pongs rfl]
    simp only [SideEvent.clientSays, SideEvent.serverSays, SideEvent.clientHears,
      List.append_nil, pongIds_append, pingIds_nil, pongIds_nil, silent, answered]

theorem honest_step {t t' : Traffic} (h : Honest t) (step : Traffic.Step t t') : Honest t' := by
  cases step with
  | intro found event occurs =>
    obtain ⟨foundServer, foundClient, clientSays, serverSays⟩ := h.found occurs
    obtain ⟨toServer, toClient, sameClient, sameServer⟩ := handle_channels .perConnection found event
    refine ⟨?_, ?_, ?_, ?_, ?_⟩
    · intro m hm
      change m ∈ (handle .perConnection found event).toServer at hm
      rw [toServer] at hm
      rcases List.mem_append.mp hm with old | new
      · exact foundServer m old
      · exact clientSays m (mem_carries new)
    · intro m hm
      change m ∈ (handle .perConnection found event).toClient at hm
      rw [toClient] at hm
      rcases List.mem_append.mp hm with old | new
      · exact foundClient m old
      · exact serverSays m (mem_carries new)
    · intro m hm
      rcases List.mem_append.mp hm with old | new
      · exact h.clientSaid m old
      · exact clientSays m new
    · intro m hm
      rcases List.mem_append.mp hm with old | new
      · exact h.serverSaid m old
      · exact serverSays m new
    · intro clientUp serverUp
      change (handle .perConnection found event).clientUp = true at clientUp
      change (handle .perConnection found event).serverUp = true at serverUp
      rw [sameClient] at clientUp
      rw [sameServer] at serverUp
      change _ = _ ++ pongIds (handle .perConnection found event).toClient ++
        pingIds (handle .perConnection found event).toServer
      rw [toServer, toClient, clientUp, serverUp]
      exact answered_next h occurs clientUp serverUp

/-- Whatever the order of connects, pings, samples and deliveries: neither side ever
    sends an error, each takes without one what the other sends, and while both are
    connected the pings sent are those answered, those whose answer is under way and those
    under way themselves, in this order. -/
theorem honest_traffic (t : Traffic) (reachable : t.Reachable) :
    (∀ m ∈ t.clientSaid ++ t.serverSaid, ∀ error, m ≠ .error error) ∧
    (∀ m ∈ t.clientSaid, ∀ s error,
      .error error ∉ serverMessages (LogicServer.doStep s (.messageReceived m)).2) ∧
    (∀ m ∈ t.serverSaid, ∀ s error,
      .error error ∉ clientMessages (LogicClient.doStep s (.messageReceived m)).2) ∧
    (t.system.clientUp = true → t.system.serverUp = true →
      t.pings = t.pongs ++ pongIds t.system.toClient ++ pingIds t.system.toServer) := by
  have honest : Honest t := by
    induction reachable with
    | refl => exact ⟨nofun, nofun, nofun, nofun, nofun⟩
    | tail _ step ih => exact honest_step ih step
  refine ⟨?_, ?_, ?_, honest.answered⟩
  · rintro _ hm error rfl
    rcases List.mem_append.mp hm with client | server
    · exact honest.clientSaid _ client
    · exact honest.serverSaid _ server
  · intro m hm s error answered
    exact server_says_accepted s (.messageReceived m)
      (by rintro _ ⟨⟩; exact honest.clientSaid m hm) _ answered
  · intro m hm s error answered
    exact client_says_accepted s (.messageReceived m)
      (by rintro _ ⟨⟩; exact honest.serverSaid m hm) _ answered

theorem honest_traffic_pinged :
    ∃ t : Traffic, (∀ m ∈ t.clientSaid ++ t.serverSaid, ∀ error, m ≠ .error error) ∧
      t.system.toServer = [.ping ⟨7⟩] ∧ t.pings = t.pongs ++ [7] := by
  have established : Reachable .perConnection
      (establishedSession .perConnection ⟨1, 1⟩ ⟨2, 2⟩) :=
    establishedSession_reachable (by decide) (by decide)
  obtain ⟨t, reached, same⟩ := exists_recorded established
  have asked : Occurs .perConnection t.system t.system (.client (.pingRequest 7)) := .pingRequest 7
  have clientUp : t.system.clientUp = true := by
    rw [same]
    rfl
  have serverUp : t.system.serverUp = true := by
    rw [same]
    rfl
  have sent : (t.next t.system (.client (.pingRequest 7))).system.toServer = [.ping ⟨7⟩] := by
    unfold Traffic.next
    rw [same]
    rfl
  have answers : (t.next t.system (.client (.pingRequest 7))).system.toClient = [] := by
    unfold Traffic.next
    rw [same]
    rfl
  have honest := honest_traffic _ (reached.tail (.intro t t.system _ asked))
  have answered := honest.2.2.2 clientUp serverUp
  rw [sent, answers, pongIds_nil, List.append_nil] at answered
  exact ⟨_, honest.1, sent, answered⟩

end RdpExt.HonestTraffic
