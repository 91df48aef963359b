import RdpExt.LogicServer
import RdpExt.LogicClient
import Mathlib.Logic.Relation

set_option autoImplicit false

/-!
# One client and one server joined by two channels

Both channels are first in, first out. What a transport event of either side does
to the messages in flight, and whether a message for a side that is not connected
is kept for it, is the `Policy`.
-/
namespace RdpExt.SessionSystem
open ProtocolMessage LogicEvents
open LogicServer (ServerState)
open LogicClient (ClientState)

/-- `lossy`: at a transport event any messages in flight may be dropped, and
    everything sent is queued. `perConnection`: every transport event empties both
    channels, and nothing is queued for a side that is not connected (so it
    receives nothing either). -/
inductive Policy where
  | lossy
  | perConnection
  deriving DecidableEq, Repr

namespace Policy

def Keeps {α : Type} : Policy → List α → List α → Prop
  | lossy, before, after => after.Sublist before
  | perConnection, _, after => after = []

def live : Policy → Bool → Bool
  | lossy, _ => true
  | perConnection, up => up

def carries {α : Type} (policy : Policy) (up : Bool) (sent : List α) : List α :=
  if policy.live up then sent else []

/-- Ids no connect draws, besides those the side has drawn before. -/
def reserved : Policy → List InstanceId
  | lossy => [{}]
  | perConnection => []

end Policy

/-- `clientUp` and `serverUp`: the side's latest transport event is
    TransportConnected. The drawn ids of each side are kept for freshness. -/
structure System where
  client : ClientState := {}
  server : ServerState := {}
  toServer : List Message := []
  toClient : List Message := []
  clientUp : Bool := false
  serverUp : Bool := false
  clientDrawn : List InstanceId := []
  serverDrawn : List InstanceId := []

namespace System

def clientStep (policy : Policy) (w : System) (event : ClientEvent) : System :=
  { w with
    client := (LogicClient.doStep w.client event).1
    toServer := w.toServer ++
      policy.carries w.serverUp (clientMessages (LogicClient.doStep w.client event).2) }

def serverStep (policy : Policy) (w : System) (event : ServerEvent) : System :=
  { w with
    server := (LogicServer.doStep w.server event).1
    toClient := w.toClient ++
      policy.carries w.clientUp (serverMessages (LogicServer.doStep w.server event).2) }

def clientTakes (policy : Policy) (w : System) : System :=
  match w.toClient with
  | [] => w
  | m :: rest => clientStep policy { w with toClient := rest } (.messageReceived m)

def serverTakes (policy : Policy) (w : System) : System :=
  match w.toServer with
  | [] => w
  | m :: rest => serverStep policy { w with toServer := rest } (.messageReceived m)

end System

inductive Step (policy : Policy) : System → System → Prop where
  | clientConnected (w : System) (drawn : InstanceId) (toServer toClient : List Message)
      (unreserved : drawn ∉ policy.reserved) (fresh : drawn ∉ w.clientDrawn)
      (server : policy.Keeps w.toServer toServer) (client : policy.Keeps w.toClient toClient) :
      Step policy w (System.clientStep policy
        { w with
          toServer := toServer, toClient := toClient
          clientUp := true, clientDrawn := drawn :: w.clientDrawn }
        (.transportConnected drawn))
  | clientDisconnected (w : System) (toServer toClient : List Message)
      (server : policy.Keeps w.toServer toServer) (client : policy.Keeps w.toClient toClient) :
      Step policy w (System.clientStep policy
        { w with toServer := toServer, toClient := toClient, clientUp := false }
        .transportDisconnected)
  | serverConnected (w : System) (drawn : InstanceId) (toServer toClient : List Message)
      (unreserved : drawn ∉ policy.reserved) (fresh : drawn ∉ w.serverDrawn)
      (server : policy.Keeps w.toServer toServer) (client : policy.Keeps w.toClient toClient) :
      Step policy w (System.serverStep policy
        { w with
          toServer := toServer, toClient := toClient
          serverUp := true, serverDrawn := drawn :: w.serverDrawn }
        (.transportConnected drawn))
  | serverDisconnected (w : System) (toServer toClient : List Message)
      (server : policy.Keeps w.toServer toServer) (client : policy.Keeps w.toClient toClient) :
      Step policy w (System.serverStep policy
        { w with toServer := toServer, toClient := toClient, serverUp := false }
        .transportDisconnected)
  | clientReceives (w : System) (m : Message) (rest : List Message) (head : w.toClient = m :: rest) :
      Step policy w (System.clientStep policy { w with toClient := rest } (.messageReceived m))
  | serverReceives (w : System) (m : Message) (rest : List Message) (head : w.toServer = m :: rest) :
      Step policy w (System.serverStep policy { w with toServer := rest } (.messageReceived m))
  | pingRequest (w : System) (drawn : UInt32) :
      Step policy w (System.clientStep policy w (.pingRequest drawn))
  | cpuSampleReady (w : System) (sample : CpuSample) :
      Step policy w (System.serverStep policy w (.cpuSampleReady sample))

def Reachable (policy : Policy) (w : System) : Prop := Relation.ReflTransGen (Step policy) {} w

/-- What holds at the start and is kept by every step holds in every run. -/
theorem Reachable.invariant {policy : Policy} {I : System → Prop} (start : I {})
    (step : ∀ w w', I w → Step policy w w' → I w') {w : System} (h : Reachable policy w) : I w := by
  induction h with
  | refl => exact start
  | tail _ next ih => exact step _ _ ih next

theorem Reachable.clientTakes {policy : Policy} {w : System} (h : Reachable policy w) :
    Reachable policy (w.clientTakes policy) := by
  unfold System.clientTakes
  split
  · exact h
  · exact h.tail (.clientReceives w _ _ ‹_›)

theorem Reachable.serverTakes {policy : Policy} {w : System} (h : Reachable policy w) :
    Reachable policy (w.serverTakes policy) := by
  unfold System.serverTakes
  split
  · exact h
  · exact h.tail (.serverReceives w _ _ ‹_›)

/-- The client has connected, then the server; what the client sent before is lost. -/
def openedSession (policy : Policy) (c s : InstanceId) : System :=
  System.serverStep policy
    { System.clientStep policy { clientUp := true, clientDrawn := [c] } (.transportConnected c) with
      toServer := [], toClient := [], serverUp := true, serverDrawn := [s] }
    (.transportConnected s)

/-- The Hellos are exchanged; the client's request is the next thing the server gets. -/
def askedSession (policy : Policy) (c s : InstanceId) : System :=
  ((((openedSession policy c s).clientTakes policy).serverTakes policy).clientTakes
    policy).serverTakes policy

def establishedSession (policy : Policy) (c s : InstanceId) : System :=
  ((askedSession policy c s).serverTakes policy).clientTakes policy

theorem openedSession_reachable {policy : Policy} {c s : InstanceId} (hc : c ∉ policy.reserved)
    (hs : s ∉ policy.reserved) : Reachable policy (openedSession policy c s) := by
  have nothing : ∀ queue : List Message, policy.Keeps queue [] := by
    intro queue
    cases policy with
    | lossy => exact List.nil_sublist queue
    | perConnection => rfl
  have client : Reachable policy
      (System.clientStep policy { clientUp := true, clientDrawn := [c] } (.transportConnected c)) :=
    Relation.ReflTransGen.single
      (.clientConnected {} c [] [] hc List.not_mem_nil (nothing _) (nothing _))
  exact client.tail (.serverConnected _ s [] [] hs List.not_mem_nil (nothing _) (nothing _))

theorem askedSession_reachable {policy : Policy} {c s : InstanceId} (hc : c ∉ policy.reserved)
    (hs : s ∉ policy.reserved) : Reachable policy (askedSession policy c s) :=
  (openedSession_reachable hc hs).clientTakes.serverTakes.clientTakes.serverTakes

theorem establishedSession_reachable {policy : Policy} {c s : InstanceId}
    (hc : c ∉ policy.reserved) (hs : s ∉ policy.reserved) :
    Reachable policy (establishedSession policy c s) :=
  (askedSession_reachable hc hs).serverTakes.clientTakes

end RdpExt.SessionSystem
