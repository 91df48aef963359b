import RdpExt.Controller

set_option autoImplicit false

/-!
# The server's two threads: `wts_transport.cpp`

The transport's thread opens channels 1, 2, 3, ..., reads from them and reports to the
controller; the executor's thread writes. Either may call `closeChannel`, and the steps
of the other fall between its lock and its report.
Every output is stamped with the connection it was made for: how many connects the
machine had handled when it stepped.
-/
namespace RdpExt.WtsTransport
open ProtocolMessage ProtocolSerializer LogicEvents LogicServer DeferredOutput Controller

def isConnect : ServerEvent → Bool
  | .transportConnected _ => true
  | _ => false

def stampHandling (connection : ℕ) : Handling TransportCall → Handling (TransportCall × ℕ)
  | .posts call => .posts (call, connection)
  | .direct => .direct
  | .mayThrow => .mayThrow
  | .throws => .throws

/-- The server's controller, its outputs stamped. -/
def stampedController (zpp : ZppBits) : Wiring ServerCallback (ServerState × ℕ) ServerEvent
    (ServerEffect × ℕ) (TransportCall × ℕ) where
  decode := serverEvent? zpp
  react s event :=
    let connection := if isConnect event then s.2 + 1 else s.2
    (((doStep s.1 event).1, connection), (doStep s.1 event).2.map fun x => (x, connection))
  handle x := stampHandling x.2 (handleServerEffect zpp x.1)

abbrev ServerLoop := Loop ServerCallback (ServerState × ℕ) (ServerEffect × ℕ) (TransportCall × ℕ)

/-- Where a call of `closeChannel` is: in front of its lock, or behind it with a
    disconnect to report. -/
inductive Closing where
  | locks
  | reports
  deriving DecidableEq, Repr

/-- `was_connected`: only the call that found the channel open reports. -/
def Closing.behindLock (channel : Option ℕ) : Option Closing :=
  if channel.isSome then some .reports else none

/-- Where the transport's thread is in `run`: in front of an open, behind one it has yet
    to report, at the head of the read loop, in a read, in `closeChannel`. -/
inductive Phase where
  | idle
  | opened
  | reading
  | inRead
  | closing (stage : Closing)
  deriving DecidableEq, Repr

def Phase.ofClosing : Option Closing → Phase
  | some stage => .closing stage
  | none => .idle

structure Written where
  channel : ℕ
  connection : ℕ
  bytes : Buffer
  deriving DecidableEq, Repr

/-- `closing` is the executor's own call of `closeChannel`, `opened` how many channels
    were opened so far. -/
structure Server where
  loop : ServerLoop := { machine := ({}, 0) }
  phase : Phase := .idle
  closing : Option Closing := none
  channel : Option ℕ := none
  opened : ℕ := 0
  written : List Written := []

def Server.openChannel (w : Server) : Server :=
  { w with phase := .opened, channel := some (w.opened + 1), opened := w.opened + 1 }

/-- One step of either thread. -/
inductive Step (zpp : ZppBits) : Server → Server → Prop where
  | opens (w : Server) (idle : w.phase = .idle) (invalid : w.channel = none) :
      Step zpp w w.openChannel
  | findsOpen (w : Server) (idle : w.phase = .idle) (valid : w.channel ≠ none) :
      Step zpp w { w with phase := .reading }
  | reportsOpen (w : Server) (drawn : InstanceId) (opened : w.phase = .opened) :
      Step zpp w { w with phase := .reading, loop := w.loop.arrive (.connected drawn) }
  | startsRead (w : Server) (reading : w.phase = .reading) (valid : w.channel ≠ none) :
      Step zpp w { w with phase := .inRead }
  | findsClosed (w : Server) (reading : w.phase = .reading) (invalid : w.channel = none) :
      Step zpp w { w with phase := .closing .locks }
  | reads (w : Server) (data : Buffer) (inRead : w.phase = .inRead) :
      Step zpp w { w with phase := .reading, loop := w.loop.arrive (.bytes data) }
  | readsNothing (w : Server) (inRead : w.phase = .inRead) : Step zpp w { w with phase := .reading }
  | readFails (w : Server) (inRead : w.phase = .inRead) :
      Step zpp w { w with phase := .closing .locks }
  | closes (w : Server) (closing : w.phase = .closing .locks) :
      Step zpp w { w with phase := .ofClosing (Closing.behindLock w.channel), channel := none }
  | reportsClose (w : Server) (closing : w.phase = .closing .reports) :
      Step zpp w { w with phase := .idle, loop := w.loop.arrive .disconnected }
  -- The timer's tick is a task of the executor's own: it takes its sample between two others.
  | samples (w : Server) (sample : CpuSample) (free : w.closing = none)
      (idle : w.loop.effects = []) :
      Step zpp w { w with loop := w.loop.arrive (.sample sample) }
  | executes (w : Server) (loop' : ServerLoop) (free : w.closing = none)
      (exec : Exec (stampedController zpp) w.loop none loop') : Step zpp w { w with loop := loop' }
  | writes (w : Server) (loop' : ServerLoop) (bytes : Buffer) (connection k : ℕ)
      (free : w.closing = none)
      (exec : Exec (stampedController zpp) w.loop (some (.send bytes, connection)) loop')
      (valid : w.channel = some k) :
      Step zpp w { w with loop := loop', written := w.written ++ [⟨k, connection, bytes⟩] }
  -- `send` has let go of the lock by then, so the channel may be closed by now.
  | writeFails (w : Server) (loop' : ServerLoop) (bytes : Buffer) (connection : ℕ)
      (free : w.closing = none)
      (exec : Exec (stampedController zpp) w.loop (some (.send bytes, connection)) loop') :
      Step zpp w { w with loop := loop', closing := some .locks }
  | drops (w : Server) (loop' : ServerLoop) (bytes : Buffer) (connection : ℕ)
      (free : w.closing = none)
      (exec : Exec (stampedController zpp) w.loop (some (.send bytes, connection)) loop')
      (invalid : w.channel = none) : Step zpp w { w with loop := loop' }
  | closesOnRequest (w : Server) (loop' : ServerLoop) (connection : ℕ) (free : w.closing = none)
      (exec : Exec (stampedController zpp) w.loop (some (.close, connection)) loop') :
      Step zpp w { w with loop := loop', closing := some .locks }
  | executorCloses (w : Server) (closing : w.closing = some .locks) :
      Step zpp w { w with closing := Closing.behindLock w.channel, channel := none }
  | executorReports (w : Server) (closing : w.closing = some .reports) :
      Step zpp w { w with closing := none, loop := w.loop.arrive .disconnected }

theorem step_loop {zpp : ZppBits} {w w' : Server} (step : Step zpp w w') :
    w'.loop = w.loop ∨ (∃ callback, w'.loop = w.loop.arrive callback) ∨
      ∃ out, Exec (stampedController zpp) w.loop out w'.loop := by
  cases step with
  | opens | findsOpen | startsRead | findsClosed | readsNothing | readFails | closes
  | executorCloses => exact .inl rfl
  | reportsOpen drawn => exact .inr (.inl ⟨.connected drawn, rfl⟩)
  | reads data => exact .inr (.inl ⟨.bytes data, rfl⟩)
  | reportsClose | executorReports => exact .inr (.inl ⟨.disconnected, rfl⟩)
  | samples sample => exact .inr (.inl ⟨.sample sample, rfl⟩)
  | executes loop' free exec => exact .inr (.inr ⟨none, exec⟩)
  | writes loop' bytes connection k free exec | writeFails loop' bytes connection free exec
  | drops loop' bytes connection free exec => exact .inr (.inr ⟨_, exec⟩)
  | closesOnRequest loop' connection free exec => exact .inr (.inr ⟨_, exec⟩)

/-- The calls still to be made for what has been reported so far. -/
def outstanding (zpp : ZppBits) (l : ServerLoop) : List (TransportCall × ℕ) :=
  ((stampedController zpp).future l).2

/-- The machine once it has handled all that has been reported so far. -/
def settled (zpp : ZppBits) (l : ServerLoop) : ServerState × ℕ :=
  ((stampedController zpp).future l).1

theorem posts_stamped (zpp : ZppBits) (effects : List ServerEffect) (connection : ℕ) :
    (stampedController zpp).posts (effects.map fun x => (x, connection)) =
      ((serverController zpp).posts effects).map fun call => (call, connection) := by
  have each (x : ServerEffect) : (stampedController zpp).posts? (x, connection) =
      ((serverController zpp).posts? x).map fun call => (call, connection) := by
    have handled : (stampedController zpp).handle (x, connection) =
        stampHandling connection ((serverController zpp).handle x) := rfl
    unfold Wiring.posts?
    rw [handled]
    cases (serverController zpp).handle x <;> rfl
  induction effects with
  | nil => rfl
  | cons x xs ih =>
    change List.filterMap _ ((x, connection) :: xs.map _) = _
    rw [List.filterMap_cons, each]
    unfold Wiring.posts at ih ⊢
    rw [ih, List.filterMap_cons]
    cases (serverController zpp).posts? x <;> rfl

/-- The machine never asks for the transport to be closed. -/
theorem posts_are_sends (zpp : ZppBits) (s : ServerState) (event : ServerEvent) :
    ∀ call ∈ (serverController zpp).posts (doStep s event).2, ∃ bytes, call = .send bytes := by
  intro call hcall
  obtain ⟨effect, known, posted⟩ := List.mem_filterMap.mp hcall
  rcases doStep_effects s event with alone | others
  · rw [alone] at known
    rw [List.mem_singleton.mp known] at posted
    cases posted
  · rcases others effect known with rfl | ⟨m, rfl, _⟩
    · cases posted
    · simp only [Wiring.posts?, serverController, handleServerEffect, handleSendMessage] at posted
      cases encoded : Serializer.serialize zpp m with
      | ok bytes =>
        rw [encoded] at posted
        cases posted
        exact ⟨bytes, rfl⟩
      | error _ =>
        rw [encoded] at posted
        cases posted

theorem abortsLast_stamped (zpp : ZppBits) {effects : List ServerEffect} (connection : ℕ)
    (safe : (serverController zpp).AbortsLast effects) :
    (stampedController zpp).AbortsLast (effects.map fun x => (x, connection)) := by
  induction effects with
  | nil => trivial
  | cons x xs ih =>
    refine ⟨fun thrown => ?_, ih safe.2⟩
    have thrown' : (serverController zpp).handle x = .throws ∨
        (serverController zpp).handle x = .mayThrow := by
      change stampHandling connection ((serverController zpp).handle x) = _ ∨
        stampHandling connection ((serverController zpp).handle x) = _ at thrown
      cases handled : (serverController zpp).handle x <;> rw [handled] at thrown <;>
        simp [stampHandling] at thrown ⊢
    rw [posts_stamped, safe.1 thrown']
    rfl

theorem stampedController_careful {zpp : ZppBits} (documented : zpp.Documented) :
    (stampedController zpp).Careful := fun s event =>
  abortsLast_stamped zpp _ (serverController_careful documented s.1 event)

end RdpExt.WtsTransport
