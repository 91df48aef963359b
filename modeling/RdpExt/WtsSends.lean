import RdpExt.WtsChannel
import RdpExt.TraceInvariant

set_option autoImplicit false

/-!
# Sends on one channel: whole, or the channel is closed

A write has two results, whether it succeeded and how many bytes it took, and `send`
looks at the first only.
-/
namespace RdpExt.WtsSends
open ProtocolMessage WtsChannel TraceInvariant

/-- A call of `send` with the results of its write, should it come to one. -/
structure SendCall where
  bytes : Buffer
  result : WriteResult
  bounded : ∀ bytesWritten, result = .writes bytesWritten → bytesWritten ≤ bytes.length

/-- The transport and the buffers that `send` was called with. -/
structure Sending where
  wts : WtsTransport
  sent : List Buffer := []

def step (s : Sending) (call : SendCall) : Sending where
  wts := s.wts.send call.bytes call.result
  sent := s.sent ++ [call.bytes]

structure Fresh (w : WtsTransport) : Prop where
  usable : w.usable = true
  connected : w.state = .connected
  accepted : w.accepted = []

/-- The channel accepted all that was sent, or it accepted so many whole buffers and of
    the next at most a part, and it is closed and the disconnect reported. -/
def WholeOrClosed (s : Sending) : Prop :=
  s.wts.accepted = s.sent.flatten ∨
    ∃ whole cut later part, s.sent = whole ++ cut :: later ∧ part <+: cut ∧
      s.wts.accepted = whole.flatten ++ part ∧ s.wts.channel = none ∧
        s.wts.calls.getLast? = some .disconnected

/-- A write made on the open channel took, if it succeeded, all it was given. -/
def TakesAll (s : Sending) (call : SendCall) : Prop :=
  s.wts.channel ≠ none →
    ∀ bytesWritten, call.result = .writes bytesWritten → bytesWritten = call.bytes.length

/-- What holds anyway: an open channel is a connected one, a closed one was reported. -/
structure OpenOrReported (s : Sending) : Prop where
  running : s.wts.running = true
  connected : s.wts.channel ≠ none → s.wts.state = .connected
  reported : s.wts.channel = none → s.wts.calls.getLast? = some .disconnected

theorem send_closed {w : WtsTransport} (closed : w.channel = none) (bytes : Buffer)
    (result : WriteResult) : w.send bytes result = w := by
  unfold WtsTransport.send WtsTransport.usable
  rw [closed]
  simp

theorem send_writes {w : WtsTransport} (usable : w.usable = true) (bytes : Buffer)
    (bytesWritten : ℕ) : w.send bytes (.writes bytesWritten) = w.write bytes bytesWritten := by
  simp only [WtsTransport.send, usable, Bool.not_true, Bool.false_eq_true, ↓reduceIte]

theorem send_fails {w : WtsTransport} (usable : w.usable = true) (connected : w.state = .connected)
    (bytes : Buffer) :
    (w.send bytes .fails).channel = none ∧ (w.send bytes .fails).running = w.running ∧
      (w.send bytes .fails).accepted = w.accepted ∧
      (w.send bytes .fails).calls = w.calls ++ [.disconnected] := by
  simp [WtsTransport.send, usable, WtsTransport.closeChannel, WtsTransport.closeBlock,
    WtsTransport.use, connected, WtsTransport.call]

theorem openOrReported_step (s : Sending) (call : SendCall) (h : OpenOrReported s) :
    OpenOrReported (step s call) := by
  by_cases closed : s.wts.channel = none
  · have same : (step s call).wts = s.wts := send_closed closed call.bytes call.result
    refine ⟨?_, ?_, ?_⟩
    · rw [same]
      exact h.running
    · rw [same]
      exact h.connected
    · rw [same]
      exact h.reported
  · have usable := WtsTransport.usable_iff.mpr ⟨h.running, closed⟩
    unfold step
    cases result : call.result with
    | writes bytesWritten =>
      rw [send_writes usable]
      exact ⟨h.running, h.connected, h.reported⟩
    | fails =>
      obtain ⟨channel, running, _, calls⟩ := send_fails usable (h.connected closed) call.bytes
      refine ⟨?_, ?_, ?_⟩
      · rw [running]
        exact h.running
      · exact fun valid => absurd channel valid
      · intro _
        rw [calls, List.getLast?_concat]

/-- A send behind a close leaves things as they are. -/
theorem WholeOrClosed.refused {s : Sending} (h : WholeOrClosed s) (base : OpenOrReported s)
    (closed : s.wts.channel = none) (call : SendCall) : WholeOrClosed (step s call) := by
  have same : (step s call).wts = s.wts := send_closed closed call.bytes call.result
  unfold WholeOrClosed
  rw [same]
  right
  rcases h with all | ⟨whole, cut, later, part, sent, starts, accepted, _, reported⟩
  · refine ⟨s.sent, call.bytes, [], [], rfl, List.nil_prefix, ?_, closed, base.reported closed⟩
    rw [all, List.append_nil]
  · refine ⟨whole, cut, later ++ [call.bytes], part, ?_, starts, accepted, closed, reported⟩
    change s.sent ++ [call.bytes] = _
    rw [sent, List.append_assoc, List.cons_append]

theorem WholeOrClosed.whole {s : Sending} (h : WholeOrClosed s) (valid : s.wts.channel ≠ none) :
    s.wts.accepted = s.sent.flatten := by
  rcases h with all | ⟨_, _, _, _, _, _, _, closed, _⟩
  · exact all
  · exact absurd closed valid

section
variable {s : Sending} {call : SendCall} (usable : s.wts.usable = true)
  (whole : s.wts.accepted = s.sent.flatten)
include usable whole

theorem wholeOrClosed_of_fails (connected : s.wts.state = .connected)
    (result : call.result = .fails) : WholeOrClosed (step s call) := by
  obtain ⟨channel, _, accepted, calls⟩ := send_fails usable connected call.bytes
  have sent : (step s call).wts = s.wts.send call.bytes .fails := by
    unfold step
    rw [result]
  right
  refine ⟨s.sent, call.bytes, [], [], rfl, List.nil_prefix, ?_, ?_, ?_⟩
  · rw [sent, accepted, whole, List.append_nil]
  · rw [sent, channel]
  · rw [sent, calls, List.getLast?_concat]

/-- The channel stays open, so the bytes accepted must be all that were sent. -/
theorem wholeOrClosed_writes_iff {bytesWritten : ℕ} (result : call.result = .writes bytesWritten) :
    WholeOrClosed (step s call) ↔ bytesWritten = call.bytes.length := by
  have bound := call.bounded bytesWritten result
  have sent : (step s call).wts = s.wts.write call.bytes bytesWritten := by
    unfold step
    rw [result, send_writes usable]
  have accepted : (step s call).wts.accepted = s.sent.flatten ++ call.bytes.take bytesWritten := by
    rw [sent, ← whole]
    rfl
  have total : (step s call).sent.flatten = s.sent.flatten ++ call.bytes := by
    change (s.sent ++ [call.bytes]).flatten = _
    rw [List.flatten_append, List.flatten_singleton]
  constructor
  · intro h
    have all := h.whole (by rw [sent]; exact (WtsTransport.usable_iff.mp usable).2)
    rw [accepted, total] at all
    have lengths := congrArg List.length (List.append_cancel_left all)
    rw [List.length_take] at lengths
    omega
  · rintro rfl
    left
    rw [accepted, total, List.take_length]

end

theorem wholeOrClosed_step_iff (s : Sending) (call : SendCall) (base : OpenOrReported s)
    (h : WholeOrClosed s) : WholeOrClosed (step s call) ↔ TakesAll s call := by
  by_cases closed : s.wts.channel = none
  · exact iff_of_true (h.refused base closed call) fun valid => absurd closed valid
  have usable := WtsTransport.usable_iff.mpr ⟨base.running, closed⟩
  have whole := h.whole closed
  cases result : call.result with
  | fails =>
    refine iff_of_true (wholeOrClosed_of_fails usable whole (base.connected closed) result) ?_
    intro _ _ writes
    rw [result] at writes
    cases writes
  | writes bytesWritten =>
    rw [wholeOrClosed_writes_iff usable whole result]
    constructor
    · intro all _ _ writes
      rw [result] at writes
      cases writes
      exact all
    · exact fun takesAll => takesAll closed bytesWritten result

/-- Sends are whole or the channel is closed in exactly those runs where every write
    that succeeds takes all it is given. -/
theorem sends_whole_iff (w : WtsTransport) (fresh : Fresh w) (trace : List SendCall) :
    Throughout step WholeOrClosed ⟨w, []⟩ trace ↔ EveryStep step TakesAll ⟨w, []⟩ trace := by
  obtain ⟨running, valid⟩ := WtsTransport.usable_iff.mp fresh.usable
  have base : OpenOrReported ⟨w, []⟩ :=
    ⟨running, fun _ => fresh.connected, fun closed => absurd closed valid⟩
  have whole : WholeOrClosed ⟨w, []⟩ := .inl fresh.accepted
  exact throughout_iff_everyStep OpenOrReported openOrReported_step wholeOrClosed_step_iff base
    whole trace

theorem firstOpened_fresh : Fresh WtsTransport.firstOpened := ⟨rfl, rfl, rfl⟩

def wholeSend (bytes : Buffer) : SendCall where
  bytes := bytes
  result := .writes bytes.length
  bounded := by
    rintro _ ⟨⟩
    exact Nat.le_refl _

theorem wholeSend_takesAll (s : Sending) (bytes : Buffer) : TakesAll s (wholeSend bytes) := by
  rintro _ _ ⟨⟩
  rfl

theorem sends_whole_iff_two :
    Throughout step WholeOrClosed ⟨WtsTransport.firstOpened, []⟩ [wholeSend [1, 2, 3], wholeSend [4]] := by
  refine (sends_whole_iff _ firstOpened_fresh _).mpr fun past call made => ?_
  have known : call ∈ [wholeSend [1, 2, 3], wholeSend [4]] :=
    made.subset (List.mem_append_right past List.mem_cons_self)
  rcases List.mem_pair.mp known with rfl | rfl
  · exact wholeSend_takesAll _ _
  · exact wholeSend_takesAll _ _

def shortSend : SendCall where
  bytes := [1, 2, 3]
  result := .writes 1
  bounded := by
    rintro _ ⟨⟩
    decide

/-- One byte of three is accepted, and the next message follows it on the open channel. -/
theorem short_write_goes_on :
    (([shortSend, wholeSend [4]].foldl step ⟨WtsTransport.firstOpened, []⟩).wts.accepted = [1, 4]) ∧
      ¬ Throughout step WholeOrClosed ⟨WtsTransport.firstOpened, []⟩ [shortSend, wholeSend [4]] := by
  refine ⟨rfl, fun h => ?_⟩
  rcases h _ (List.prefix_refl _) with all | ⟨_, _, _, _, _, _, _, invalid, _⟩
  · revert all
    decide
  · cases invalid

end RdpExt.WtsSends
