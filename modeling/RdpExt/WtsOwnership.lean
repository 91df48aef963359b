import RdpExt.WtsHandles
import RdpExt.WtsChannel

set_option autoImplicit false

/-!
# Who closes the channels: `wts_transport.cpp`

The transport's operations one after the other, each as a whole, and the calls of the WTS
API they come to, up to the end of the destructor.
-/
namespace RdpExt.WtsOwnership
open HandleLedger WtsHandles
open WtsChannel (WorkerState HandlerCall WriteResult)

structure WtsTransport where
  running : Bool := false
  channel : WtsChannelHandle := {}
  state : WorkerState := .stopped
  handlers : List HandlerCall := []
  log : List ApiCall := []
  deriving DecidableEq, Repr

/-- A read ends before it begins where the event for it cannot be had. -/
inductive ReadResult where
  | noEvent
  | fails
  | reads (bytesRead : ℕ)
  deriving DecidableEq, Repr

namespace WtsTransport

def stop (w : WtsTransport) : WtsTransport := { w with running := false }

def stopIf (w : WtsTransport) (clears : Bool) : WtsTransport := if clears then w.stop else w

def made (w : WtsTransport) (calls : List ApiCall) : WtsTransport := { w with log := w.log ++ calls }

def closeChannel (w : WtsTransport) : WtsTransport :=
  let reset := w.channel.reset 0 0
  { w.made reset.2 with
    channel := reset.1
    state := .disconnected
    handlers := w.handlers ++ if w.state = .connected then [.disconnected] else [] }

/-- The second block of `tryOpenChannel`, with the handle `channel_opt` holds. What is left
    in there is destroyed at each return. -/
def install (w : WtsTransport) (handle : WtsChannelHandle) : WtsTransport × Bool :=
  if !w.running then (w.made handle.destroy, false)
  else if w.channel.valid then ({ w.made handle.destroy with state := .connected }, true)
  else
    let (channel, left, released) := w.channel.moveAssign handle
    ({ w.made (released ++ left.destroy) with
        channel := channel, state := .connected, handlers := w.handlers ++ [.connected] }, true)

/-- `running_` may be cleared before the first look at it and between the two; behind the
    second it is as if it were cleared after the call. -/
def tryOpenChannel (w : WtsTransport) (opening : Opening) (clearsFirst clearsBetween : Bool) :
    WtsTransport × Bool :=
  let w := w.stopIf clearsFirst
  if !w.running then (w, false)
  else if w.channel.valid then ({ w with state := .connected }, true)
  else
    let opened := WtsChannelHandle.openHandle opening
    let w := ({ w with state := .opening }.made opened.2).stopIf clearsBetween
    match opened.1 with
    | none => ({ w with state := .disconnected }, false)
    | some handle => w.install handle

def send (w : WtsTransport) (result : WriteResult) : WtsTransport :=
  if !w.running || !w.channel.valid then w
  else
    let w := w.made [.used .written w.channel.channelHandle]
    match result with
    | .fails => w.closeChannel
    | .writes _ => w

def readOnce (w : WtsTransport) (result : ReadResult) : WtsTransport × Bool :=
  if !w.running || !w.channel.valid then (w, false)
  else
    match result with
    | .noEvent => (w, false)
    | .fails => (w.made [.used (.read w.channel.fileHandle) w.channel.channelHandle], false)
    | .reads _ =>
      (w.made [.used (.read w.channel.fileHandle) w.channel.channelHandle], w.running)

/-- The calls made in the whole life of a transport that is destroyed here. -/
def destroy (w : WtsTransport) : List ApiCall := w.log ++ w.channel.destroy

end WtsTransport

/-- `run` sets `running_`; its other parts are operations of their own. -/
inductive Op where
  | run
  | tryOpenChannel (opening : Opening) (clearsFirst clearsBetween : Bool)
  | readOnce (result : ReadResult)
  | send (result : WriteResult)
  | close
  | stop
  | loopExit
  deriving DecidableEq, Repr

open WtsTransport in
def step (w : WtsTransport) : Op → WtsTransport
  | .run => { w with running := true }
  | .tryOpenChannel opening clearsFirst clearsBetween =>
    (w.tryOpenChannel opening clearsFirst clearsBetween).1
  | .readOnce result => (w.readOnce result).1
  | .send result => w.send result
  | .close => w.closeChannel
  | .stop => w.stop
  | .loopExit => w.closeChannel

/-- What the latest query of a handle gave. -/
def fileOf (log : List ApiCall) (handle : HANDLE) : HANDLE :=
  log.foldl (fun file call =>
    match call with
    | .used (.queried answer) other => if other = handle then answer else file
    | _ => file) 0

/-- Every read is made on the file handle of its channel. -/
def ReadsOwnFile (log : List ApiCall) : Prop :=
  ∀ before file handle, before ++ [.used (.read file) handle] <+: log →
    fileOf before handle = file

/-- Between two operations `channel_` owns what is open, and nothing else does. -/
structure Owned (w : WtsTransport) : Prop where
  whole : w.channel = ⟨0, 0⟩ ∨ w.channel.valid = true
  proper : Proper [] w.log
  held : live [] w.log = w.channel.owned
  file : w.channel.valid = true → fileOf w.log w.channel.channelHandle = w.channel.fileHandle
  reads : ReadsOwnFile w.log

namespace WtsTransport

@[simp] theorem stopIf_channel (w : WtsTransport) (clears : Bool) :
    (w.stopIf clears).channel = w.channel := by
  cases clears <;> rfl

@[simp] theorem stopIf_log (w : WtsTransport) (clears : Bool) : (w.stopIf clears).log = w.log := by
  cases clears <;> rfl

theorem closeChannel_log (w : WtsTransport) :
    w.closeChannel.log = w.log ++ w.channel.owned.map .closed := by
  rw [← WtsChannelHandle.destroy_eq]
  rfl

theorem install_cases (w : WtsTransport) (handle : WtsChannelHandle) (null : w.channel = ⟨0, 0⟩) :
    ((w.install handle).1.channel = ⟨0, 0⟩ ∧ (w.install handle).1.log = w.log ++ handle.destroy) ∨
      (w.install handle).1.channel = handle ∧ (w.install handle).1.log = w.log := by
  unfold install
  split_ifs with stopped valid
  · exact .inl ⟨null, rfl⟩
  · exact .inl ⟨null, rfl⟩
  · refine .inr ?_
    rw [null]
    exact ⟨rfl, List.append_nil _⟩

/-- All that `tryOpenChannel` can do to the channel and the log. -/
theorem tryOpenChannel_cases (w : WtsTransport) (opening : Opening) (clearsFirst clearsBetween : Bool)
    (whole : w.channel = ⟨0, 0⟩ ∨ w.channel.valid = true) (w' : WtsTransport)
    (result : (w.tryOpenChannel opening clearsFirst clearsBetween).1 = w') :
    (w'.channel = w.channel ∧ w'.log = w.log) ∨
      w.channel = ⟨0, 0⟩ ∧
        ((w'.channel = ⟨0, 0⟩ ∧ ∃ h answer,
          w'.log = w.log ++ [.opened h, .used (.queried answer) h, .closed h]) ∨
        w'.channel.valid = true ∧ w'.log = w.log ++ [.opened w'.channel.channelHandle,
          .used (.queried w'.channel.fileHandle) w'.channel.channelHandle]) := by
  unfold tryOpenChannel at result
  simp only at result
  split_ifs at result with stopped valid
  · exact .inl (by simp [← result])
  · exact .inl (by simp [← result])
  have null : w.channel = ⟨0, 0⟩ := by
    rw [stopIf_channel] at valid
    exact whole.resolve_right valid
  rcases WtsChannelHandle.openHandle_cases opening with none | ⟨h, released⟩ | ⟨handle, valid, kept⟩
  · rw [none] at result
    exact .inl (by simp [← result, made])
  · rw [released] at result
    exact .inr ⟨null, .inl ⟨by simp [← result, made, null], h, 0, by simp [← result, made]⟩⟩
  · rw [kept] at result
    simp only at result
    refine .inr ⟨null, ?_⟩
    generalize opened : WtsTransport.stopIf _ clearsBetween = w₁ at result
    have null₁ : w₁.channel = ⟨0, 0⟩ := by simp [← opened, made, null]
    have log₁ : w₁.log = w.log ++ [.opened handle.channelHandle,
        .used (.queried handle.fileHandle) handle.channelHandle] := by simp [← opened, made]
    rcases install_cases w₁ handle null₁ with ⟨back, log⟩ | ⟨taken, log⟩
    · rw [result, log₁, WtsChannelHandle.destroy_eq, WtsChannelHandle.owned_of_valid valid] at log
      rw [result] at back
      exact .inl ⟨back, handle.channelHandle, handle.fileHandle, by simp [log]⟩
    · rw [result, log₁] at log
      rw [result] at taken
      exact .inr ⟨taken ▸ valid, taken ▸ log⟩

end WtsTransport

theorem readsOwnFile_concat (log : List ApiCall) (call : ApiCall) : ReadsOwnFile (log ++ [call]) ↔
    ReadsOwnFile log ∧ ∀ file handle, call = .used (.read file) handle → fileOf log handle = file := by
  constructor
  · intro all
    refine ⟨fun before file handle part => ?_, fun file handle last => ?_⟩
    · exact all before file handle (part.trans (List.prefix_append log [call]))
    · exact all log file handle (last ▸ List.prefix_rfl)
  · rintro ⟨past, now⟩ before file handle part
    rcases List.prefix_concat_iff.mp part with whole | inside
    · obtain ⟨rfl, last⟩ := List.append_inj' whole rfl
      exact now file handle (List.singleton_inj.mp last).symm
    · exact past before file handle inside

theorem readsOwnFile_append {log calls : List ApiCall} (past : ReadsOwnFile log)
    (silent : ∀ file handle, .used (.read file) handle ∉ calls) : ReadsOwnFile (log ++ calls) := by
  induction calls using List.reverseRecOn with
  | nil => rwa [List.append_nil]
  | append_singleton calls call ih =>
    rw [← List.append_assoc, readsOwnFile_concat]
    refine ⟨ih fun file handle known => ?_, fun file handle last => ?_⟩
    · exact silent file handle (List.mem_append_left _ known)
    · exact absurd (last ▸ List.mem_append_right _ List.mem_cons_self) (silent file handle)

theorem Owned.extend {w w' : WtsTransport} (h : Owned w) (calls : List ApiCall)
    (log : w'.log = w.log ++ calls) (whole : w'.channel = ⟨0, 0⟩ ∨ w'.channel.valid = true)
    (proper : Proper w.channel.owned calls) (held : live w.channel.owned calls = w'.channel.owned)
    (file : w'.channel.valid = true →
      fileOf (w.log ++ calls) w'.channel.channelHandle = w'.channel.fileHandle)
    (reads : ReadsOwnFile (w.log ++ calls)) : Owned w' where
  whole := whole
  proper := by rw [log, proper_append, h.held]; exact ⟨h.proper, proper⟩
  held := by rw [log, live_append, h.held, held]
  file := by rw [log]; exact file
  reads := by rw [log]; exact reads

theorem Owned.same {w w' : WtsTransport} (h : Owned w) (channel : w'.channel = w.channel)
    (log : w'.log = w.log) : Owned w' where
  whole := by rw [channel]; exact h.whole
  proper := by rw [log]; exact h.proper
  held := by rw [log, channel]; exact h.held
  file := by rw [log, channel]; exact h.file
  reads := by rw [log]; exact h.reads

theorem Owned.used {w : WtsTransport} (h : Owned w) (valid : w.channel.valid = true) (use : Use)
    (unasked : ∀ answer, use ≠ .queried answer) (own : ∀ file, use = .read file →
      file = w.channel.fileHandle) : Owned (w.made [.used use w.channel.channelHandle]) := by
  refine h.extend _ rfl h.whole ?_ rfl (fun _ => ?_) ?_
  · rw [WtsChannelHandle.owned_of_valid valid, proper_cons]
    exact ⟨List.mem_singleton_self _, proper_nil _⟩
  · rw [fileOf, List.foldl_append]
    cases use with
    | queried answer => exact absurd rfl (unasked answer)
    | read _ | written => exact h.file valid
  · rw [readsOwnFile_concat]
    refine ⟨h.reads, fun file handle read => ?_⟩
    cases read
    rw [own file rfl]
    exact h.file valid

theorem Owned.read {w : WtsTransport} (h : Owned w) (valid : w.channel.valid = true) :
    Owned (w.made [.used (.read w.channel.fileHandle) w.channel.channelHandle]) :=
  h.used valid _ (by simp) (by simp)

theorem Owned.written {w : WtsTransport} (h : Owned w) (valid : w.channel.valid = true) :
    Owned (w.made [.used .written w.channel.channelHandle]) :=
  h.used valid _ (by simp) (by simp)

theorem proper_close (self : WtsChannelHandle) :
    Proper self.owned (self.owned.map .closed : List ApiCall) ∧
      live self.owned (self.owned.map .closed : List ApiCall) = [] := by
  unfold WtsChannelHandle.owned
  split_ifs
  · simp [proper_cons, proper_nil, Act.Proper, Act.on]
  · exact ⟨proper_nil _, rfl⟩

theorem Owned.close {w : WtsTransport} (h : Owned w) : Owned w.closeChannel := by
  obtain ⟨proper, none⟩ := proper_close w.channel
  refine h.extend _ w.closeChannel_log (.inl rfl) proper none nofun (readsOwnFile_append h.reads ?_)
  simp

theorem Owned.tryOpen {w : WtsTransport} (h : Owned w) (opening : Opening)
    (clearsFirst clearsBetween : Bool) :
    Owned (w.tryOpenChannel opening clearsFirst clearsBetween).1 := by
  rcases w.tryOpenChannel_cases opening clearsFirst clearsBetween h.whole _ rfl with
    ⟨channel, log⟩ | ⟨null, ⟨channel, handle, answer, log⟩ | ⟨valid, log⟩⟩
  · exact h.same channel log
  · refine h.extend _ log (.inl channel) ?_ ?_ ?_ (readsOwnFile_append h.reads (by simp))
    · simp [null, proper_cons, proper_nil, Act.Proper, Act.on]
    · simp [null, channel, Act.on]
    · intro valid
      rw [channel] at valid
      cases valid
  · refine h.extend _ log (.inr valid) ?_ ?_ ?_ (readsOwnFile_append h.reads (by simp))
    · simp [null, proper_cons, proper_nil, Act.Proper, Act.on]
    · rw [WtsChannelHandle.owned_of_valid valid]
      simp [null, Act.on]
    · intro _
      simp [fileOf]

theorem valid_of_usable {w : WtsTransport} (usable : ¬ (!w.running || !w.channel.valid) = true) :
    w.channel.valid = true := by
  rw [Bool.or_eq_true, not_or, Bool.not_eq_true', Bool.not_eq_true', Bool.not_eq_false,
    Bool.not_eq_false] at usable
  exact usable.2

theorem owned_step (w : WtsTransport) (op : Op) (h : Owned w) : Owned (step w op) := by
  cases op with
  | run | stop => exact h.same rfl rfl
  | tryOpenChannel opening clearsFirst clearsBetween => exact h.tryOpen _ _ _
  | close | loopExit => exact h.close
  | readOnce result =>
    change Owned (w.readOnce result).1
    unfold WtsTransport.readOnce
    split_ifs with unusable
    · exact h
    · have valid := valid_of_usable unusable
      cases result with
      | noEvent => exact h
      | fails | reads bytesRead => exact h.read valid
  | send result =>
    change Owned (w.send result)
    unfold WtsTransport.send
    split_ifs with unusable
    · exact h
    · have valid := valid_of_usable unusable
      cases result with
      | fails => exact (h.written valid).close
      | writes bytesWritten => exact h.written valid

theorem owned_run (ops : List Op) : Owned (ops.foldl step {}) := by
  have start : Owned {} := ⟨.inl rfl, proper_nil _, rfl, nofun, fun before file handle part => by
    simp at part⟩
  exact List.foldlRecOn ops step start fun w h op _ => owned_step w op h

theorem WtsTransport.destroy_eq (w : WtsTransport) : w.destroy = w.closeChannel.log := by
  rw [w.closeChannel_log, ← WtsChannelHandle.destroy_eq]
  rfl

/-- Up to the end of the destructor, what was opened has been closed, and nothing was used
    behind its close; between two operations one channel is open at most. -/
theorem channels_closed_once (ops : List Op) :
    let log := (ops.foldl step {}).destroy
    (∀ handle, log.count (.opened handle) = log.count (.closed handle)) ∧
      (∀ before, before <+: log → ∀ handle,
        before.count (.closed handle) ≤ before.count (.opened handle) ∧
          before.count (.opened handle) ≤ before.count (.closed handle) + 1) ∧
      (∀ before use handle, before ++ [.used use handle] <+: log →
        before.count (.opened handle) = before.count (.closed handle) + 1) ∧
      ReadsOwnFile log ∧
      ∀ past, past <+: ops → (live [] (past.foldl step {}).log).length ≤ 1 := by
  intro log
  have destroyed : log = (ops.foldl step {}).closeChannel.log := WtsTransport.destroy_eq _
  have final : Owned (ops.foldl step {}).closeChannel := (owned_run ops).close
  have proper : Proper [] log := by
    rw [destroyed]
    exact final.proper
  have none : live [] log = [] := by
    rw [destroyed]
    exact final.held
  refine ⟨fun handle => ?_, fun before part => ?_, fun before use handle part => ?_, ?_,
    fun past _ => ?_⟩
  · have accounts := proper.accounts handle
    rw [none, List.count_nil] at accounts
    omega
  · exact (proper.of_prefix part).alternates
  · exact (proper.of_prefix part).used_open
  · rw [destroyed]
    exact final.reads
  · rw [(owned_run past).held]
    exact WtsChannelHandle.owned_length_le _

/-- `stop` between the open and the second look at `running_`. -/
example : ([.run, .tryOpenChannel ⟨5, .returns (some 9) 8⟩ false true].foldl step {}).destroy =
    [.opened 5, .used (.queried 9) 5, .closed 5] := by decide

end RdpExt.WtsOwnership
