import RdpExt.ProtocolMessage
import Mathlib.Data.List.Basic

set_option autoImplicit false

/-!
# The server's channel: `wts_transport.cpp`, block by block

The blocks under the lock, the calls of the handlers, the reads and the writes, each
with what can be seen of it, and `closeChannel`, `send` and `readOnce` as one thread
runs them undisturbed.
-/
namespace RdpExt.WtsChannel
open ProtocolMessage

def READ_BUFFER_SIZE : ℕ := 4096

inductive WorkerState where
  | stopped
  | opening
  | connected
  | disconnected
  deriving DecidableEq, Repr

inductive HandlerCall where
  | connected
  | disconnected
  deriving DecidableEq, Repr

/-- A read or a write: what it was made on, and whether that was open then. -/
structure Use where
  channel : Option ℕ
  wasOpen : Bool
  deriving DecidableEq, Repr

/-- A channel closed because a read or a write on `failed` had failed. -/
structure FailureClose where
  failed : ℕ
  closed : ℕ
  deriving DecidableEq, Repr

/-- `running_`, `channel_` and `state_`; the channels are numbered as they are opened.
    `handles` are those open to the system, `opened` how many there were. Of what was
    done: the handlers called, the reads and writes made, the channels closed for a
    failure, the bytes the channels accepted and the buffers the bytes handler got. -/
structure WtsTransport where
  running : Bool := false
  channel : Option ℕ := none
  state : WorkerState := .stopped
  handles : List ℕ := []
  opened : ℕ := 0
  calls : List HandlerCall := []
  uses : List Use := []
  closes : List FailureClose := []
  accepted : Buffer := []
  handled : List Buffer := []
  deriving DecidableEq, Repr

/-- The second block of `tryOpenChannel`: it took the new channel, found one, or was
    not running any more. -/
inductive Installed where
  | taken
  | found
  | refused
  deriving DecidableEq, Repr

inductive WriteResult where
  | fails
  | writes (bytesWritten : ℕ)
  deriving DecidableEq, Repr

inductive ReadResult where
  | fails
  | reads (bytes : Buffer)
  deriving DecidableEq, Repr

namespace WtsTransport

/-- What `send` and `readOnce` ask under the lock. -/
def usable (w : WtsTransport) : Bool := w.running && w.channel.isSome

/-- The first block of `tryOpenChannel`, with the result if it returns there. -/
def tryOpenCheck (w : WtsTransport) : WtsTransport × Option Bool :=
  if !w.running then (w, some false)
  else if w.channel.isSome then ({ w with state := .connected }, some true)
  else ({ w with state := .opening }, none)

/-- `WtsChannelHandle::open` opens the next channel. -/
def openHandle (w : WtsTransport) : WtsTransport :=
  { w with opened := w.opened + 1, handles := w.handles ++ [w.opened + 1] }

def openFailed (w : WtsTransport) : WtsTransport := { w with state := .disconnected }

/-- WTSVirtualChannelClose. -/
def closeHandle (w : WtsTransport) (handle : ℕ) : WtsTransport :=
  { w with handles := w.handles.filter (· ≠ handle) }

/-- A handle that is not moved into `channel_` is closed when it goes out of scope. -/
def install (w : WtsTransport) (handle : ℕ) : WtsTransport × Installed :=
  if !w.running then (w.closeHandle handle, .refused)
  else if w.channel.isSome then ({ w.closeHandle handle with state := .connected }, .found)
  else ({ w with channel := some handle, state := .connected }, .taken)

def call (w : WtsTransport) (handler : HandlerCall) : WtsTransport :=
  { w with calls := w.calls ++ [handler] }

/-- A read or a write on what `channel_` holds now, outside the lock. -/
def use (w : WtsTransport) : WtsTransport :=
  { w with
    uses := w.uses ++ [⟨w.channel, w.channel.any fun handle => decide (handle ∈ w.handles)⟩] }

def write (w : WtsTransport) (bytes : Buffer) (bytesWritten : ℕ) : WtsTransport :=
  { w.use with accepted := w.accepted ++ bytes.take bytesWritten }

def handle (w : WtsTransport) (bytes : Buffer) : WtsTransport :=
  { w with handled := w.handled ++ if bytes.length > 0 then [bytes] else [] }

/-- The block of `closeChannel` and its `was_connected`. `failed` is the channel on which
    a read or a write failed, where this is the reason. -/
def closeBlock (w : WtsTransport) (failed : Option ℕ) : WtsTransport × Bool :=
  ({ w with
      channel := none, state := .disconnected
      handles := w.channel.elim w.handles fun current => w.handles.filter (· ≠ current)
      closes := w.closes ++
        match failed, w.channel with
        | some channel, some current => [⟨channel, current⟩]
        | _, _ => [] },
    w.state == .connected)

def closeChannel (w : WtsTransport) (failed : Option ℕ) : WtsTransport :=
  if (w.closeBlock failed).2 then (w.closeBlock failed).1.call .disconnected
  else (w.closeBlock failed).1

/-- The out parameter `bytesWritten` is not looked at. -/
def send (w : WtsTransport) (bytes : Buffer) (result : WriteResult) : WtsTransport :=
  if !w.usable then w
  else
    match result with
    | .fails => w.use.closeChannel w.channel
    | .writes bytesWritten => w.write bytes bytesWritten

def readOnce (w : WtsTransport) (result : ReadResult) : WtsTransport × Bool :=
  if !w.usable then (w, false)
  else
    match result with
    | .fails => (w.use, false)
    | .reads bytes => if !w.running then (w.use, false) else (w.use.handle bytes, true)

/-- The inner loop of `run` with the results of its reads; at their end it waits for the
    next one. -/
def readLoop : WtsTransport → List ReadResult → WtsTransport
  | w, [] => w
  | w, result :: results =>
    if !w.running then w
    else if (w.readOnce result).2 then readLoop (w.readOnce result).1 results
    else (w.readOnce result).1.closeChannel (if w.usable then w.channel else none)

def firstOpened : WtsTransport :=
  ({ running := true : WtsTransport }.tryOpenCheck.1.openHandle.install 1).1.call .connected

theorem usable_iff {w : WtsTransport} : w.usable = true ↔ w.running = true ∧ w.channel ≠ none := by
  unfold usable
  rw [Bool.and_eq_true, Option.isSome_iff_ne_none]

end WtsTransport

end RdpExt.WtsChannel
