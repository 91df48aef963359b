import RdpExt.MstscOpenEvents
import Mathlib.Logic.Function.Basic

set_option autoImplicit false

/-!
# The plugin's registries: `mstsc_transport.cpp`

The entry points and the callbacks of both generations of the API, with the two maps that
lead a callback to its transport. `T` tells the transports apart.
-/
namespace RdpExt.MstscRegistry
open ProtocolMessage

def CHANNEL_RC_OK : ℕ := 0

/-- Init handles and open handles; 0 is `nullptr`. -/
abbrev LPVOID := ℕ
abbrev DWORD := ℕ

/-- Of the API's headers: two sizes and FREERDP_CHANNEL_MAGIC_NUMBER. -/
structure Headers where
  sizeofEntryPoints : ℕ
  sizeofEntryPointsEx : ℕ
  magicNumber : ℕ
  deriving DecidableEq, Repr

structure EntryPoints where
  cbSize : ℕ
  deriving DecidableEq, Repr

structure EntryPointsEx where
  cbSize : ℕ
  MagicNumber : ℕ
  deriving DecidableEq, Repr

/-- How a call with an out parameter for a handle ends: pVirtualChannelInit and the two
    open calls. -/
structure Returned where
  rc : ℕ
  written : Option ℕ
  deriving DecidableEq, Repr

def Returned.ok (returned : Returned) : Bool := returned.rc == CHANNEL_RC_OK

structure MstscTransport where
  initHandle : LPVOID := 0
  openHandle : DWORD := 0
  receiver : MstscOpenEvents.MstscTransport := {}
  deriving DecidableEq, Repr

structure Plugin (T : Type) where
  transports : T → MstscTransport
  initInstances : LPVOID → Option T := fun _ => none
  openInstances : DWORD → Option T := fun _ => none

/-- The `event` of an init callback, with how the open call ends where one is made. -/
inductive InitEvent where
  | connected (opened : Returned)
  | disconnected
  | terminated
  | other
  deriving DecidableEq, Repr

variable {T : Type} [DecidableEq T]

namespace Plugin

def setTransport (p : Plugin T) (self : T) (transport : MstscTransport) : Plugin T :=
  { p with transports := Function.update p.transports self transport }

def registerInitHandle (p : Plugin T) (self : T) (initHandle : LPVOID) : Plugin T :=
  { p with initInstances := Function.update p.initInstances initHandle (some self) }

def registerOpenHandle (p : Plugin T) (self : T) (openHandle : DWORD) : Plugin T :=
  { p with openInstances := Function.update p.openInstances openHandle (some self) }

def findByInitHandle (p : Plugin T) (initHandle : LPVOID) : Option T := p.initInstances initHandle

def findByOpenHandle (p : Plugin T) (openHandle : DWORD) : Option T := p.openInstances openHandle

/-- Both entry points end in this: an init call for the transport, and what it left in
    `init_handle_` is registered. -/
def initialized (p : Plugin T) (self : T) (initHandle : LPVOID) (ok : Bool) : Plugin T × Bool :=
  let p := p.setTransport self { p.transports self with initHandle }
  (p.registerInitHandle self (p.transports self).initHandle, ok)

/-- What the init call leaves in `init_handle_`. -/
def leftHandle (p : Plugin T) (self : T) (init : Returned) : LPVOID :=
  init.written.getD (p.transports self).initHandle

def virtualChannelEntry (headers : Headers) (p : Plugin T) (self : T)
    (entryPoints : Option EntryPoints) (init : Returned) : Plugin T × Bool :=
  match entryPoints with
  | none => (p, false)
  | some entryPoints =>
    if entryPoints.cbSize < headers.sizeofEntryPoints then (p, false)
    else p.initialized self (p.leftHandle self init) init.ok

/-- pVirtualChannelInitEx is given the handle and writes none. -/
def virtualChannelEntryEx (headers : Headers) (p : Plugin T) (self : T)
    (entryPointsEx : Option EntryPointsEx) (initHandle : LPVOID) (rc : ℕ) : Plugin T × Bool :=
  match entryPointsEx with
  | none => (p, false)
  | some entryPointsEx =>
    if entryPointsEx.cbSize < headers.sizeofEntryPointsEx then (p, false)
    else if entryPointsEx.MagicNumber ≠ headers.magicNumber then (p, false)
    else p.initialized self initHandle (Returned.ok ⟨rc, none⟩)

/-- The two init callbacks differ in the open call that they make. -/
def handleInitEvent (p : Plugin T) (self : T) : InitEvent → Plugin T
  | .connected opened =>
    let openHandle := opened.written.getD (p.transports self).openHandle
    let p := p.setTransport self { p.transports self with openHandle }
    if opened.ok then p.registerOpenHandle self openHandle else p
  | .disconnected => p
  | .terminated => p
  | .other => p

def onInitEvent (p : Plugin T) (self : T) (event : InitEvent) : Plugin T := p.handleInitEvent self event

def onInitEventEx (p : Plugin T) (self : T) (event : InitEvent) : Plugin T :=
  p.handleInitEvent self event

def initEventThunk (p : Plugin T) (initHandle : LPVOID) (event : InitEvent) : Plugin T :=
  match p.findByInitHandle initHandle with
  | none => p
  | some self => p.onInitEvent self event

def initEventThunkEx (p : Plugin T) (initHandle : LPVOID) (event : InitEvent) : Plugin T :=
  match p.findByInitHandle initHandle with
  | none => p
  | some self => p.onInitEventEx self event

/-- An open event reaches the transport that its handle leads to; the second component:
    what that one's bytes handler is given. -/
def dispatchOpenEvent
    (onEvent : MstscOpenEvents.MstscTransport → MstscOpenEvents.OpenEvent →
      MstscOpenEvents.MstscTransport × List Buffer)
    (p : Plugin T) (openHandle : DWORD) (event : MstscOpenEvents.OpenEvent) :
    Plugin T × List (T × Buffer) :=
  match p.findByOpenHandle openHandle with
  | none => (p, [])
  | some self =>
    let (receiver, buffers) := onEvent (p.transports self).receiver event
    (p.setTransport self { p.transports self with receiver }, buffers.map fun buffer => (self, buffer))

def openEventThunk (p : Plugin T) : DWORD → MstscOpenEvents.OpenEvent → Plugin T × List (T × Buffer) :=
  p.dispatchOpenEvent MstscOpenEvents.onOpenEvent

def openEventThunkEx (p : Plugin T) : DWORD → MstscOpenEvents.OpenEvent → Plugin T × List (T × Buffer) :=
  p.dispatchOpenEvent MstscOpenEvents.onOpenEventEx

end Plugin

end RdpExt.MstscRegistry
