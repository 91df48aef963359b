import RdpExt.MstscRegistry
import RdpExt.TraceInvariant

set_option autoImplicit false

/-!
# What the registries should say

The init handles and open handles that are alive, by the calls that succeeded and the
events that ended them, beside the maps the plugin keeps.
-/
namespace RdpExt.RegistryExactness
open ProtocolMessage MstscRegistry TraceInvariant

/-- `init h`: whose was the latest successful init that yielded `h`, unless `h` has been
    terminated since. `opened h`: whose was the latest successful open that yielded `h`,
    unless that transport has been disconnected or terminated since. -/
structure Sessions (T : Type) where
  init : LPVOID → Option T := fun _ => none
  opened : DWORD → Option T := fun _ => none

inductive Api where
  | plain
  | ex
  deriving DecidableEq, Repr

inductive Event (T : Type) where
  | virtualChannelEntry (self : T) (entryPoints : Option EntryPoints) (init : Returned)
  | virtualChannelEntryEx (self : T) (entryPointsEx : Option EntryPointsEx) (initHandle : LPVOID)
      (rc : ℕ)
  | initEvent (api : Api) (initHandle : LPVOID) (event : InitEvent)
  | openEvent (api : Api) (openHandle : DWORD) (event : MstscOpenEvents.OpenEvent)
  deriving DecidableEq, Repr

structure World (T : Type) where
  plugin : Plugin T
  sessions : Sessions T := {}

variable {T : Type} [DecidableEq T]

namespace Sessions

def inits (s : Sessions T) (self : T) (initHandle : LPVOID) : Sessions T :=
  { s with init := Function.update s.init initHandle (some self) }

def opens (s : Sessions T) (self : T) (openHandle : DWORD) : Sessions T :=
  { s with opened := Function.update s.opened openHandle (some self) }

/-- A disconnect of the transport that the init handle is alive for. -/
def disconnects (s : Sessions T) (initHandle : LPVOID) : Sessions T :=
  match s.init initHandle with
  | none => s
  | some self => { s with opened := fun h => if s.opened h = some self then none else s.opened h }

def terminates (s : Sessions T) (initHandle : LPVOID) : Sessions T :=
  { s.disconnects initHandle with init := Function.update s.init initHandle none }

end Sessions

def initEvent : Api → Plugin T → LPVOID → InitEvent → Plugin T
  | .plain => Plugin.initEventThunk
  | .ex => Plugin.initEventThunkEx

def openEvent : Api → Plugin T → DWORD → MstscOpenEvents.OpenEvent → Plugin T × List (T × Buffer)
  | .plain => Plugin.openEventThunk
  | .ex => Plugin.openEventThunkEx

namespace World

/-- `entry`: a call of an entry point for the transport, and what it returned. -/
def enters (w : World T) (self : T) (entry : Plugin T × Bool) : World T where
  plugin := entry.1
  sessions :=
    if entry.2 then w.sessions.inits self (entry.1.transports self).initHandle else w.sessions

/-- An open call is made by the transport that the plugin finds. -/
def connects (w : World T) (initHandle : LPVOID) (opened : Returned) (plugin : Plugin T) :
    World T where
  plugin := plugin
  sessions :=
    match w.plugin.findByInitHandle initHandle with
    | none => w.sessions
    | some self =>
      if opened.ok then w.sessions.opens self (plugin.transports self).openHandle else w.sessions

end World

def step (headers : Headers) (w : World T) : Event T → World T
  | .virtualChannelEntry self entryPoints init =>
    w.enters self (w.plugin.virtualChannelEntry headers self entryPoints init)
  | .virtualChannelEntryEx self entryPointsEx initHandle rc =>
    w.enters self (w.plugin.virtualChannelEntryEx headers self entryPointsEx initHandle rc)
  | .initEvent api initHandle event =>
    let plugin := initEvent api w.plugin initHandle event
    match event with
    | .connected opened => w.connects initHandle opened plugin
    | .disconnected => { plugin, sessions := w.sessions.disconnects initHandle }
    | .terminated => { plugin, sessions := w.sessions.terminates initHandle }
    | .other => { plugin, sessions := w.sessions }
  | .openEvent api openHandle event =>
    { w with plugin := (openEvent api w.plugin openHandle event).1 }

/-- Both lookups find what is alive, and an event for a handle that is not open reaches
    no transport. -/
structure Exact (w : World T) : Prop where
  init : ∀ h, w.plugin.findByInitHandle h = w.sessions.init h
  opened : ∀ h, w.plugin.findByOpenHandle h = w.sessions.opened h
  closed : ∀ api h event, w.sessions.opened h = none →
    openEvent api w.plugin h event = (w.plugin, [])

/-- The call that the event makes or comes from fails. -/
def failed : Event T → Bool
  | .virtualChannelEntry _ _ init => !init.ok
  | .virtualChannelEntryEx _ _ _ rc => rc != CHANNEL_RC_OK
  | .initEvent _ _ (.connected opened) => !opened.ok
  | _ => false

/-- A failed init or open leaves both registries as they are. -/
def FailureChangesNothing (headers : Headers) (w : World T) (event : Event T) : Prop :=
  failed event = true →
    (step headers w event).plugin.initInstances = w.plugin.initInstances ∧
      (step headers w event).plugin.openInstances = w.plugin.openInstances

def accepts (headers : Headers) : Option EntryPoints → Bool
  | none => false
  | some entryPoints => headers.sizeofEntryPoints ≤ entryPoints.cbSize

def acceptsEx (headers : Headers) : Option EntryPointsEx → Bool
  | none => false
  | some entryPointsEx => headers.sizeofEntryPointsEx ≤ entryPointsEx.cbSize &&
      entryPointsEx.MagicNumber == headers.magicNumber

/-- No init fails that leaves a handle alive for another transport or for none; nothing
    is terminated that is alive, nor a transport disconnected that has a channel open. -/
def Clean (headers : Headers) (w : World T) : Event T → Prop
  | .virtualChannelEntry self entryPoints init =>
    accepts headers entryPoints = true → init.ok = false →
      w.sessions.init (w.plugin.leftHandle self init) = some self
  | .virtualChannelEntryEx self entryPointsEx initHandle rc =>
    acceptsEx headers entryPointsEx = true → rc ≠ CHANNEL_RC_OK →
      w.sessions.init initHandle = some self
  | .initEvent _ initHandle .disconnected =>
    ∀ self, w.sessions.init initHandle = some self → ∀ h, w.sessions.opened h ≠ some self
  | .initEvent _ initHandle .terminated => w.sessions.init initHandle = none
  | _ => True

theorem dispatchOpenEvent_registries (p : Plugin T)
    (onEvent : MstscOpenEvents.MstscTransport → MstscOpenEvents.OpenEvent →
      MstscOpenEvents.MstscTransport × List Buffer)
    (openHandle : DWORD) (event : MstscOpenEvents.OpenEvent) :
    (p.dispatchOpenEvent onEvent openHandle event).1.initInstances = p.initInstances ∧
      (p.dispatchOpenEvent onEvent openHandle event).1.openInstances = p.openInstances := by
  unfold Plugin.dispatchOpenEvent
  cases p.findByOpenHandle openHandle with
  | none => exact ⟨rfl, rfl⟩
  | some self => exact ⟨rfl, rfl⟩

theorem openEvent_registries (api : Api) (p : Plugin T) (openHandle : DWORD)
    (event : MstscOpenEvents.OpenEvent) :
    (openEvent api p openHandle event).1.initInstances = p.initInstances ∧
      (openEvent api p openHandle event).1.openInstances = p.openInstances := by
  cases api with
  | plain => exact dispatchOpenEvent_registries p MstscOpenEvents.onOpenEvent openHandle event
  | ex => exact dispatchOpenEvent_registries p MstscOpenEvents.onOpenEventEx openHandle event

theorem dispatchOpenEvent_unknown
    (onEvent : MstscOpenEvents.MstscTransport → MstscOpenEvents.OpenEvent →
      MstscOpenEvents.MstscTransport × List Buffer)
    {p : Plugin T} {openHandle : DWORD} (event : MstscOpenEvents.OpenEvent)
    (unknown : p.findByOpenHandle openHandle = none) :
    p.dispatchOpenEvent onEvent openHandle event = (p, []) := by
  unfold Plugin.dispatchOpenEvent
  rw [unknown]

theorem openEvent_unknown (api : Api) {p : Plugin T} {openHandle : DWORD}
    (event : MstscOpenEvents.OpenEvent) (unknown : p.findByOpenHandle openHandle = none) :
    openEvent api p openHandle event = (p, []) := by
  cases api with
  | plain => exact dispatchOpenEvent_unknown MstscOpenEvents.onOpenEvent event unknown
  | ex => exact dispatchOpenEvent_unknown MstscOpenEvents.onOpenEventEx event unknown

theorem initEvent_eq (api : Api) (p : Plugin T) (initHandle : LPVOID) (event : InitEvent) :
    initEvent api p initHandle event =
      match p.findByInitHandle initHandle with
      | none => p
      | some self => p.handleInitEvent self event := by
  cases api <;> rfl

/-- Only CHANNEL_EVENT_CONNECTED does anything. -/
theorem initEvent_quiet (api : Api) (p : Plugin T) (initHandle : LPVOID) (event : InitEvent)
    (quiet : ∀ opened, event ≠ .connected opened) : initEvent api p initHandle event = p := by
  rw [initEvent_eq]
  cases p.findByInitHandle initHandle with
  | none => rfl
  | some self =>
    cases event with
    | connected opened => exact absurd rfl (quiet opened)
    | disconnected | terminated | other => rfl

theorem exact_iff (w : World T) : Exact w ↔
    w.plugin.initInstances = w.sessions.init ∧ w.plugin.openInstances = w.sessions.opened := by
  constructor
  · intro exact
    exact ⟨funext exact.init, funext exact.opened⟩
  · rintro ⟨init, opened⟩
    refine ⟨congrFun init, congrFun opened, fun api h event dead => openEvent_unknown api event ?_⟩
    rw [← dead]
    exact congrFun opened h

theorem exact_initialized_iff {w : World T} (exact : Exact w) (self : T) (initHandle : LPVOID)
    (ok : Bool) : Exact (w.enters self (w.plugin.initialized self initHandle ok)) ↔
      (ok = false → w.sessions.init initHandle = some self) := by
  obtain ⟨init, opened⟩ := (exact_iff w).mp exact
  rw [exact_iff]
  have registered : (w.enters self (w.plugin.initialized self initHandle ok)).plugin.initInstances =
      Function.update w.plugin.initInstances initHandle (some self) := by
    simp [World.enters, Plugin.initialized, Plugin.registerInitHandle, Plugin.setTransport]
  cases ok with
  | true =>
    have left : ((w.plugin.initialized self initHandle true).1.transports self).initHandle =
        initHandle := by
      simp [Plugin.initialized, Plugin.registerInitHandle, Plugin.setTransport]
    refine iff_of_true ⟨?_, opened⟩ nofun
    rw [registered, init]
    change _ = Function.update w.sessions.init _ (some self)
    rw [left]
  | false =>
    rw [registered, init]
    change Function.update w.sessions.init initHandle (some self) = w.sessions.init ∧ _ ↔ _
    rw [Function.update_eq_self_iff]
    exact ⟨fun both _ => both.1.symm, fun known => ⟨(known rfl).symm, opened⟩⟩

def entered (p : Plugin T) (self : T) (accepted : Bool) (initHandle : LPVOID) (ok : Bool) :
    Plugin T × Bool :=
  if accepted then p.initialized self initHandle ok else (p, false)

theorem virtualChannelEntry_eq (headers : Headers) (p : Plugin T) (self : T)
    (entryPoints : Option EntryPoints) (init : Returned) :
    p.virtualChannelEntry headers self entryPoints init =
      entered p self (accepts headers entryPoints) (p.leftHandle self init) init.ok := by
  cases entryPoints with
  | none => rfl
  | some entryPoints =>
    simp only [Plugin.virtualChannelEntry, entered, accepts, decide_eq_true_eq]
    split_ifs with short fits fits
    · omega
    · rfl
    · rfl
    · omega

theorem virtualChannelEntryEx_eq (headers : Headers) (p : Plugin T) (self : T)
    (entryPointsEx : Option EntryPointsEx) (initHandle : LPVOID) (rc : ℕ) :
    p.virtualChannelEntryEx headers self entryPointsEx initHandle rc =
      entered p self (acceptsEx headers entryPointsEx) initHandle (Returned.ok ⟨rc, none⟩) := by
  cases entryPointsEx with
  | none => rfl
  | some entryPointsEx =>
    simp only [Plugin.virtualChannelEntryEx, entered, acceptsEx, Bool.and_eq_true,
      decide_eq_true_eq, beq_iff_eq]
    by_cases short : entryPointsEx.cbSize < headers.sizeofEntryPointsEx
    · rw [if_pos short, if_neg (fun fits => Nat.not_le_of_lt short fits.1)]
    · rw [if_neg short]
      by_cases magic : entryPointsEx.MagicNumber = headers.magicNumber
      · rw [if_neg (not_not.mpr magic), if_pos ⟨Nat.le_of_not_lt short, magic⟩]
      · rw [if_pos magic, if_neg (fun fits => magic fits.2)]

theorem exact_enters_iff {w : World T} (exact : Exact w) (self : T) (accepted : Bool)
    (initHandle : LPVOID) (ok : Bool) :
    Exact (w.enters self (entered w.plugin self accepted initHandle ok)) ↔
      (accepted = true → ok = false → w.sessions.init initHandle = some self) := by
  cases accepted with
  | false => exact iff_of_true exact fun fits => Bool.noConfusion fits
  | true =>
    refine (exact_initialized_iff exact self initHandle ok).trans ?_
    exact ⟨fun known _ => known, fun known => known rfl⟩

theorem sessions_enters_failed (w : World T) (self : T) (accepted : Bool) (initHandle : LPVOID) :
    (w.enters self (entered w.plugin self accepted initHandle false)).sessions = w.sessions := by
  cases accepted <;> rfl

/-- A successful open is recorded as it is registered, a failed one in neither. -/
theorem exact_connects {w : World T} (exact : Exact w) (api : Api) (initHandle : LPVOID)
    (opened : Returned) :
    Exact (w.connects initHandle opened (initEvent api w.plugin initHandle (.connected opened))) := by
  obtain ⟨sameInit, sameOpened⟩ := (exact_iff w).mp exact
  rw [exact_iff, initEvent_eq]
  unfold World.connects
  cases found : w.plugin.findByInitHandle initHandle with
  | none => exact ⟨sameInit, sameOpened⟩
  | some self =>
    cases ok : opened.ok with
    | false => simp [Plugin.handleInitEvent, Plugin.setTransport, ok, sameInit, sameOpened]
    | true =>
      simp [Plugin.handleInitEvent, Plugin.setTransport, Plugin.registerOpenHandle, Sessions.opens,
        ok, sameInit, sameOpened]

theorem disconnects_init (s : Sessions T) (initHandle : LPVOID) :
    (s.disconnects initHandle).init = s.init := by
  unfold Sessions.disconnects
  cases s.init initHandle <;> rfl

theorem disconnects_opened_iff (s : Sessions T) (initHandle : LPVOID) :
    s.opened = (s.disconnects initHandle).opened ↔
      ∀ self, s.init initHandle = some self → ∀ h, s.opened h ≠ some self := by
  unfold Sessions.disconnects
  cases owner : s.init initHandle with
  | none => exact iff_of_true rfl nofun
  | some self =>
    constructor
    · rintro same _ ⟨⟩ h alive
      have gone : s.opened h = if s.opened h = some self then none else s.opened h :=
        congrFun same h
      rw [if_pos alive, alive] at gone
      cases gone
    · intro none
      funext h
      exact (if_neg (none self rfl h)).symm

theorem exact_disconnects_iff {w : World T} (exact : Exact w) (initHandle : LPVOID) :
    Exact { w with sessions := w.sessions.disconnects initHandle } ↔
      ∀ self, w.sessions.init initHandle = some self → ∀ h, w.sessions.opened h ≠ some self := by
  obtain ⟨init, opened⟩ := (exact_iff w).mp exact
  rw [exact_iff, ← disconnects_opened_iff]
  change w.plugin.initInstances = (w.sessions.disconnects initHandle).init ∧
    w.plugin.openInstances = _ ↔ _
  rw [disconnects_init, opened]
  exact and_iff_right init

theorem exact_terminates_iff {w : World T} (exact : Exact w) (initHandle : LPVOID) :
    Exact { w with sessions := w.sessions.terminates initHandle } ↔
      w.sessions.init initHandle = none := by
  obtain ⟨init, opened⟩ := (exact_iff w).mp exact
  rw [exact_iff]
  change w.plugin.initInstances = Function.update w.sessions.init initHandle none ∧
    w.plugin.openInstances = (w.sessions.disconnects initHandle).opened ↔ _
  rw [init, opened, eq_comm, Function.update_eq_self_iff, disconnects_opened_iff]
  constructor
  · intro both
    exact both.1.symm
  · intro dead
    refine ⟨dead.symm, fun self owner => ?_⟩
    rw [dead] at owner
    cases owner

theorem exact_step_iff (headers : Headers) (w : World T) (event : Event T) (exact : Exact w) :
    Exact (step headers w event) ↔ Clean headers w event := by
  cases event with
  | virtualChannelEntry self entryPoints init =>
    simp only [step, Clean]
    rw [virtualChannelEntry_eq, exact_enters_iff exact]
  | virtualChannelEntryEx self entryPointsEx initHandle rc =>
    simp only [step, Clean]
    rw [virtualChannelEntryEx_eq, exact_enters_iff exact]
    simp [Returned.ok]
  | initEvent api initHandle event =>
    cases event with
    | connected opened => exact iff_of_true (exact_connects exact api initHandle opened) trivial
    | disconnected =>
      have quiet := initEvent_quiet api w.plugin initHandle .disconnected fun _ => InitEvent.noConfusion
      simp only [step, quiet]
      exact exact_disconnects_iff exact initHandle
    | terminated =>
      have quiet := initEvent_quiet api w.plugin initHandle .terminated fun _ => InitEvent.noConfusion
      simp only [step, quiet]
      exact exact_terminates_iff exact initHandle
    | other =>
      have quiet := initEvent_quiet api w.plugin initHandle .other fun _ => InitEvent.noConfusion
      simp only [step, quiet]
      exact iff_of_true exact trivial
  | openEvent api openHandle event =>
    obtain ⟨init, opened⟩ := (exact_iff w).mp exact
    obtain ⟨sameInit, sameOpened⟩ := openEvent_registries api w.plugin openHandle event
    refine iff_of_true ((exact_iff _).mpr ⟨?_, ?_⟩) trivial
    · exact sameInit.trans init
    · exact sameOpened.trans opened

theorem sessions_of_failed (headers : Headers) (w : World T) {event : Event T}
    (failure : failed event = true) : (step headers w event).sessions = w.sessions := by
  cases event with
  | virtualChannelEntry self entryPoints init =>
    have bad : init.ok = false := by simpa [failed] using failure
    simp only [step]
    rw [virtualChannelEntry_eq, bad, sessions_enters_failed]
  | virtualChannelEntryEx self entryPointsEx initHandle rc =>
    have bad : Returned.ok ⟨rc, none⟩ = false := by simpa [failed, Returned.ok] using failure
    simp only [step]
    rw [virtualChannelEntryEx_eq, bad, sessions_enters_failed]
  | initEvent api initHandle event =>
    cases event with
    | connected opened =>
      have bad : opened.ok = false := by simpa [failed] using failure
      simp only [step, World.connects, bad]
      cases w.plugin.findByInitHandle initHandle <;> rfl
    | disconnected | terminated | other => cases failure
  | openEvent api openHandle event => cases failure

theorem failureChangesNothing_of_exact (headers : Headers) (w : World T) (event : Event T)
    (before : Exact w) (behind : Exact (step headers w event)) :
    FailureChangesNothing headers w event := by
  intro failure
  obtain ⟨init, opened⟩ := (exact_iff w).mp before
  obtain ⟨init', opened'⟩ := (exact_iff _).mp behind
  rw [init', opened', sessions_of_failed headers w failure, init, opened]
  exact ⟨rfl, rfl⟩

def World.start (transports : T → MstscTransport) : World T := { plugin := { transports } }

/-- The registries say what they should, all through a run and also behind every failure,
    exactly where no event of the run is one that they get wrong. -/
theorem registries_exact_iff (headers : Headers) (transports : T → MstscTransport)
    (events : List (Event T)) :
    (Throughout (step headers) Exact (World.start transports) events ∧
        EveryStep (step headers) (FailureChangesNothing headers) (World.start transports) events) ↔
      EveryStep (step headers) (Clean headers) (World.start transports) events := by
  have start : Exact (World.start transports) := (exact_iff _).mpr ⟨rfl, rfl⟩
  have exact_throughout : Throughout (step headers) Exact (World.start transports) events ↔
      EveryStep (step headers) (Clean headers) (World.start transports) events :=
    throughout_iff_everyStep (fun _ => True) (fun _ _ _ => trivial)
      (fun w event _ exact => exact_step_iff headers w event exact) trivial start events
  rw [← exact_throughout]
  refine and_iff_left_of_imp fun always => ?_
  exact always.everyStep (failureChangesNothing_of_exact headers)

/-- A failed init that is registered, and a channel that data still reaches behind the end
    of its session. -/
theorem failed_and_ended_found :
    ¬ Throughout (step ⟨40, 64, 0x46524450⟩) Exact (World.start fun _ : ℕ => {})
        [.virtualChannelEntryEx 0 (some ⟨64, 0x46524450⟩) 1 2] ∧
      ¬ Throughout (step ⟨40, 64, 0x46524450⟩) Exact
        (World.start fun _ : ℕ => { receiver := ⟨true, []⟩ })
        [.virtualChannelEntryEx 0 (some ⟨64, 0x46524450⟩) 1 0,
          .initEvent .ex 1 (.connected ⟨0, some 7⟩), .initEvent .ex 1 .terminated] := by
  constructor
  · intro exact
    have last := (exact _ List.prefix_rfl).init 1
    exact absurd last (by decide)
  · intro exact
    have last := (exact _ List.prefix_rfl).closed .ex 7
      (.dataReceived [0x41] 1 MstscOpenEvents.CHANNEL_FLAG_LAST) rfl
    exact absurd (congrArg Prod.snd last) (by decide)

end RdpExt.RegistryExactness
