import RdpExt.RegistryExactness
import RdpExt.Unwinding

set_option autoImplicit false

/-!
# Transports that share the registries

All transports of the process share the two maps. The RDP client gives every handle to one
transport; then no transport notices the others.
-/
namespace RdpExt.PluginIsolation
open ProtocolMessage MstscRegistry RegistryExactness TraceInvariant Unwinding

structure Allotment (T : Type) where
  init : LPVOID → T
  opened : DWORD → T

variable {T : Type}

def party (a : Allotment T) : Event T → T
  | .virtualChannelEntry self _ _ => self
  | .virtualChannelEntryEx self _ _ _ => self
  | .initEvent _ initHandle _ => a.init initHandle
  | .openEvent _ openHandle _ => a.opened openHandle

/-- The handles that the event's call leaves behind are the transport's own: also the
    nullptr that stays behind where a first init writes none. -/
def Allotted (headers : Headers) (a : Allotment T) (w : World T) : Event T → Prop
  | .virtualChannelEntry self entryPoints init =>
    accepts headers entryPoints = true → a.init (w.plugin.leftHandle self init) = self
  | .virtualChannelEntryEx self entryPointsEx initHandle _ =>
    acceptsEx headers entryPointsEx = true → a.init initHandle = self
  | .initEvent _ initHandle (.connected opened) =>
    w.plugin.findByInitHandle initHandle = some (a.init initHandle) → opened.ok = true →
      a.opened (opened.written.getD (w.plugin.transports (a.init initHandle)).openHandle) =
        a.init initHandle
  | _ => True

def handedOn [DecidableEq T] (w : World T) : Event T → List (T × Buffer)
  | .openEvent api openHandle event => (openEvent api w.plugin openHandle event).2
  | _ => []

/-- The registries lead to nobody but the handle's transport. -/
structure Owned (a : Allotment T) (w : World T) : Prop where
  init : ∀ h t, w.plugin.findByInitHandle h = some t → a.init h = t
  opened : ∀ h t, w.plugin.findByOpenHandle h = some t → a.opened h = t

/-- What a transport sees: itself, and the entries for its handles. -/
structure Alike (a : Allotment T) (t : T) (w w' : World T) : Prop where
  transport : w.plugin.transports t = w'.plugin.transports t
  init : ∀ h, a.init h = t → w.plugin.findByInitHandle h = w'.plugin.findByInitHandle h
  opened : ∀ h, a.opened h = t → w.plugin.findByOpenHandle h = w'.plugin.findByOpenHandle h

theorem alike_equivalence (a : Allotment T) (t : T) : Equivalence (Alike a t) where
  refl _ := ⟨rfl, fun _ _ => rfl, fun _ _ => rfl⟩
  symm same := ⟨same.transport.symm, fun h mine => (same.init h mine).symm,
    fun h mine => (same.opened h mine).symm⟩
  trans first second := ⟨first.transport.trans second.transport,
    fun h mine => (first.init h mine).trans (second.init h mine),
    fun h mine => (first.opened h mine).trans (second.opened h mine)⟩

theorem alike_of_plugin (a : Allotment T) (t : T) {w w' : World T} (same : w.plugin = w'.plugin) :
    Alike a t w w' := by
  refine ⟨?_, fun h _ => ?_, fun h _ => ?_⟩ <;> rw [same]

theorem owned_of_plugin {a : Allotment T} {w w' : World T} (owned : Owned a w)
    (same : w'.plugin = w.plugin) : Owned a w' := by
  refine ⟨fun h t found => owned.init h t ?_, fun h t found => owned.opened h t ?_⟩
  · rw [← same]
    exact found
  · rw [← same]
    exact found

/-! ## What one call changes -/

section
variable [DecidableEq T] {a : Allotment T} {w w' : World T} {self t : T}

theorem entered_transports (p : Plugin T) (self : T) (initHandle : LPVOID) (ok : Bool) :
    (entered p self true initHandle ok).1.transports =
      Function.update p.transports self { p.transports self with initHandle } := rfl

theorem entered_initInstances (p : Plugin T) (self : T) (initHandle : LPVOID) (ok : Bool) :
    (entered p self true initHandle ok).1.initInstances =
      Function.update p.initInstances initHandle (some self) := by
  simp [entered, Plugin.initialized, Plugin.registerInitHandle, Plugin.setTransport]

theorem owned_entered (owned : Owned a w) {accepted : Bool} {initHandle : LPVOID}
    (mine : accepted = true → a.init initHandle = self) (ok : Bool) :
    Owned a (w.enters self (entered w.plugin self accepted initHandle ok)) := by
  cases accepted with
  | false => exact ⟨owned.init, owned.opened⟩
  | true =>
    refine ⟨fun h t found => ?_, owned.opened⟩
    change (entered w.plugin self true initHandle ok).1.initInstances h = some t at found
    rw [entered_initInstances] at found
    by_cases same : h = initHandle
    · subst same
      rw [Function.update_self] at found
      exact (mine rfl).trans (Option.some.inj found)
    · rw [Function.update_of_ne same] at found
      exact owned.init h t found

theorem entered_others {accepted : Bool} {initHandle : LPVOID}
    (mine : accepted = true → a.init initHandle = self) (ok : Bool) (foreign : self ≠ t) :
    Alike a t (w.enters self (entered w.plugin self accepted initHandle ok)) w := by
  cases accepted with
  | false => exact (alike_equivalence a t).refl w
  | true =>
    refine ⟨Function.update_of_ne foreign.symm _ _, fun h his => ?_, fun _ _ => rfl⟩
    change (entered w.plugin self true initHandle ok).1.initInstances h = _
    rw [entered_initInstances]
    have different : h ≠ initHandle := by
      rintro rfl
      exact foreign ((mine rfl).symm.trans his)
    exact Function.update_of_ne different _ _

theorem entered_own (alike : Alike a self w w') (accepted : Bool) (initHandle : LPVOID) (ok : Bool) :
    Alike a self (w.enters self (entered w.plugin self accepted initHandle ok))
      (w'.enters self (entered w'.plugin self accepted initHandle ok)) := by
  cases accepted with
  | false => exact ⟨alike.transport, alike.init, alike.opened⟩
  | true =>
    refine ⟨?_, fun h mine => ?_, alike.opened⟩
    · change (entered w.plugin self true initHandle ok).1.transports self =
        (entered w'.plugin self true initHandle ok).1.transports self
      rw [entered_transports, entered_transports, Function.update_self, Function.update_self,
        alike.transport]
    · change (entered w.plugin self true initHandle ok).1.initInstances h =
        (entered w'.plugin self true initHandle ok).1.initInstances h
      rw [entered_initInstances, entered_initInstances]
      by_cases same : h = initHandle
      · rw [same, Function.update_self, Function.update_self]
      · rw [Function.update_of_ne same, Function.update_of_ne same]
        exact alike.init h mine

/-- What the open call leaves in `open_handle_`. -/
def leftOpen (p : Plugin T) (self : T) (opened : Returned) : DWORD :=
  opened.written.getD (p.transports self).openHandle

theorem connected_transports (p : Plugin T) (self : T) (opened : Returned) :
    (p.handleInitEvent self (.connected opened)).transports =
      Function.update p.transports self
        { p.transports self with openHandle := leftOpen p self opened } := by
  cases ok : opened.ok <;>
    simp [Plugin.handleInitEvent, Plugin.setTransport, Plugin.registerOpenHandle, leftOpen, ok]

theorem connected_initInstances (p : Plugin T) (self : T) (opened : Returned) :
    (p.handleInitEvent self (.connected opened)).initInstances = p.initInstances := by
  cases ok : opened.ok <;>
    simp [Plugin.handleInitEvent, Plugin.setTransport, Plugin.registerOpenHandle, ok]

theorem connected_openInstances (p : Plugin T) (self : T) (opened : Returned) :
    (p.handleInitEvent self (.connected opened)).openInstances =
      if opened.ok then Function.update p.openInstances (leftOpen p self opened) (some self)
      else p.openInstances := by
  cases ok : opened.ok <;>
    simp [Plugin.handleInitEvent, Plugin.setTransport, Plugin.registerOpenHandle, leftOpen, ok]

theorem step_initEvent_plugin (headers : Headers) (w : World T) (api : Api) (initHandle : LPVOID)
    (event : InitEvent) :
    (step headers w (.initEvent api initHandle event)).plugin =
      initEvent api w.plugin initHandle event := by
  cases event <;> rfl

theorem initEvent_found (headers : Headers) (api : Api) {initHandle : LPVOID} (event : InitEvent)
    (found : w.plugin.findByInitHandle initHandle = some self) :
    (step headers w (.initEvent api initHandle event)).plugin =
      w.plugin.handleInitEvent self event := by
  rw [step_initEvent_plugin, initEvent_eq, found]

theorem initEvent_lost (headers : Headers) (api : Api) {initHandle : LPVOID} (event : InitEvent)
    (lost : w.plugin.findByInitHandle initHandle = none) :
    (step headers w (.initEvent api initHandle event)).plugin = w.plugin := by
  rw [step_initEvent_plugin, initEvent_eq, lost]

theorem owned_connected (owned : Owned a w) {opened : Returned}
    (plugin : w'.plugin = w.plugin.handleInitEvent self (.connected opened))
    (mine : opened.ok = true → a.opened (leftOpen w.plugin self opened) = self) : Owned a w' := by
  constructor
  · intro h t found
    change w'.plugin.initInstances h = some t at found
    rw [plugin, connected_initInstances] at found
    exact owned.init h t found
  · intro h t found
    change w'.plugin.openInstances h = some t at found
    rw [plugin, connected_openInstances] at found
    cases ok : opened.ok with
    | false =>
      rw [ok] at found
      exact owned.opened h t found
    | true =>
      rw [ok, if_pos rfl] at found
      by_cases same : h = leftOpen w.plugin self opened
      · rw [same, Function.update_self] at found
        rw [same]
        exact (mine ok).trans (Option.some.inj found)
      · rw [Function.update_of_ne same] at found
        exact owned.opened h t found

theorem connected_others {opened : Returned}
    (plugin : w'.plugin = w.plugin.handleInitEvent self (.connected opened))
    (mine : opened.ok = true → a.opened (leftOpen w.plugin self opened) = self)
    (foreign : self ≠ t) : Alike a t w' w := by
  refine ⟨?_, fun h _ => ?_, fun h his => ?_⟩
  · rw [plugin, connected_transports]
    exact Function.update_of_ne foreign.symm _ _
  · change w'.plugin.initInstances h = w.plugin.initInstances h
    rw [plugin, connected_initInstances]
  · change w'.plugin.openInstances h = w.plugin.openInstances h
    rw [plugin, connected_openInstances]
    cases ok : opened.ok with
    | false => rfl
    | true =>
      have different : h ≠ leftOpen w.plugin self opened := by
        intro same
        rw [same] at his
        exact foreign ((mine ok).symm.trans his)
      exact Function.update_of_ne different _ _

theorem connected_own {v v' : World T} (alike : Alike a self w w') {opened : Returned}
    (plugin : v.plugin = w.plugin.handleInitEvent self (.connected opened))
    (plugin' : v'.plugin = w'.plugin.handleInitEvent self (.connected opened)) :
    Alike a self v v' := by
  have left : leftOpen w.plugin self opened = leftOpen w'.plugin self opened := by
    unfold leftOpen
    rw [alike.transport]
  refine ⟨?_, fun h mine => ?_, fun h mine => ?_⟩
  · rw [plugin, plugin', connected_transports, connected_transports, Function.update_self,
      Function.update_self, alike.transport, left]
  · change v.plugin.initInstances h = v'.plugin.initInstances h
    rw [plugin, plugin', connected_initInstances, connected_initInstances]
    exact alike.init h mine
  · change v.plugin.openInstances h = v'.plugin.openInstances h
    rw [plugin, plugin', connected_openInstances, connected_openInstances, left]
    cases opened.ok with
    | false => exact alike.opened h mine
    | true =>
      rw [if_pos rfl, if_pos rfl]
      by_cases same : h = leftOpen w'.plugin self opened
      · rw [same, Function.update_self, Function.update_self]
      · rw [Function.update_of_ne same, Function.update_of_ne same]
        exact alike.opened h mine

/-! ## Open events -/

def onEvent : Api → MstscOpenEvents.MstscTransport → MstscOpenEvents.OpenEvent →
    MstscOpenEvents.MstscTransport × List Buffer
  | .plain => MstscOpenEvents.onOpenEvent
  | .ex => MstscOpenEvents.onOpenEventEx

theorem openEvent_found {p : Plugin T} (api : Api) {openHandle : DWORD}
    (event : MstscOpenEvents.OpenEvent) (found : p.findByOpenHandle openHandle = some self) :
    openEvent api p openHandle event =
      (p.setTransport self
          { p.transports self with
            receiver := (onEvent api (p.transports self).receiver event).1 },
        (onEvent api (p.transports self).receiver event).2.map fun buffer => (self, buffer)) := by
  cases api <;>
    simp [openEvent, Plugin.openEventThunk, Plugin.openEventThunkEx, Plugin.dispatchOpenEvent, found,
      onEvent]

theorem openEvent_others (owned : Owned a w) (api : Api) {openHandle : DWORD}
    (event : MstscOpenEvents.OpenEvent) (foreign : a.opened openHandle ≠ t) :
    (openEvent api w.plugin openHandle event).1.transports t = w.plugin.transports t := by
  cases found : w.plugin.findByOpenHandle openHandle with
  | none => rw [openEvent_unknown api event found]
  | some self =>
    rw [openEvent_found api event found]
    have different : t ≠ self := by
      rintro rfl
      exact foreign (owned.opened openHandle t found)
    exact Function.update_of_ne different _ _

theorem openEvent_own (owned : Owned a w) (api : Api) {openHandle : DWORD}
    (event : MstscOpenEvents.OpenEvent) (alike : Alike a (a.opened openHandle) w w') :
    (openEvent api w.plugin openHandle event).1.transports (a.opened openHandle) =
        (openEvent api w'.plugin openHandle event).1.transports (a.opened openHandle) ∧
      (openEvent api w.plugin openHandle event).2 =
        (openEvent api w'.plugin openHandle event).2 := by
  have same := alike.opened openHandle rfl
  cases found : w.plugin.findByOpenHandle openHandle with
  | none =>
    rw [openEvent_unknown api event found, openEvent_unknown api event (same.symm.trans found)]
    exact ⟨alike.transport, rfl⟩
  | some self =>
    obtain rfl := owned.opened openHandle self found
    rw [openEvent_found api event found, openEvent_found api event (same.symm.trans found),
      alike.transport]
    refine ⟨?_, rfl⟩
    change Function.update _ _ _ _ = Function.update _ _ _ _
    rw [Function.update_self, Function.update_self]

theorem openEvent_party (owned : Owned a w) (api : Api) (openHandle : DWORD)
    (event : MstscOpenEvents.OpenEvent) :
    ∀ entry ∈ (openEvent api w.plugin openHandle event).2, entry.1 = a.opened openHandle := by
  intro entry member
  cases found : w.plugin.findByOpenHandle openHandle with
  | none =>
    rw [openEvent_unknown api event found] at member
    cases member
  | some self =>
    rw [openEvent_found api event found] at member
    obtain ⟨buffer, _, rfl⟩ := List.mem_map.mp member
    exact (owned.opened openHandle self found).symm

/-! ## The transports do not notice each other -/

theorem owned_step (headers : Headers) (owned : Owned a w) {event : Event T}
    (allotted : Allotted headers a w event) : Owned a (step headers w event) := by
  cases event with
  | virtualChannelEntry self entryPoints init =>
    simp only [step, Allotted] at allotted ⊢
    rw [virtualChannelEntry_eq]
    exact owned_entered owned allotted init.ok
  | virtualChannelEntryEx self entryPointsEx initHandle rc =>
    simp only [step, Allotted] at allotted ⊢
    rw [virtualChannelEntryEx_eq]
    exact owned_entered owned allotted _
  | initEvent api initHandle event =>
    cases found : w.plugin.findByInitHandle initHandle with
    | none => exact owned_of_plugin owned (initEvent_lost headers api event found)
    | some self =>
      have plugin := initEvent_found headers api event found
      obtain rfl := owned.init initHandle self found
      cases event with
      | connected opened => exact owned_connected owned plugin (allotted found)
      | disconnected | terminated | other => exact owned_of_plugin owned plugin
  | openEvent api openHandle event =>
    obtain ⟨init, opened⟩ := openEvent_registries api w.plugin openHandle event
    exact ⟨fun h t found => owned.init h t ((congrFun init h).symm.trans found),
      fun h t found => owned.opened h t ((congrFun opened h).symm.trans found)⟩

theorem step_others (headers : Headers) (owned : Owned a w) {event : Event T}
    (allotted : Allotted headers a w event) (foreign : party a event ≠ t) :
    Alike a t (step headers w event) w := by
  cases event with
  | virtualChannelEntry self entryPoints init =>
    simp only [step, Allotted] at allotted ⊢
    rw [virtualChannelEntry_eq]
    exact entered_others allotted init.ok foreign
  | virtualChannelEntryEx self entryPointsEx initHandle rc =>
    simp only [step, Allotted] at allotted ⊢
    rw [virtualChannelEntryEx_eq]
    exact entered_others allotted _ foreign
  | initEvent api initHandle event =>
    cases found : w.plugin.findByInitHandle initHandle with
    | none => exact alike_of_plugin a t (initEvent_lost headers api event found)
    | some self =>
      have plugin := initEvent_found headers api event found
      obtain rfl := owned.init initHandle self found
      cases event with
      | connected opened => exact connected_others plugin (allotted found) foreign
      | disconnected | terminated | other => exact alike_of_plugin a t plugin
  | openEvent api openHandle event =>
    obtain ⟨init, opened⟩ := openEvent_registries api w.plugin openHandle event
    exact ⟨openEvent_others owned api event foreign, fun h _ => congrFun init h,
      fun h _ => congrFun opened h⟩

theorem step_own (headers : Headers) (owned : Owned a w) {event : Event T}
    (allotted : Allotted headers a w event) (alike : Alike a (party a event) w w') :
    Allotted headers a w' event ∧
      Alike a (party a event) (step headers w event) (step headers w' event) ∧
      handedOn w event = handedOn w' event := by
  cases event with
  | virtualChannelEntry self entryPoints init =>
    have left : w.plugin.leftHandle self init = w'.plugin.leftHandle self init := by
      unfold Plugin.leftHandle
      rw [show w.plugin.transports self = w'.plugin.transports self from alike.transport]
    simp only [step, Allotted] at allotted ⊢
    rw [virtualChannelEntry_eq, virtualChannelEntry_eq, ← left]
    exact ⟨allotted, entered_own alike _ _ _, rfl⟩
  | virtualChannelEntryEx self entryPointsEx initHandle rc =>
    simp only [step, Allotted] at allotted ⊢
    rw [virtualChannelEntryEx_eq, virtualChannelEntryEx_eq]
    exact ⟨allotted, entered_own alike _ _ _, rfl⟩
  | initEvent api initHandle event =>
    have same := alike.init initHandle rfl
    have transport : w.plugin.transports (a.init initHandle) =
        w'.plugin.transports (a.init initHandle) := alike.transport
    refine ⟨?_, ?_, rfl⟩
    · cases event with
      | connected opened =>
        intro found ok
        rw [← transport]
        exact allotted (same.trans found) ok
      | disconnected | terminated | other => trivial
    · cases found : w.plugin.findByInitHandle initHandle with
      | none =>
        have kept := alike_of_plugin a (a.init initHandle) (initEvent_lost headers api event found)
        have kept' := alike_of_plugin a (a.init initHandle)
          (initEvent_lost headers api event (same.symm.trans found))
        have equivalence := alike_equivalence a (a.init initHandle)
        exact equivalence.trans kept (equivalence.trans alike (equivalence.symm kept'))
      | some self =>
        have plugin := initEvent_found headers api event found
        have plugin' := initEvent_found headers api event (same.symm.trans found)
        obtain rfl := owned.init initHandle self found
        cases event with
        | connected opened => exact connected_own alike plugin plugin'
        | disconnected | terminated | other =>
          have equivalence := alike_equivalence a (a.init initHandle)
          exact equivalence.trans (alike_of_plugin a _ plugin)
            (equivalence.trans alike (equivalence.symm (alike_of_plugin a _ plugin')))
  | openEvent api openHandle event =>
    obtain ⟨init, opened⟩ := openEvent_registries api w.plugin openHandle event
    obtain ⟨init', opened'⟩ := openEvent_registries api w'.plugin openHandle event
    obtain ⟨transport, handed⟩ := openEvent_own owned api event alike
    refine ⟨trivial, ⟨transport, fun h mine => ?_, fun h mine => ?_⟩, handed⟩
    · exact (congrFun init h).trans ((alike.init h mine).trans (congrFun init' h).symm)
    · exact (congrFun opened h).trans ((alike.opened h mine).trans (congrFun opened' h).symm)

theorem isolates (headers : Headers) (a : Allotment T) :
    Isolates (step headers) handedOn (party a) (Alike a) (Owned a) (Allotted headers a) where
  equivalence := alike_equivalence a
  base _ _ owned allotted := owned_step headers owned allotted
  others _ _ _ owned allotted foreign := step_others headers owned allotted foreign
  own _ _ _ owned allotted alike := step_own headers owned allotted alike

end

def allHandedOn [DecidableEq T] (headers : Headers) : World T → List (Event T) → List (T × Buffer) :=
  allOutputs (step headers) handedOn

theorem owned_start (a : Allotment T) (transports : T → MstscTransport) :
    Owned a (World.start transports) := ⟨nofun, nofun⟩

section
variable [DecidableEq T]

theorem handedOn_party {a : Allotment T} {w : World T} (owned : Owned a w) (event : Event T) :
    ∀ entry ∈ handedOn w event, entry.1 = party a event := by
  cases event with
  | openEvent api openHandle event => exact openEvent_party owned api openHandle event
  | virtualChannelEntry | virtualChannelEntryEx | initEvent => exact nofun

end

/-- As long as every handle is given to one transport: each transport is at any time as if
    the events of the others had not happened, and it hands on what it would then. -/
theorem transports_isolated [DecidableEq T] (headers : Headers) (a : Allotment T)
    (transports : T → MstscTransport) (events : List (Event T))
    (allotted : EveryStep (step headers) (Allotted headers a) (World.start transports) events)
    (t : T) :
    EveryStep (step headers) (Allotted headers a) (World.start transports)
        (ownEvents (party a) t events) ∧
      Alike a t (events.foldl (step headers) (World.start transports))
        ((ownEvents (party a) t events).foldl (step headers) (World.start transports)) ∧
      (allHandedOn headers (World.start transports) events).filter (·.1 = t) =
        allHandedOn headers (World.start transports) (ownEvents (party a) t events) := by
  have owned := owned_start a transports
  obtain ⟨alone, seen, handed⟩ :=
    (isolates headers a).run owned ((alike_equivalence a t).refl _) allotted
  refine ⟨alone, seen, ?_⟩
  calc (allHandedOn headers (World.start transports) events).filter (·.1 = t)
      = ownOutputs (step headers) handedOn (party a) t (World.start transports) events :=
        (isolates headers a).filter_allOutputs Prod.fst
          (fun _ event owned _ => handedOn_party owned event) owned allotted t
    _ = ownOutputs (step headers) handedOn (party a) t (World.start transports)
          (ownEvents (party a) t events) := handed
    _ = allHandedOn headers (World.start transports) (ownEvents (party a) t events) :=
        ownOutputs_ownEvents t _ events

/-- Two transports by turns, with the handles 1 and 7, and 2 and 9. -/
def byTurns : List (Event Bool) :=
  [.virtualChannelEntryEx false (some ⟨64, 0x46524450⟩) 1 0,
    .virtualChannelEntryEx true (some ⟨64, 0x46524450⟩) 2 0,
    .initEvent .ex 1 (.connected ⟨0, some 7⟩),
    .initEvent .ex 2 (.connected ⟨0, some 9⟩),
    .openEvent .ex 7 (.dataReceived [0x41] 1 3),
    .openEvent .ex 9 (.dataReceived [0x42] 1 3),
    .openEvent .ex 7 (.dataReceived [0x43] 1 3)]

theorem transports_isolated_by_turns :
    (allHandedOn ⟨40, 64, 0x46524450⟩ (World.start fun _ => { receiver := ⟨true, []⟩ })
        byTurns).filter (·.1 = false) = [(false, [0x41]), (false, [0x43])] := by
  refine (transports_isolated ⟨40, 64, 0x46524450⟩ ⟨(· == 2), (· == 9)⟩
    (fun _ => { receiver := ⟨true, []⟩ }) byTurns ?_ false).2.2.trans (by decide)
  simp [byTurns, everyStep_cons, Allotted]

end RdpExt.PluginIsolation
