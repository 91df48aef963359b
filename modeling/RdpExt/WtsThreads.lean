import RdpExt.WtsChannel
import RdpExt.GuardedRuns
import Mathlib.Data.List.Infix

set_option autoImplicit false

/-!
# Two threads on one transport

`run` on the transport's thread, `send` and `close` on the executor's, `stop` from
anywhere. A step is one block under the lock, one call of a handler, one read or write,
or one look at `running_`; between two of them the other thread may make any of its own.
-/
namespace RdpExt.WtsThreads
open ProtocolMessage WtsChannel GuardedRuns

/-- Where the transport's thread is in `run`: in front of the named step. In
    `closeChannel` it is with what failed, and whether it leaves `run` behind it. -/
inductive TransportPoint where
  | stopped
  | outer
  | tries
  | opening
  | openFails
  | installs (handle : ℕ)
  | reportsOpen
  | retries
  | inner
  | readChecks
  | reads
  | received (bytes : Buffer)
  | hands (bytes : Buffer)
  | closing (failed : Option ℕ) (leaves : Bool)
  | reportsClose (leaves : Bool)
  deriving DecidableEq, Repr

inductive ExecutorPoint where
  | idle
  | writes (bytes : Buffer)
  | closing (failed : Option ℕ)
  | reportsClose
  deriving DecidableEq, Repr

inductive Party where
  | transport
  | executor
  | other
  deriving DecidableEq, Repr

structure System where
  wts : WtsTransport := {}
  transport : TransportPoint := .stopped
  executor : ExecutorPoint := .idle
  deriving DecidableEq, Repr

def TransportPoint.afterClose (leaves : Bool) : TransportPoint := if leaves then .stopped else .outer

def TransportPoint.afterCheck : Option Bool → TransportPoint
  | some true => .inner
  | some false => .retries
  | none => .opening

def TransportPoint.afterInstall : Installed → TransportPoint
  | .taken => .reportsOpen
  | .found => .inner
  | .refused => .retries

inductive Step : System → Party → System → Prop where
  | runs (w : System) (here : w.transport = .stopped) :
      Step w .transport { w with wts := { w.wts with running := true }, transport := .outer }
  | outerLoop (w : System) (here : w.transport = .outer) :
      Step w .transport
        { w with transport := if w.wts.running then .tries else .closing none true }
  | tries (w : System) (here : w.transport = .tries) :
      Step w .transport
        { w with
          wts := w.wts.tryOpenCheck.1, transport := .afterCheck w.wts.tryOpenCheck.2 }
  | opens (w : System) (here : w.transport = .opening) :
      Step w .transport
        { w with wts := w.wts.openHandle, transport := .installs w.wts.openHandle.opened }
  | opensNothing (w : System) (here : w.transport = .opening) :
      Step w .transport { w with transport := .openFails }
  | openFails (w : System) (here : w.transport = .openFails) :
      Step w .transport { w with wts := w.wts.openFailed, transport := .retries }
  | installs (w : System) (handle : ℕ) (here : w.transport = .installs handle) :
      Step w .transport
        { w with
          wts := (w.wts.install handle).1, transport := .afterInstall (w.wts.install handle).2 }
  | reportsOpen (w : System) (here : w.transport = .reportsOpen) :
      Step w .transport { w with wts := w.wts.call .connected, transport := .inner }
  | retries (w : System) (here : w.transport = .retries) :
      Step w .transport
        { w with transport := if w.wts.running then .outer else .closing none true }
  | innerLoop (w : System) (here : w.transport = .inner) :
      Step w .transport { w with transport := if w.wts.running then .readChecks else .outer }
  | readChecks (w : System) (here : w.transport = .readChecks) :
      Step w .transport
        { w with transport := if w.wts.usable then .reads else .closing none false }
  | readFails (w : System) (here : w.transport = .reads) :
      Step w .transport
        { w with wts := w.wts.use, transport := .closing w.wts.channel false }
  | reads (w : System) (bytes : Buffer) (here : w.transport = .reads)
      (fits : bytes.length ≤ READ_BUFFER_SIZE) :
      Step w .transport { w with wts := w.wts.use, transport := .received bytes }
  | received (w : System) (bytes : Buffer) (here : w.transport = .received bytes) :
      Step w .transport
        { w with transport := if w.wts.running then .hands bytes else .closing none false }
  | handles (w : System) (bytes : Buffer) (here : w.transport = .hands bytes) :
      Step w .transport { w with wts := w.wts.handle bytes, transport := .inner }
  | closes (w : System) (failed : Option ℕ) (leaves : Bool)
      (here : w.transport = .closing failed leaves) :
      Step w .transport
        { w with
          wts := (w.wts.closeBlock failed).1
          transport :=
            if (w.wts.closeBlock failed).2 then .reportsClose leaves else .afterClose leaves }
  | reportsClose (w : System) (leaves : Bool) (here : w.transport = .reportsClose leaves) :
      Step w .transport
        { w with wts := w.wts.call .disconnected, transport := .afterClose leaves }
  | sends (w : System) (bytes : Buffer) (here : w.executor = .idle) :
      Step w .executor { w with executor := if w.wts.usable then .writes bytes else .idle }
  -- A write on no channel may report success, but no channel takes its bytes.
  | writes (w : System) (bytes : Buffer) (bytesWritten : ℕ) (here : w.executor = .writes bytes)
      (taken : w.wts.channel = none → bytesWritten = 0) :
      Step w .executor { w with wts := w.wts.write bytes bytesWritten, executor := .idle }
  | writeFails (w : System) (bytes : Buffer) (here : w.executor = .writes bytes) :
      Step w .executor { w with wts := w.wts.use, executor := .closing w.wts.channel }
  | closeRequested (w : System) (here : w.executor = .idle) :
      Step w .executor { w with executor := .closing none }
  | executorCloses (w : System) (failed : Option ℕ) (here : w.executor = .closing failed) :
      Step w .executor
        { w with
          wts := (w.wts.closeBlock failed).1
          executor := if (w.wts.closeBlock failed).2 then .reportsClose else .idle }
  | executorReports (w : System) (here : w.executor = .reportsClose) :
      Step w .executor { w with wts := w.wts.call .disconnected, executor := .idle }
  | stops (w : System) : Step w .other { w with wts := { w.wts with running := false } }

def System.Reachable (w : System) : Prop := Reaches Step {} w

/-- The handle that the next install would put into `channel_`. -/
def TransportPoint.brings : TransportPoint → Option ℕ
  | .installs handle => some handle
  | _ => none

/-- Between the two blocks of `tryOpenChannel`. -/
def TransportPoint.opens : TransportPoint → Bool
  | .opening | .openFails | .installs _ => true
  | _ => false

/-- The channel on which the read failed that `closeChannel` is called for. -/
def TransportPoint.failed : TransportPoint → Option ℕ
  | .closing failed _ => failed
  | _ => none

def ExecutorPoint.failed : ExecutorPoint → Option ℕ
  | .closing failed => failed
  | _ => none

/-- A channel the transport has or had. -/
def System.Knows (w : System) (handle : ℕ) : Prop :=
  w.wts.channel = some handle ∨ w.transport.failed = some handle ∨ w.executor.failed = some handle

structure Sound (w : System) : Prop where
  connected : w.wts.state = .connected ↔ w.wts.channel ≠ none
  opening : w.transport.opens = true → w.wts.channel = none
  held : ∀ handle, w.wts.channel = some handle → handle ∈ w.wts.handles
  brought : ∀ handle, w.transport.brings = some handle → handle ∈ w.wts.handles
  numbered : ∀ handle, w.Knows handle → handle ≤ w.wts.opened
  new : ∀ handle, w.transport.brings = some handle → handle ≤ w.wts.opened ∧
    ∀ old, w.Knows old → old < handle

theorem sound_initial : Sound {} where
  connected := ⟨nofun, fun h => absurd rfl h⟩
  opening := nofun
  held := nofun
  brought := nofun
  numbered := by
    rintro _ (h | h | h) <;> cases h
  new := nofun

section
variable {w w' : System}

/-- A step that leaves the channel alone knows no other, a failure on it included. -/
theorem System.Knows.before {handle : ℕ} (knows : w'.Knows handle)
    (channel : w'.wts.channel = w.wts.channel)
    (read : w'.transport.failed = w.transport.failed ∨ w'.transport.failed = none ∨
      w'.transport.failed = w.wts.channel)
    (write : w'.executor.failed = w.executor.failed ∨ w'.executor.failed = none ∨
      w'.executor.failed = w.wts.channel) : w.Knows handle := by
  rcases knows with current | failed | failed
  · exact .inl (channel.symm.trans current)
  · rcases read with same | none | current
    · exact .inr (.inl (same.symm.trans failed))
    · exact absurd (none.symm.trans failed) nofun
    · exact .inl (current.symm.trans failed)
  · rcases write with same | none | current
    · exact .inr (.inr (same.symm.trans failed))
    · exact absurd (none.symm.trans failed) nofun
    · exact .inl (current.symm.trans failed)

/-- A step that leaves channel and handles alone. -/
theorem Sound.moves (h : Sound w) (channel : w'.wts.channel = w.wts.channel)
    (state : w'.wts.state = w.wts.state) (handles : w'.wts.handles = w.wts.handles)
    (opened : w'.wts.opened = w.wts.opened)
    (opens : w'.transport.opens = true → w.transport.opens = true)
    (brings : ∀ handle, w'.transport.brings = some handle → w.transport.brings = some handle)
    (known : ∀ handle, w'.Knows handle → w.Knows handle) : Sound w' where
  connected := by
    rw [channel, state]
    exact h.connected
  opening inside := channel.trans (h.opening (opens inside))
  held handle current := by
    rw [handles]
    exact h.held handle (channel.symm.trans current)
  brought handle brought := by
    rw [handles]
    exact h.brought handle (brings handle brought)
  numbered handle knows := by
    rw [opened]
    exact h.numbered handle (known handle knows)
  new handle brought := by
    rw [opened]
    obtain ⟨bound, newer⟩ := h.new handle (brings handle brought)
    exact ⟨bound, fun old knows => newer old (known old knows)⟩

theorem Sound.walks (h : Sound w) {point : TransportPoint} (outside : point.opens = false)
    (nothing : point.brings = none) (unfailed : point.failed = none) :
    Sound { w with transport := point } := by
  refine h.moves rfl rfl rfl rfl ?_ ?_ fun _ knows =>
    knows.before rfl (.inr (.inl unfailed)) (.inl rfl)
  · exact fun inside => absurd (outside.symm.trans inside) nofun
  · exact fun _ brings => absurd (nothing.symm.trans brings) nofun

end

theorem Sound.tries {w : System} (h : Sound w) :
    Sound { w with
      wts := w.wts.tryOpenCheck.1, transport := .afterCheck w.wts.tryOpenCheck.2 } := by
  unfold WtsTransport.tryOpenCheck
  split_ifs with stopped valid
  · exact h.walks rfl rfl rfl
  · have connected := h.connected.mpr (Option.isSome_iff_ne_none.mp valid)
    exact h.moves rfl connected.symm rfl rfl nofun nofun fun _ knows =>
      knows.before rfl (.inr (.inl rfl)) (.inl rfl)
  · have invalid : w.wts.channel = none := Option.not_isSome_iff_eq_none.mp valid
    exact
      { connected := ⟨nofun, fun valid => absurd invalid valid⟩
        opening := fun _ => invalid
        held := h.held
        brought := nofun
        numbered := fun handle knows =>
          h.numbered handle (knows.before rfl (.inr (.inl rfl)) (.inl rfl))
        new := nofun }

theorem Sound.opens {w : System} (h : Sound w) (here : w.transport = .opening) :
    Sound { w with
      wts := w.wts.openHandle, transport := .installs w.wts.openHandle.opened } where
  connected := h.connected
  opening _ := h.opening (by rw [here]; rfl)
  held handle current := List.mem_append_left _ (h.held handle current)
  brought := by
    rintro _ ⟨⟩
    exact List.mem_append_right _ List.mem_cons_self
  numbered handle knows :=
    Nat.le_succ_of_le (h.numbered handle (knows.before rfl (.inr (.inl rfl)) (.inl rfl)))
  new := by
    rintro _ ⟨⟩
    exact ⟨Nat.le_refl _, fun old knows =>
      Nat.lt_succ_of_le (h.numbered old (knows.before rfl (.inr (.inl rfl)) (.inl rfl)))⟩

theorem Sound.installs {w : System} (h : Sound w) {handle : ℕ}
    (here : w.transport = .installs handle) :
    Sound { w with
      wts := (w.wts.install handle).1, transport := .afterInstall (w.wts.install handle).2 } := by
  have invalid : w.wts.channel = none := h.opening (by rw [here]; rfl)
  obtain ⟨bound, newer⟩ := h.new handle (by rw [here]; rfl)
  unfold WtsTransport.install
  split_ifs with stopped valid
  · exact
      { connected := h.connected
        opening := nofun
        held := fun other current => absurd (invalid.symm.trans current) nofun
        brought := nofun
        numbered := fun other knows =>
          h.numbered other (knows.before rfl (.inr (.inl rfl)) (.inl rfl))
        new := nofun }
  · rw [invalid] at valid
    cases valid
  · exact
      { connected := ⟨fun _ => nofun, fun _ => rfl⟩
        opening := nofun
        held := by
          rintro _ ⟨⟩
          exact h.brought handle (by rw [here]; rfl)
        brought := nofun
        numbered := by
          rintro other (current | read | write)
          · cases current
            exact bound
          · cases read
          · exact h.numbered other (.inr (.inr write))
        new := nofun }

/-- Behind the block of `closeChannel`, of either thread. -/
theorem Sound.closed {w w' : System} (h : Sound w) {failed : Option ℕ}
    (wts : w'.wts = (w.wts.closeBlock failed).1)
    (brings : ∀ handle, w'.transport.brings = some handle → w.transport.brings = some handle)
    (read : ∀ handle, w'.transport.failed = some handle → w.transport.failed = some handle)
    (write : ∀ handle, w'.executor.failed = some handle → w.executor.failed = some handle) :
    Sound w' := by
  have channel : w'.wts.channel = none := by rw [wts]; rfl
  have known : ∀ handle, w'.Knows handle → w.Knows handle := by
    rintro handle (current | failed | failed)
    · exact absurd (channel.symm.trans current) nofun
    · exact .inr (.inl (read handle failed))
    · exact .inr (.inr (write handle failed))
  have opened : w'.wts.opened = w.wts.opened := by rw [wts]; rfl
  refine ⟨?_, fun _ => channel, fun handle current => ?_, fun handle brought => ?_, ?_, ?_⟩
  · rw [wts]
    exact ⟨nofun, fun valid => absurd rfl valid⟩
  · exact absurd (channel.symm.trans current) nofun
  · -- The new handle is not the one that is closed here.
    have held := h.brought handle (brings handle brought)
    rw [wts]
    change handle ∈ w.wts.channel.elim w.wts.handles fun current => w.wts.handles.filter (· ≠ current)
    cases current : w.wts.channel with
    | none => exact held
    | some old =>
      have less := (h.new handle (brings handle brought)).2 _ (.inl current)
      refine List.mem_filter.mpr ⟨held, ?_⟩
      rw [decide_eq_true_iff]
      omega
  · intro handle knows
    rw [opened]
    exact h.numbered handle (known handle knows)
  · intro handle brought
    rw [opened]
    obtain ⟨bound, newer⟩ := h.new handle (brings handle brought)
    exact ⟨bound, fun old knows => newer old (known old knows)⟩

theorem sound_step (w : System) (party : Party) (w' : System) (h : Sound w) (step : Step w party w') :
    Sound w' := by
  cases step with
  | runs here | reportsOpen here | handles _ here | reads _ here _ =>
    exact h.moves rfl rfl rfl rfl nofun nofun fun _ knows =>
      knows.before rfl (.inr (.inl rfl)) (.inl rfl)
  | outerLoop here | retries here | innerLoop here | readChecks here | received _ here =>
    split_ifs <;> exact h.walks rfl rfl rfl
  | tries here => exact h.tries
  | opens here => exact h.opens here
  | opensNothing here =>
    exact h.moves rfl rfl rfl rfl (fun _ => by rw [here]; rfl) nofun fun _ knows =>
      knows.before rfl (.inr (.inl rfl)) (.inl rfl)
  | openFails here =>
    have invalid := h.opening (by rw [here]; rfl)
    exact ⟨⟨nofun, fun valid => absurd invalid valid⟩, nofun, h.held, nofun,
      fun handle knows => h.numbered handle (knows.before rfl (.inr (.inl rfl)) (.inl rfl)), nofun⟩
  | installs handle here => exact h.installs here
  | readFails here =>
    exact h.moves rfl rfl rfl rfl nofun nofun fun _ knows =>
      knows.before rfl (.inr (.inr rfl)) (.inl rfl)
  | closes failed leaves here =>
    refine h.closed rfl ?_ ?_ (fun _ => id)
    all_goals cases leaves <;> split_ifs <;> exact nofun
  | reportsClose leaves here =>
    cases leaves <;> exact h.moves rfl rfl rfl rfl nofun nofun fun _ knows =>
      knows.before rfl (.inr (.inl rfl)) (.inl rfl)
  | sends bytes here =>
    split_ifs <;> exact h.moves rfl rfl rfl rfl id (fun _ => id) fun _ knows =>
      knows.before rfl (.inl rfl) (.inr (.inl rfl))
  | writes | closeRequested | executorReports =>
    exact h.moves rfl rfl rfl rfl id (fun _ => id) fun _ knows =>
      knows.before rfl (.inl rfl) (.inr (.inl rfl))
  | writeFails bytes here =>
    exact h.moves rfl rfl rfl rfl id (fun _ => id) fun _ knows =>
      knows.before rfl (.inl rfl) (.inr (.inr rfl))
  | executorCloses failed here =>
    refine h.closed rfl (fun _ => id) (fun _ => id) ?_
    split_ifs <;> exact nofun
  | stops => exact ⟨h.connected, h.opening, h.held, h.brought, h.numbered, h.new⟩

theorem System.Reachable.sound {w : System} (reachable : w.Reachable) : Sound w :=
  reachable.keeps sound_step sound_initial

/-- `send` as a whole is what the executor's steps come to where nobody steps between. -/
theorem send_undisturbed (w : System) (idle : w.executor = .idle) (bytes : Buffer)
    (result : WriteResult) :
    ReachesWithin Step (fun _ party => party = .executor) w
      { w with wts := w.wts.send bytes result } := by
  have checked : ReachesWithin Step (fun _ party => party = .executor) w _ :=
    ReachesWithin.refl.tail rfl (Step.sends w bytes idle)
  unfold WtsTransport.send
  by_cases usable : w.wts.usable = true
  · obtain ⟨_, valid⟩ := WtsTransport.usable_iff.mp usable
    rw [if_pos usable] at checked
    rw [if_neg (by rw [usable]; nofun)]
    cases result with
    | writes bytesWritten =>
      have written := checked.tail rfl
        (.writes _ bytes bytesWritten rfl fun closed => absurd closed valid)
      rw [← idle] at written
      exact written
    | fails =>
      have closed := (checked.tail rfl (.writeFails _ bytes rfl)).tail rfl
        (.executorCloses _ w.wts.channel rfl)
      unfold WtsTransport.closeChannel
      by_cases connected : (w.wts.use.closeBlock w.wts.channel).2 = true
      · rw [if_pos connected] at closed ⊢
        have reported := closed.tail rfl (.executorReports _ rfl)
        rw [← idle] at reported
        exact reported
      · rw [if_neg connected] at closed ⊢
        rw [← idle] at closed
        exact closed
  · rw [if_neg usable, ← idle] at checked
    rw [if_pos (by simpa using usable)]
    exact checked

/-- The same of `readOnce` in the read loop. -/
theorem readOnce_undisturbed (w : System) (here : w.transport = .readChecks) (result : ReadResult)
    (fits : ∀ bytes, result = .reads bytes → bytes.length ≤ READ_BUFFER_SIZE) :
    ReachesWithin Step (fun _ party => party = .transport) w
      { w with
        wts := (w.wts.readOnce result).1
        transport :=
          if (w.wts.readOnce result).2 then .inner
          else .closing (if w.wts.usable then w.wts.channel else none) false } := by
  have checked : ReachesWithin Step (fun _ party => party = .transport) w _ :=
    ReachesWithin.refl.tail rfl (Step.readChecks w here)
  unfold WtsTransport.readOnce
  by_cases usable : w.wts.usable = true
  · obtain ⟨running, _⟩ := WtsTransport.usable_iff.mp usable
    rw [if_pos usable] at checked
    rw [if_neg (by rw [usable]; nofun), if_pos usable]
    cases result with
    | fails => exact checked.tail rfl (.readFails _ rfl)
    | reads bytes =>
      simp only [running, Bool.not_true, Bool.false_eq_true, ↓reduceIte]
      have looks := Step.received { w with wts := w.wts.use, transport := .received bytes } bytes rfl
      change Step _ _ { w with wts := w.wts.use, transport := if w.wts.running then _ else _ } at looks
      rw [if_pos running] at looks
      have received := checked.tail rfl (.reads _ bytes rfl (fits bytes rfl))
      exact (received.tail rfl looks).tail rfl (.handles _ bytes rfl)
  · rw [if_neg usable] at checked
    rw [if_pos (by simpa using usable), if_neg usable]
    exact checked

def firstConnected : System where
  wts := WtsTransport.firstOpened
  transport := .inner

/-- Nobody but the transport's thread is at work. -/
def Alone (w : System) (party : Party) : Prop := party = .transport ∧ w.executor = .idle

theorem firstConnected_alone : ReachesWithin Step Alone {} firstConnected := by
  have tried : ReachesWithin Step Alone {} _ :=
    ((ReachesWithin.refl.tail ⟨rfl, rfl⟩ (.runs {} rfl)).tail ⟨rfl, rfl⟩ (.outerLoop _ rfl)).tail
      ⟨rfl, rfl⟩ (.tries _ rfl)
  exact ((tried.tail ⟨rfl, rfl⟩ (.opens _ rfl)).tail ⟨rfl, rfl⟩ (.installs _ 1 rfl)).tail
    ⟨rfl, rfl⟩ (.reportsOpen _ rfl)

end RdpExt.WtsThreads
