import RdpExt.HandlerAlternation

set_option autoImplicit false

/-!
# What the two threads leave behind

The handles that are open are the channel's and the one about to become it. Once
`running_` is cleared, `run` is on its way out, whatever the executor does meanwhile.
-/
namespace RdpExt.WtsShutdown
open ProtocolMessage WtsChannel GuardedRuns WtsThreads HandlerAlternation

def shut : TransportPoint → Bool
  | .stopped | .reportsClose _ => true
  | _ => false

structure Held (w : System) : Prop where
  handles : w.wts.handles = w.wts.channel.toList ++ w.transport.brings.toList
  shut : shut w.transport = true → w.wts.channel = none

theorem held_initial : Held {} := ⟨rfl, fun _ => rfl⟩

section
variable {w w' : System}

theorem Held.moves (h : Held w) (handles : w'.wts.handles = w.wts.handles)
    (channel : w'.wts.channel = w.wts.channel) (brings : w'.transport.brings = w.transport.brings)
    (opens : WtsShutdown.shut w'.transport = true → w.wts.channel = none) : Held w' where
  handles := by
    rw [handles, channel, brings]
    exact h.handles
  shut here := channel.trans (opens here)

theorem Held.alone (h : Held w) (sound : Sound w) {handle : ℕ}
    (here : w.transport = .installs handle) : w.wts.handles = [handle] := by
  have invalid := sound.opening (by rw [here]; rfl)
  rw [h.handles, invalid, here]
  rfl

theorem Held.closed (h : Held w) (sound : Sound w) (failed : Option ℕ)
    (wts : w'.wts = (w.wts.closeBlock failed).1)
    (brings : w'.transport.brings = w.transport.brings) : Held w' where
  handles := by
    rw [wts, brings]
    change w.wts.channel.elim w.wts.handles (fun current => w.wts.handles.filter (· ≠ current)) =
      w.transport.brings.toList
    cases current : w.wts.channel with
    | none =>
      have handles := h.handles
      rw [current] at handles
      exact handles
    | some channel =>
      -- Where there is a channel, no other is being opened.
      have nothing : w.transport.brings = none := by
        cases point : w.transport with
        | installs handle =>
          have invalid := sound.opening (by rw [point]; rfl)
          exact absurd (current.symm.trans invalid) nofun
        | _ => rfl
      have handles := h.handles
      rw [current, nothing] at handles
      rw [handles, nothing]
      change [channel].filter (· ≠ channel) = []
      rw [List.filter_cons_of_neg (by simp), List.filter_nil]
  shut _ := by
    rw [wts]
    rfl

end

theorem Held.installs {w : System} (h : Held w) (sound : Sound w) {handle : ℕ}
    (here : w.transport = .installs handle) :
    Held { w with
      wts := (w.wts.install handle).1, transport := .afterInstall (w.wts.install handle).2 } := by
  have invalid := sound.opening (by rw [here]; rfl)
  have only := h.alone sound here
  unfold WtsTransport.install
  split_ifs with stopped valid
  · refine ⟨?_, nofun⟩
    change w.wts.handles.filter (· ≠ handle) = w.wts.channel.toList ++ []
    rw [only, invalid, List.filter_cons_of_neg (by simp)]
    rfl
  · rw [invalid] at valid
    cases valid
  · exact ⟨only, nofun⟩

theorem held_step (w : System) (party : Party) (w' : System) (sound : Sound w) (h : Held w)
    (step : Step w party w') : Held w' := by
  cases step with
  | runs here | opensNothing here | openFails here | reportsOpen here | readFails here
  | reads _ here _ | handles _ here =>
    exact h.moves rfl rfl (by rw [here]; rfl) nofun
  | outerLoop here | retries here | innerLoop here | readChecks here | received _ here =>
    refine h.moves rfl rfl ?_ ?_
    · split_ifs <;> rw [here] <;> rfl
    · split_ifs <;> exact nofun
  | tries here =>
    unfold WtsTransport.tryOpenCheck
    split_ifs <;> exact h.moves rfl rfl (by rw [here]; rfl) nofun
  | opens here =>
    have invalid := sound.opening (by rw [here]; rfl)
    refine ⟨?_, nofun⟩
    change w.wts.handles ++ [w.wts.opened + 1] = w.wts.channel.toList ++ [w.wts.opened + 1]
    rw [h.handles, here, invalid]
    rfl
  | installs handle here => exact h.installs sound here
  | closes failed leaves here =>
    refine h.closed sound failed rfl ?_
    rw [here]
    cases leaves <;> split_ifs <;> rfl
  | reportsClose leaves here =>
    have invalid := h.shut (by rw [here]; rfl)
    refine h.moves rfl rfl ?_ fun _ => invalid
    rw [here]
    cases leaves <;> rfl
  | sends | writes | writeFails | closeRequested | executorReports | stops =>
    exact h.moves rfl rfl rfl h.shut
  | executorCloses failed here => exact h.closed sound failed rfl rfl

theorem held {w : System} (reachable : w.Reachable) : Held w := by
  have both : Sound w ∧ Held w := by
    have kept (s : System) (party : Party) (t : System) (h : Sound s ∧ Held s)
        (step : Step s party t) : Sound t ∧ Held t :=
      ⟨sound_step s party t h.1 step, held_step s party t h.1 h.2 step⟩
    exact reachable.keeps kept ⟨sound_initial, held_initial⟩
  exact both.2

theorem length_toList_le {α : Type} (o : Option α) : o.toList.length ≤ 1 := by
  cases o with
  | none => exact Nat.zero_le 1
  | some value => exact Nat.le_refl 1

/-- Every channel that is open to the system is the transport's or about to become it, in
    every interleaving; there is never a second one. -/
theorem handles_accounted {w : System} (reachable : w.Reachable) :
    w.wts.handles = w.wts.channel.toList ++ w.transport.brings.toList ∧
      w.wts.handles.length ≤ 1 ∧ (shut w.transport = true → w.wts.handles = []) := by
  have h := held reachable
  have sound := reachable.sound
  refine ⟨h.handles, ?_, fun here => ?_⟩
  · rw [h.handles]
    cases point : w.transport with
    | installs handle =>
      rw [sound.opening (by rw [point]; rfl)]
      exact Nat.le_refl 1
    | _ =>
      change (w.wts.channel.toList ++ []).length ≤ 1
      rw [List.append_nil]
      exact length_toList_le w.wts.channel
  · rw [h.handles, h.shut here]
    cases point : w.transport <;> rw [point] at here <;> first | rfl | cases here

theorem handles_accounted_connected : firstConnected.wts.handles = [1] := by
  have accounted := handles_accounted firstConnected_alone.reaches
  exact accounted.1

def owes (w : System) (party : Party) (call : HandlerCall) : ℕ :=
  (w.unreported party).toList.count call

theorem count_due (w : System) (call : HandlerCall) :
    (due w).count call = owes w .transport call + owes w .executor call := List.count_append

theorem count_due_step {w w' : System} {party : Party} (step : Step w party w')
    (call : HandlerCall) :
    (due w').count call + owes w party call = (due w).count call + owes w' party call := by
  have others (bystander : Party) (different : bystander ≠ party) :
      owes w' bystander call = owes w bystander call := by
    unfold owes
    rw [step.others different]
  rw [count_due, count_due]
  cases party with
  | transport =>
    have executor := others .executor nofun
    omega
  | executor =>
    have transport := others .transport nofun
    omega
  | other =>
    have transport := others .transport nofun
    have executor := others .executor nofun
    have nothing : owes w .other call = owes w' .other call := rfl
    omega

/-- Connected as often as disconnected, but for a channel that is open; the changes that
    are still to be reported count as reported. -/
def Balanced (w : System) : Prop :=
  w.wts.calls.count .connected + (due w).count .connected =
    w.wts.calls.count .disconnected + (due w).count .disconnected + if w.isOpen then 1 else 0

theorem owes_none {w : System} {party : Party} (nothing : w.unreported party = none)
    (call : HandlerCall) : owes w party call = 0 := by
  unfold owes
  rw [nothing]
  rfl

theorem owes_some {w : System} {party : Party} {due : HandlerCall}
    (owed : w.unreported party = some due) (call : HandlerCall) :
    owes w party call = if due = call then 1 else 0 := by
  unfold owes
  rw [owed, Option.toList_some, List.count_singleton]
  simp only [beq_iff_eq]

theorem balanced_step (w : System) (party : Party) (w' : System) (sound : Sound w)
    (h : Balanced w) (step : Step w party w') : Balanced w' := by
  have connected := count_due_step step .connected
  have disconnected := count_due_step step .disconnected
  unfold Balanced at h ⊢
  cases sound.effect step with
  | quiet _ calls isOpen before after =>
    rw [owes_none before, owes_none after] at connected disconnected
    rw [calls, isOpen]
    omega
  | changes _ calls isOpen before after =>
    rw [owes_none before, owes_some after] at connected disconnected
    rw [calls]
    rw [isOpen] at connected disconnected ⊢
    cases openBefore : w.isOpen <;> rw [openBefore] at h connected disconnected <;>
      simp at h connected disconnected ⊢ <;> omega
  | reports call _ calls isOpen before after =>
    rw [owes_some before, owes_none after] at connected disconnected
    rw [calls, isOpen, List.count_append, List.count_append, List.count_singleton,
      List.count_singleton]
    cases call <;> simp at connected disconnected ⊢ <;> omega

theorem balanced {w : System} (reachable : w.Reachable) : Balanced w := by
  have both : Sound w ∧ Balanced w := by
    have kept (s : System) (party : Party) (t : System) (h : Sound s ∧ Balanced s)
        (step : Step s party t) : Sound t ∧ Balanced t :=
      ⟨sound_step s party t h.1 step, balanced_step s party t h.1 h.2 step⟩
    exact reachable.keeps kept ⟨sound_initial, rfl⟩
  exact both.2

/-- In every interleaving the two handlers are called equally often, but for a channel that
    is open and for changes not reported yet, out of turn as they may be. -/
theorem calls_balanced {w : System} (reachable : w.Reachable) :
    w.wts.calls.count .connected + (due w).count .connected =
        w.wts.calls.count .disconnected + (due w).count .disconnected +
          (if w.isOpen then 1 else 0) ∧ (due w).length ≤ 2 := by
  refine ⟨balanced reachable, ?_⟩
  unfold due
  rw [List.length_append]
  have transport := length_toList_le (w.unreported .transport)
  have executor := length_toList_le (w.unreported .executor)
  omega

theorem calls_balanced_connected : firstConnected.wts.calls.count .connected = 1 := by
  have balanced := calls_balanced firstConnected_alone.reaches
  exact balanced.1

/-- How many steps `run` makes before it returns, if `running_` is false. -/
def remaining : TransportPoint → ℕ
  | .stopped => 0
  | .reportsClose true => 1
  | .closing _ true => 2
  | .outer | .retries => 3
  | .tries | .openFails | .installs _ | .inner | .reportsClose false => 4
  | .opening | .reportsOpen | .closing _ false | .hands _ => 5
  | .readChecks | .received _ => 6
  | .reads => 7

def toOpen : TransportPoint → ℕ
  | .opening => 1
  | _ => 0

def toReport : TransportPoint → ℕ
  | .reportsOpen => 1
  | _ => 0

/-- The buffer that the bytes handler is about to be called with. -/
def toHand : TransportPoint → List Buffer
  | .hands bytes => if bytes.length > 0 then [bytes] else []
  | _ => []

def Leaving (w : System) (party : Party) : Prop :=
  party = .transport → w.transport ≠ .stopped

/-- What is left to be done since `start`, now that `running_` is false. -/
structure Stopping (start w : System) : Prop where
  stopped : w.wts.running = false
  handled : w.wts.handled ++ toHand w.transport = start.wts.handled ++ toHand start.transport
  opened : w.wts.opened + toOpen w.transport ≤ start.wts.opened + toOpen start.transport
  reported : w.wts.calls.count .connected + toReport w.transport =
    start.wts.calls.count .connected + toReport start.transport

theorem remaining_le (point : TransportPoint) : remaining point ≤ 7 := by
  unfold remaining
  split <;> omega

section
variable {start w w' : System}

theorem Stopping.moves (h : Stopping start w) (running : w'.wts.running = w.wts.running)
    (handled : w'.wts.handled ++ toHand w'.transport = w.wts.handled ++ toHand w.transport)
    (opened : w'.wts.opened + toOpen w'.transport ≤ w.wts.opened + toOpen w.transport)
    (reported : w'.wts.calls.count .connected + toReport w'.transport =
      w.wts.calls.count .connected + toReport w.transport) : Stopping start w' where
  stopped := running.trans h.stopped
  handled := handled.trans h.handled
  opened := opened.trans h.opened
  reported := reported.trans h.reported

theorem Stopping.walks (h : Stopping start w) {point : TransportPoint}
    (hands : toHand point = toHand w.transport) (opens : toOpen point = 0)
    (reports : toReport point = toReport w.transport) :
    Stopping start { w with transport := point } := by
  refine h.moves rfl (congrArg (w.wts.handled ++ ·) hands) ?_ ?_
  · change w.wts.opened + toOpen point ≤ _
    omega
  · exact congrArg (w.wts.calls.count .connected + ·) reports

end

theorem count_disconnected (calls : List HandlerCall) :
    (calls ++ [HandlerCall.disconnected]).count .connected = calls.count .connected := by
  rw [List.count_append]
  rfl

theorem stopping_step {start : System} (w : System) (party : Party) (w' : System)
    (h : Stopping start w) (leaving : Leaving w party) (step : Step w party w') :
    Stopping start w' := by
  have stopped := h.stopped
  cases step with
  | runs here => exact absurd here (leaving rfl)
  | outerLoop here | retries here | innerLoop here | received _ here =>
    rw [stopped]
    exact h.walks (by rw [here]; rfl) rfl (by rw [here]; rfl)
  | tries here =>
    unfold WtsTransport.tryOpenCheck
    rw [stopped]
    exact h.walks (by rw [here]; rfl) rfl (by rw [here]; rfl)
  | opens here =>
    refine h.moves rfl (by rw [here]; rfl) ?_ ?_
    · rw [here]
      exact Nat.le_refl _
    · rw [here]
      rfl
  | opensNothing here => exact h.walks (by rw [here]; rfl) rfl (by rw [here]; rfl)
  | openFails here =>
    refine h.moves rfl (by rw [here]; rfl) ?_ ?_
    · rw [here]
      exact Nat.le_refl _
    · rw [here]
      rfl
  | installs handle here =>
    unfold WtsTransport.install
    rw [stopped]
    refine h.moves rfl (by rw [here]; rfl) ?_ ?_
    · rw [here]
      exact Nat.le_refl _
    · rw [here]
      rfl
  | reportsOpen here =>
    refine h.moves rfl (by rw [here]; rfl) ?_ ?_
    · rw [here]
      exact Nat.le_refl _
    · rw [here]
      exact List.count_append
  | readChecks here =>
    unfold WtsTransport.usable
    rw [stopped]
    exact h.walks (by rw [here]; rfl) rfl (by rw [here]; rfl)
  | readFails here | reads _ here _ =>
    refine h.moves rfl (by rw [here]; rfl) ?_ ?_
    · rw [here]
      exact Nat.le_refl _
    · rw [here]
      rfl
  | handles bytes here =>
    refine h.moves rfl ?_ ?_ ?_
    · rw [here]
      exact List.append_nil _
    · rw [here]
      exact Nat.le_refl _
    · rw [here]
      rfl
  | closes failed leaves here =>
    have hands : toHand (if (w.wts.closeBlock failed).2 then TransportPoint.reportsClose leaves
        else .afterClose leaves) = [] := by
      cases leaves <;> split_ifs <;> rfl
    have opens : toOpen (if (w.wts.closeBlock failed).2 then TransportPoint.reportsClose leaves
        else .afterClose leaves) = 0 := by
      cases leaves <;> split_ifs <;> rfl
    have reports : toReport (if (w.wts.closeBlock failed).2 then TransportPoint.reportsClose leaves
        else .afterClose leaves) = 0 := by
      cases leaves <;> split_ifs <;> rfl
    refine h.moves rfl ?_ ?_ ?_
    · rw [hands, here]
      rfl
    · rw [opens]
      exact Nat.le_add_right _ _
    · rw [reports, here]
      rfl
  | reportsClose leaves here =>
    refine h.moves rfl ?_ ?_ ?_
    · rw [here]
      cases leaves <;> rfl
    · rw [here]
      cases leaves <;> exact Nat.le_refl _
    · rw [here]
      cases leaves <;> exact count_disconnected w.wts.calls
  | sends | writes | writeFails | closeRequested | executorCloses =>
    exact h.moves rfl rfl (Nat.le_refl _) rfl
  | executorReports here =>
    refine h.moves rfl rfl (Nat.le_refl _) ?_
    exact congrArg (· + toReport w.transport) (count_disconnected w.wts.calls)
  | stops => exact ⟨rfl, h.handled, h.opened, h.reported⟩

theorem remaining_lower (w w' : System) (stopped : w.wts.running = false)
    (leaving : Leaving w .transport) (step : Step w .transport w') :
    remaining w'.transport < remaining w.transport := by
  cases step with
  | runs here => exact absurd here (leaving rfl)
  | outerLoop here | retries here =>
    rw [stopped, here]
    exact Nat.lt_succ_self 2
  | innerLoop here =>
    rw [stopped, here]
    exact Nat.lt_succ_self 3
  | received bytes here =>
    rw [stopped, here]
    exact Nat.lt_succ_self 5
  | tries here =>
    unfold WtsTransport.tryOpenCheck
    rw [stopped, here]
    exact Nat.lt_succ_self 3
  | installs handle here =>
    unfold WtsTransport.install
    rw [stopped, here]
    exact Nat.lt_succ_self 3
  | readChecks here =>
    unfold WtsTransport.usable
    rw [stopped, here]
    exact Nat.lt_succ_self 5
  | closes failed leaves here =>
    rw [here]
    cases leaves <;> split_ifs <;> simp [remaining, TransportPoint.afterClose]
  | reportsClose leaves here =>
    rw [here]
    cases leaves with
    | true => exact Nat.lt_succ_self 0
    | false => exact Nat.lt_succ_self 3
  | opens here | opensNothing here | openFails here | reportsOpen here | readFails here
  | reads _ here _ | handles _ here =>
    rw [here]
    simp [remaining]

theorem remaining_level (w : System) (party : Party) (w' : System) (other : party ≠ .transport)
    (step : Step w party w') : remaining w'.transport = remaining w.transport := by
  cases step <;> first | rfl | exact absurd rfl other

theorem transport_goes_on (w : System) : ∃ w', Step w .transport w' := by
  cases here : w.transport with
  | stopped => exact ⟨_, .runs w here⟩
  | outer => exact ⟨_, .outerLoop w here⟩
  | tries => exact ⟨_, .tries w here⟩
  | opening => exact ⟨_, .opensNothing w here⟩
  | openFails => exact ⟨_, .openFails w here⟩
  | installs handle => exact ⟨_, .installs w handle here⟩
  | reportsOpen => exact ⟨_, .reportsOpen w here⟩
  | retries => exact ⟨_, .retries w here⟩
  | inner => exact ⟨_, .innerLoop w here⟩
  | readChecks => exact ⟨_, .readChecks w here⟩
  | reads => exact ⟨_, .readFails w here⟩
  | received bytes => exact ⟨_, .received w bytes here⟩
  | hands bytes => exact ⟨_, .handles w bytes here⟩
  | closing failed leaves => exact ⟨_, .closes w failed leaves here⟩
  | reportsClose leaves => exact ⟨_, .reportsClose w leaves here⟩

/-- A stopped `run` returns after seven of its own steps at most, whatever the executor does
    between them; it hands on what it was about to and no more, and leaves nothing open. -/
theorem stopped_run_returns {w w' : System} {steps : ℕ} (reachable : w.Reachable)
    (stopped : w.wts.running = false) (run : CountedRun Step Leaving .transport w steps w') :
    steps + remaining w'.transport ≤ 7 ∧
      (w'.transport ≠ .stopped → ∃ later, Step w' .transport later) ∧
      w'.wts.handled ++ toHand w'.transport = w.wts.handled ++ toHand w.transport ∧
      w'.wts.opened ≤ w.wts.opened + 1 ∧
      w'.wts.calls.count .connected ≤ w.wts.calls.count .connected + 1 ∧
      (w'.transport = .stopped → w'.wts.channel = none ∧ w'.wts.handles = [] ∧
        (w'.executor.unreported = none →
          w'.wts.calls.count .connected = w'.wts.calls.count .disconnected)) := by
  have extends' (s : System) (party : Party) (t : System) (before : s.Reachable)
      (_ : Leaving s party) (step : Step s party t) : t.Reachable := before.tail step
  have later : w'.Reachable := run.keeps extends' reachable
  have h : Stopping w w' := run.keeps stopping_step ⟨stopped, rfl, Nat.le_refl _, rfl⟩
  have bound : steps + remaining w'.transport ≤ remaining w.transport :=
    run.bounded stopping_step
      (fun _ _ stopping leaving step => remaining_lower _ _ stopping.stopped leaving step)
      remaining_level (⟨stopped, rfl, Nat.le_refl _, rfl⟩ : Stopping w w)
  have opens : toOpen w.transport ≤ 1 := by
    unfold toOpen
    split <;> omega
  have reports : toReport w.transport ≤ 1 := by
    unfold toReport
    split <;> omega
  refine ⟨bound.trans (remaining_le _), fun _ => transport_goes_on w', h.handled, ?_, ?_, ?_⟩
  · have opened := h.opened
    omega
  · have reported := h.reported
    omega
  · intro here
    have none := (held later).shut (by rw [here]; rfl)
    refine ⟨none, ?_, fun quiet => ?_⟩
    · rw [(held later).handles, none, here]
      rfl
    · have balance := balanced later
      have nothing : due w' = [] := by
        unfold due System.unreported
        rw [here, quiet]
        rfl
      have isOpen : w'.isOpen = false := by
        unfold System.isOpen
        rw [none]
        rfl
      unfold Balanced at balance
      rw [nothing, isOpen] at balance
      exact balance

/-- Connected, and stopped in front of the next read. -/
def stoppedReading : System :=
  { firstConnected with
    wts := { firstConnected.wts with running := false }, transport := .readChecks }

/-- The executor closes the channel, and `run` finds nothing left to close. -/
theorem stopped_run_returns_closed :
    ∃ w : System, CountedRun Step Leaving .transport stoppedReading 4 w ∧
      w.transport = .stopped ∧ w.wts.channel = none ∧ w.wts.handles = [] := by
  have reading : stoppedReading.Reachable :=
    (firstConnected_alone.reaches.tail (.innerLoop _ rfl)).tail (.stops _)
  have other : Party.executor ≠ .transport := nofun
  have leaves (w : System) : Leaving w .executor := fun same => absurd same other
  have unusable : CountedRun Step Leaving .transport stoppedReading 1 _ :=
    CountedRun.refl.own (fun _ => TransportPoint.noConfusion) (.readChecks stoppedReading rfl)
  have closed : CountedRun Step Leaving .transport stoppedReading 1 _ :=
    (unusable.others (leaves _) other (.closeRequested _ rfl)).others (leaves _) other
      (.executorCloses _ none rfl)
  have outer : CountedRun Step Leaving .transport stoppedReading 3 _ :=
    (closed.own (fun _ => TransportPoint.noConfusion) (.closes _ none false rfl)).own
      (fun _ => TransportPoint.noConfusion) (.outerLoop _ rfl)
  have returned := outer.own (fun _ => TransportPoint.noConfusion) (.closes _ none true rfl)
  have settled := (stopped_run_returns reading rfl returned).2.2.2.2.2 rfl
  exact ⟨_, returned, rfl, settled.1, settled.2.1⟩

end RdpExt.WtsShutdown
