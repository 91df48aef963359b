import RdpExt.WtsShutdown

set_option autoImplicit false

/-!
# The channel comes back

However a channel was lost, `run` is at the reads of a new one after a few steps, once the
system opens channels and the executor leaves them alone.
-/
namespace RdpExt.WtsReconnect
open WtsChannel GuardedRuns WtsThreads HandlerAlternation WtsShutdown

/-- `run` is not called, or on its way out. -/
def gone : TransportPoint → Bool
  | .stopped | .closing _ true | .reportsClose true => true
  | _ => false

/-- Only without `running_` does the transport's thread leave `run`. -/
def Looping (w : System) : Prop := w.wts.running = true → gone w.transport = false

theorem looping_step (w : System) (party : Party) (w' : System) (h : Looping w)
    (step : Step w party w') : Looping w' := by
  intro running
  cases step with
  | stops => cases running
  | outerLoop here | retries here =>
    change w.wts.running = true at running
    rw [running]
    rfl
  | innerLoop here | readChecks here | received _ here =>
    change gone (if _ then _ else _) = false
    split_ifs <;> rfl
  | tries here =>
    change gone (.afterCheck w.wts.tryOpenCheck.2) = false
    unfold WtsTransport.tryOpenCheck
    split_ifs <;> rfl
  | installs handle here =>
    change gone (.afterInstall (w.wts.install handle).2) = false
    unfold WtsTransport.install
    split_ifs <;> rfl
  | closes failed leaves here =>
    have stays := h running
    rw [here] at stays
    cases leaves with
    | true => cases stays
    | false =>
      change gone (if _ then _ else _) = false
      split_ifs <;> rfl
  | reportsClose leaves here =>
    have stays := h running
    rw [here] at stays
    cases leaves with
    | true => cases stays
    | false => rfl
  | runs here | opens here | opensNothing here | openFails here | reportsOpen here
  | readFails here | reads _ here _ | handles _ here => rfl
  | sends | writes | writeFails | closeRequested | executorCloses | executorReports =>
    exact h running

def reading : TransportPoint → Bool
  | .inner | .readChecks | .reads | .received _ | .hands _ => true
  | _ => false

def Back (w : System) : Prop := w.isOpen = true ∧ reading w.transport = true

def Away (w : System) (_party : Party) : Prop := ¬ Back w

instance (w : System) : Decidable (Back w) := inferInstanceAs (Decidable (_ ∧ _))

/-- A step while `running_` stays set, opens succeed, and the executor closes nothing. -/
structure Serviced (w : System) (party : Party) (w' : System) : Prop where
  made : Step w party w'
  notStopped : party ≠ .other
  opens : w.transport = .opening → w'.transport ≠ .openFails
  keeps : party = .executor → w.isOpen = true → w'.isOpen = true

/-- How many steps `run` is from the reads of an open channel. -/
def toBack : TransportPoint → Bool → ℕ
  | .inner, true | .readChecks, true | .reads, true | .received _, true | .hands _, true => 0
  | .reportsOpen, true | .tries, true => 1
  | .outer, true | .installs _, _ => 2
  | .retries, true | .opening, _ => 3
  | .tries, false => 4
  | .outer, false => 5
  | .retries, false | .reportsClose _, _ | .closing _ _, false => 6
  | .closing _ _, true | .openFails, _ | .readChecks, false => 7
  | .inner, false => 8
  | .reportsOpen, false | .hands _, false => 9
  | .received _, false => 10
  | .reads, false | .stopped, _ => 11

theorem toBack_le (point : TransportPoint) (isOpen : Bool) : toBack point isOpen ≤ 11 := by
  unfold toBack
  split <;> omega

theorem back_of_toBack {w : System} (here : toBack w.transport w.isOpen = 0) : Back w := by
  unfold Back
  cases point : w.transport <;> cases valid : w.isOpen <;> rw [point, valid] at here <;>
    first | exact ⟨rfl, rfl⟩ | cases here

structure Working (w : System) : Prop where
  sound : Sound w
  looping : Looping w
  running : w.wts.running = true

theorem running_step {w w' : System} {party : Party} (step : Step w party w')
    (notStopped : party ≠ .other) (running : w.wts.running = true) : w'.wts.running = true := by
  cases step with
  | stops => exact absurd rfl notStopped
  | runs => rfl
  | tries =>
    change w.wts.tryOpenCheck.1.running = true
    unfold WtsTransport.tryOpenCheck
    split_ifs <;> exact running
  | installs handle =>
    change (w.wts.install handle).1.running = true
    unfold WtsTransport.install
    split_ifs <;> exact running
  | _ => exact running

theorem working_step (w : System) (party : Party) (w' : System) (h : Working w)
    (_away : Away w party) (step : Serviced w party w') : Working w' where
  sound := sound_step w party w' h.sound step.made
  looping := looping_step w party w' h.looping step.made
  running := running_step step.made step.notStopped h.running

theorem toBack_lower (w w' : System) (h : Working w) (away : Away w .transport)
    (step : Serviced w .transport w') :
    toBack w'.transport w'.isOpen < toBack w.transport w.isOpen := by
  have running := h.running
  have stays := h.looping running
  -- In the inner loop `run` is away only if the channel is closed.
  have closed (here : reading w.transport = true) : w.isOpen = false :=
    Bool.eq_false_iff.mpr fun valid => away ⟨valid, here⟩
  cases step.made with
  | runs here =>
    rw [here] at stays
    cases stays
  | outerLoop here | retries here =>
    change toBack (if w.wts.running then _ else _) w.isOpen < _
    rw [running, here]
    cases w.isOpen <;> decide
  | tries here =>
    rw [here]
    cases valid : w.wts.channel with
    | none | some =>
      simp [toBack, System.isOpen, WtsTransport.tryOpenCheck, running, valid,
        TransportPoint.afterCheck]
  | opens here =>
    rw [here]
    exact Nat.lt_succ_self 2
  | opensNothing here => exact absurd rfl (step.opens here)
  | openFails here =>
    rw [here]
    change toBack .retries w.isOpen < 7
    cases w.isOpen <;> decide
  | installs handle here =>
    have invalid := h.sound.opening (by rw [here]; rfl)
    rw [here]
    simp [toBack, System.isOpen, WtsTransport.install, running, invalid, TransportPoint.afterInstall]
  | reportsOpen here =>
    rw [here]
    change toBack .inner w.isOpen < toBack .reportsOpen w.isOpen
    cases w.isOpen <;> decide
  | innerLoop here =>
    have invalid := closed (by rw [here]; rfl)
    change toBack (if w.wts.running then _ else _) w.isOpen < _
    rw [running, here, invalid]
    decide
  | readChecks here =>
    have invalid := closed (by rw [here]; rfl)
    have unusable : w.wts.usable = false := by
      unfold WtsTransport.usable
      rw [show w.wts.channel.isSome = false from invalid, Bool.and_false]
    change toBack (if w.wts.usable then _ else _) w.isOpen < _
    rw [unusable, here, invalid]
    decide
  | readFails here =>
    have invalid := closed (by rw [here]; rfl)
    change toBack (.closing _ _) w.isOpen < _
    rw [here, invalid]
    change 6 < 11
    omega
  | reads bytes here fits =>
    have invalid := closed (by rw [here]; rfl)
    change toBack (.received bytes) w.isOpen < _
    rw [here, invalid]
    exact Nat.lt_succ_self 10
  | received bytes here =>
    have invalid := closed (by rw [here]; rfl)
    change toBack (if w.wts.running then _ else _) w.isOpen < _
    rw [running, here, invalid]
    exact Nat.lt_succ_self 9
  | handles bytes here =>
    have invalid := closed (by rw [here]; rfl)
    change toBack .inner w.isOpen < _
    rw [here, invalid]
    exact Nat.lt_succ_self 8
  | closes failed leaves here =>
    rw [here] at stays ⊢
    cases leaves with
    | true => cases stays
    | false =>
      change toBack (if _ then _ else _) false < toBack _ w.isOpen
      rw [h.sound.was_connected]
      cases w.isOpen with
      | true => exact Nat.lt_succ_self 6
      | false => exact Nat.lt_succ_self 5
  | reportsClose leaves here =>
    rw [here] at stays ⊢
    cases leaves with
    | true => cases stays
    | false =>
      change toBack .outer w.isOpen < 6
      cases w.isOpen <;> decide

theorem toBack_level (w : System) (party : Party) (w' : System) (other : party ≠ .transport)
    (step : Serviced w party w') : toBack w'.transport w'.isOpen = toBack w.transport w.isOpen := by
  cases step.made with
  | executorCloses failed here =>
    have invalid : w.isOpen = false :=
      Bool.eq_false_iff.mpr fun valid => absurd (step.keeps rfl valid) nofun
    rw [invalid]
    rfl
  | stops => exact absurd rfl step.notStopped
  | sends | writes | writeFails | closeRequested | executorReports => rfl
  | _ => exact absurd rfl other

theorem serviced_next (w : System) : ∃ w', Serviced w .transport w' := by
  by_cases here : w.transport = .opening
  · exact ⟨_, .opens w here, nofun, fun _ => TransportPoint.noConfusion, nofun⟩
  · obtain ⟨w', made⟩ := transport_goes_on w
    exact ⟨w', made, nofun, fun there => absurd there here, nofun⟩

theorem looping {w : System} (reachable : w.Reachable) : Looping w :=
  reachable.keeps looping_step nofun

theorem Back.settled {w : System} (back : Back w) (reachable : w.Reachable) :
    w.unreported .transport = none ∧ w.wts.handles.length = 1 := by
  obtain ⟨valid, here⟩ := back
  obtain ⟨channel, current⟩ := Option.isSome_iff_exists.mp valid
  have handles := (held reachable).handles
  rw [current] at handles
  rw [handles]
  unfold System.unreported
  cases point : w.transport <;> rw [point] at here <;> first | exact ⟨rfl, rfl⟩ | cases here

/-- As long as nobody stops it, opens succeed and the executor closes nothing, `run` gets
    back to the reads of an open channel that it has reported, in eleven steps at most. -/
theorem channel_comes_back {w w' : System} {steps : ℕ} (reachable : w.Reachable)
    (running : w.wts.running = true) (run : CountedRun Serviced Away .transport w steps w') :
    steps ≤ 11 ∧ (¬ Back w' → steps < 11 ∧ ∃ later, Serviced w' .transport later) ∧
      (Back w' → w'.unreported .transport = none ∧ w'.wts.handles.length = 1) := by
  have working : Working w := ⟨reachable.sound, looping reachable, running⟩
  have bound := run.bounded working_step toBack_lower toBack_level working
  have most := toBack_le w.transport w.isOpen
  have extends' (s : System) (party : Party) (t : System) (before : s.Reachable)
      (_ : Away s party) (step : Serviced s party t) : t.Reachable := before.tail step.made
  refine ⟨by omega, fun away => ?_, fun back => back.settled (run.keeps extends' reachable)⟩
  have left : toBack w'.transport w'.isOpen ≠ 0 := fun here => away (back_of_toBack here)
  exact ⟨by omega, serviced_next w'⟩

def readFailed : System :=
  { firstConnected with
    wts := firstConnected.wts.use, transport := .closing (some 1) false }

/-- The channel is closed and reported, and a second one opened and reported. -/
theorem channel_comes_back_second :
    ∃ w, CountedRun Serviced Away .transport readFailed 7 w ∧ Back w ∧
      w.wts.channel = some 2 ∧ w.wts.handles.length = 1 := by
  have failed : readFailed.Reachable :=
    ((firstConnected_alone.reaches.tail (.innerLoop _ rfl)).tail (.readChecks _ rfl)).tail
      (.readFails _ rfl)
  have goes {n : ℕ} {v w : System} (run : CountedRun Serviced Away .transport readFailed n v)
      (away : ¬ Back v) (step : Step v .transport w) (opens : w.transport ≠ .openFails) :
      CountedRun Serviced Away .transport readFailed (n + 1) w :=
    run.own away ⟨step, nofun, fun _ => opens, nofun⟩
  have closed := goes .refl (by decide) (.closes _ (some 1) false rfl) nofun
  have reported := goes closed (by decide) (.reportsClose _ false rfl) nofun
  have tried := goes (goes reported (by decide) (.outerLoop _ rfl) nofun) (by decide)
    (.tries _ rfl) nofun
  have opened := goes tried (by decide) (.opens _ rfl) nofun
  have installed := goes opened (by decide) (.installs _ 2 rfl) nofun
  have again := goes installed (by decide) (.reportsOpen _ rfl) nofun
  have settled := (channel_comes_back failed rfl again).2.2 ⟨rfl, rfl⟩
  exact ⟨_, again, ⟨rfl, rfl⟩, rfl, settled.2⟩

end RdpExt.WtsReconnect
