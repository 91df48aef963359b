import RdpExt.WtsThreads

set_option autoImplicit false

/-!
# Are reads and writes made on an open channel, and is the one that failed closed?

Both threads ask for a channel under the lock and use `channel_` behind it, and
`closeChannel` closes whatever is there when it gets the lock.
-/
namespace RdpExt.ChannelUse
open ProtocolMessage WtsChannel GuardedRuns WtsThreads

def UsesOpen (w : System) : Prop := ∀ use ∈ w.wts.uses, use.wasOpen = true

def ClosesOwn (w : System) : Prop := ∀ close ∈ w.wts.closes, close.closed = close.failed

/-- No channel is closed under a write or a read that was let through, and none is opened
    where the executor has still to close the one on which its write failed. -/
def Undisturbed (w : System) : Party → Prop
  | .transport =>
    match w.transport with
    | .installs _ =>
      w.wts.running = true → w.wts.channel = none → ∀ failed, w.executor ≠ .closing (some failed)
    | .closing _ _ => w.wts.channel ≠ none → ∀ bytes, w.executor ≠ .writes bytes
    | _ => True
  | .executor =>
    match w.executor with
    | .closing _ => w.wts.channel ≠ none → w.transport ≠ .reads
    | _ => True
  | .other => True

structure Safe (w : System) : Prop where
  usesOpen : UsesOpen w
  closesOwn : ClosesOwn w
  reading : w.transport = .reads → w.wts.channel ≠ none
  writing : ∀ bytes, w.executor = .writes bytes → w.wts.channel ≠ none
  failedRead : ∀ failed, w.transport.failed = some failed →
    ∀ current, w.wts.channel = some current → current = failed
  failedWrite : ∀ failed, w.executor.failed = some failed →
    ∀ current, w.wts.channel = some current → current = failed

theorem safe_initial : Safe {} := ⟨nofun, nofun, nofun, nofun, nofun, nofun⟩

section
variable {w w' : System}

theorem Safe.moves (h : Safe w) (uses : w'.wts.uses = w.wts.uses)
    (closes : w'.wts.closes = w.wts.closes) (channel : w'.wts.channel = w.wts.channel)
    (reads : w'.transport = .reads → w.wts.channel ≠ none)
    (writes : ∀ bytes, w'.executor = .writes bytes → w.wts.channel ≠ none)
    (failedRead : ∀ failed, w'.transport.failed = some failed → w.transport.failed = some failed)
    (failedWrite : ∀ failed, w'.executor.failed = some failed → w.executor.failed = some failed) :
    Safe w' where
  usesOpen := by
    unfold UsesOpen
    rw [uses]
    exact h.usesOpen
  closesOwn := by
    unfold ClosesOwn
    rw [closes]
    exact h.closesOwn
  reading reading := by
    rw [channel]
    exact reads reading
  writing bytes writing := by
    rw [channel]
    exact writes bytes writing
  failedRead failed reason := by
    rw [channel]
    exact h.failedRead failed (failedRead failed reason)
  failedWrite failed reason := by
    rw [channel]
    exact h.failedWrite failed (failedWrite failed reason)

/-- What `channel_` holds is open, so a use of it is one of an open channel. -/
theorem Safe.uses (h : Safe w) (sound : Sound w) (valid : w.wts.channel ≠ none) :
    ∀ use ∈ w.wts.use.uses, use.wasOpen = true := by
  intro use made
  rcases List.mem_append.mp made with old | new
  · exact h.usesOpen use old
  · obtain ⟨current, channel⟩ := Option.ne_none_iff_exists'.mp valid
    rw [List.mem_singleton.mp new, channel, Option.any_some, decide_eq_true_iff]
    exact sound.held current channel

/-- The block of `closeChannel`, of the thread that has a failure on `failed` to close for. -/
theorem Safe.closed (h : Safe w) {failed : Option ℕ}
    (own : ∀ reason, failed = some reason → ∀ current, w.wts.channel = some current → current = reason)
    (wts : w'.wts = (w.wts.closeBlock failed).1) (reading : w'.transport ≠ .reads)
    (writing : ∀ bytes, w'.executor ≠ .writes bytes) : Safe w' := by
  have channel : w'.wts.channel = none := by rw [wts]; rfl
  refine ⟨?_, ?_, fun reads => absurd reads reading, fun bytes writes => absurd writes (writing bytes),
    fun _ _ current valid => ?_, fun _ _ current valid => ?_⟩
  · unfold UsesOpen
    rw [wts]
    exact h.usesOpen
  · intro close made
    rw [wts] at made
    rcases List.mem_append.mp made with old | new
    · exact h.closesOwn close old
    · cases reason : failed with
      | none =>
        rw [reason] at new
        cases new
      | some reason' =>
        cases valid : w.wts.channel with
        | none =>
          rw [reason, valid] at new
          cases new
        | some current =>
          rw [reason, valid] at new
          rw [List.mem_singleton.mp new]
          exact own reason' reason current valid
  · exact absurd (channel.symm.trans valid) nofun
  · exact absurd (channel.symm.trans valid) nofun

end

theorem Safe.installs {w : System} (h : Safe w) (sound : Sound w) {handle : ℕ}
    (here : w.transport = .installs handle) (undisturbed : Undisturbed w .transport) :
    Safe { w with
      wts := (w.wts.install handle).1, transport := .afterInstall (w.wts.install handle).2 } := by
  have invalid : w.wts.channel = none := sound.opening (by rw [here]; rfl)
  unfold WtsTransport.install
  split_ifs with stopped valid
  · exact h.moves rfl rfl rfl nofun h.writing nofun fun _ => id
  · rw [invalid] at valid
    cases valid
  · rw [Bool.not_eq_true', Bool.not_eq_false] at stopped
    simp only [Undisturbed, here] at undisturbed
    refine ⟨h.usesOpen, h.closesOwn, nofun, fun _ _ => nofun, nofun, fun failed reason => ?_⟩
    have closing : w.executor = .closing (some failed) := by
      change w.executor.failed = some failed at reason
      unfold ExecutorPoint.failed at reason
      cases point : w.executor <;> rw [point] at reason <;> first | cases reason; rfl | cases reason
    exact absurd closing (undisturbed stopped invalid failed)

theorem safe_step (w : System) (party : Party) (w' : System) (sound : Sound w) (h : Safe w)
    (undisturbed : Undisturbed w party) (step : Step w party w') : Safe w' := by
  cases step with
  | runs here | opens here | opensNothing here | openFails here | reportsOpen here
  | handles _ here => exact h.moves rfl rfl rfl nofun h.writing nofun fun _ => id
  | outerLoop here | retries here | innerLoop here | received _ here =>
    split_ifs <;> exact h.moves rfl rfl rfl nofun h.writing nofun fun _ => id
  | tries here =>
    unfold WtsTransport.tryOpenCheck
    split_ifs <;> exact h.moves rfl rfl rfl nofun h.writing nofun fun _ => id
  | installs handle here => exact h.installs sound here undisturbed
  | readChecks here =>
    split_ifs with usable
    · exact h.moves rfl rfl rfl (fun _ => (WtsTransport.usable_iff.mp usable).2) h.writing nofun
        fun _ => id
    · exact h.moves rfl rfl rfl nofun h.writing nofun fun _ => id
  | readFails here =>
    have valid := h.reading here
    exact ⟨h.uses sound valid, h.closesOwn, nofun, h.writing,
      fun failed reason current now => Option.some_inj.mp (now.symm.trans reason), h.failedWrite⟩
  | reads bytes here fits =>
    have valid := h.reading here
    exact ⟨h.uses sound valid, h.closesOwn, nofun, h.writing, nofun, h.failedWrite⟩
  | closes failed leaves here =>
    have own := h.failedRead
    rw [here] at own
    simp only [Undisturbed, here] at undisturbed
    refine h.closed own rfl ?_ fun bytes writes => ?_
    · cases leaves <;> split_ifs <;> exact nofun
    · exact undisturbed (h.writing bytes writes) bytes writes
  | reportsClose leaves here => cases leaves <;> exact h.moves rfl rfl rfl nofun h.writing nofun fun _ => id
  | sends bytes here =>
    split_ifs with usable
    · exact h.moves rfl rfl rfl h.reading (fun _ _ => (WtsTransport.usable_iff.mp usable).2)
        (fun _ => id) nofun
    · exact h.moves rfl rfl rfl h.reading (fun _ => nofun) (fun _ => id) nofun
  | writes bytes bytesWritten here _ =>
    have valid := h.writing bytes here
    exact ⟨h.uses sound valid, h.closesOwn, h.reading, fun _ => nofun, h.failedRead, nofun⟩
  | writeFails bytes here =>
    have valid := h.writing bytes here
    exact ⟨h.uses sound valid, h.closesOwn, h.reading, fun _ => nofun, h.failedRead,
      fun failed reason current now => Option.some_inj.mp (now.symm.trans reason)⟩
  | closeRequested here | executorReports here =>
    exact h.moves rfl rfl rfl h.reading (fun _ => nofun) (fun _ => id) nofun
  | executorCloses failed here =>
    have own := h.failedWrite
    rw [here] at own
    simp only [Undisturbed, here] at undisturbed
    refine h.closed own rfl (fun reads => undisturbed (h.reading reads) reads) fun bytes => ?_
    split_ifs <;> exact nofun
  | stops => exact ⟨h.usesOpen, h.closesOwn, h.reading, h.writing, h.failedRead, h.failedWrite⟩

theorem not_usesOpen_of_closed {w : System} (wts : WtsTransport) (closed : wts.channel = none)
    (uses : w.wts.uses = wts.use.uses) : ¬ UsesOpen w := by
  intro all
  have last : ⟨none, false⟩ ∈ w.wts.uses := by
    rw [uses]
    change _ ∈ wts.uses ++ [⟨wts.channel, wts.channel.any _⟩]
    rw [closed]
    exact List.mem_append_right _ List.mem_cons_self
  exact absurd (all _ last) nofun

/-- Uses are of open channels and failures close their own in every run whose steps leave
    the other thread undisturbed. Behind another step, as behind any that has such a step
    to come, a run may go on to what is otherwise. -/
theorem uses_open_closes_own (w : System) :
    (ReachesWithin Step Undisturbed {} w → UsesOpen w ∧ ClosesOwn w) ∧
    ∀ party w', w.Reachable → ¬ Undisturbed w party → Step w party w' →
      ∃ later, Reaches Step w' later ∧ ¬ (UsesOpen later ∧ ClosesOwn later) := by
  constructor
  · intro run
    have h : Safe w := run.keeps sound_step safe_step sound_initial safe_initial
    exact ⟨h.usesOpen, h.closesOwn⟩
  · intro party w' reachable disturbed step
    have sound := reachable.sound
    cases step with
    | installs handle here =>
      simp only [Undisturbed, here] at disturbed
      push Not at disturbed
      obtain ⟨running, invalid, failed, closing⟩ := disturbed
      have older := (sound.new handle (by rw [here]; rfl)).2 failed
        (.inr (.inr (by rw [closing]; rfl)))
      have taken : w.wts.install handle =
          ({ w.wts with channel := some handle, state := .connected }, .taken) := by
        simp [WtsTransport.install, running, invalid]
      rw [taken]
      refine ⟨_, .single (.executorCloses _ (some failed) closing), fun both => ?_⟩
      have last := both.2 ⟨failed, handle⟩ (List.mem_append_right _ List.mem_cons_self)
      change handle = failed at last
      omega
    | closes failed leaves here =>
      simp only [Undisturbed, here] at disturbed
      push Not at disturbed
      obtain ⟨_, bytes, writing⟩ := disturbed
      exact ⟨_, .single (.writes _ bytes 0 writing fun _ => rfl), fun both =>
        not_usesOpen_of_closed (w.wts.closeBlock failed).1 rfl rfl both.1⟩
    | executorCloses failed here =>
      simp only [Undisturbed, here] at disturbed
      push Not at disturbed
      obtain ⟨_, reading⟩ := disturbed
      exact ⟨_, .single (.readFails _ reading), fun both =>
        not_usesOpen_of_closed (w.wts.closeBlock failed).1 rfl rfl both.1⟩
    | runs here | outerLoop here | tries here | opens here | opensNothing here | openFails here
    | reportsOpen here | retries here | innerLoop here | readChecks here | readFails here
    | reads _ here _ | received _ here | handles _ here | reportsClose _ here | sends _ here
    | writes _ _ here _ | writeFails _ here | closeRequested here | executorReports here =>
      exact absurd (by simp only [Undisturbed, here]) disturbed
    | stops => exact absurd trivial disturbed

theorem undisturbed_of_alone (w : System) (party : Party) (alone : Alone w party) :
    Undisturbed w party := by
  obtain ⟨rfl, idle⟩ := alone
  unfold Undisturbed
  rw [idle]
  cases w.transport <;> simp

theorem uses_open_closes_own_written :
    ∃ w : System, w.wts.uses = [⟨some 1, true⟩] ∧ UsesOpen w ∧ ClosesOwn w := by
  have connected := firstConnected_alone.mono undisturbed_of_alone
  have written := (connected.tail (by exact trivial) (.sends _ [1, 2] rfl)).tail
    (by exact trivial) (.writes _ [1, 2] 2 rfl nofun)
  exact ⟨_, rfl, (uses_open_closes_own _).1 written⟩

/-- A write on a channel closed behind its check, and a failed write on channel 1 that
    closes channel 2. -/
theorem wrong_channel_hit :
    (∃ w : System, w.Reachable ∧ w.wts.uses = [⟨some 1, true⟩, ⟨none, false⟩] ∧ ¬ UsesOpen w) ∧
      ∃ w : System, w.Reachable ∧ w.wts.closes = [⟨1, 1⟩, ⟨1, 2⟩] ∧ ¬ ClosesOwn w := by
  have checked : Reaches Step {} _ := firstConnected_alone.reaches.tail (.sends _ [1, 2] rfl)
  constructor
  · have closed : Reaches Step {} _ :=
      (((checked.tail (.innerLoop _ rfl)).tail (.readChecks _ rfl)).tail (.readFails _ rfl)).tail
        (.closes _ (some 1) false rfl)
    refine ⟨_, closed.tail (.writes _ [1, 2] 0 rfl fun _ => rfl), rfl, fun all => ?_⟩
    exact absurd (all ⟨none, false⟩ (List.mem_cons_of_mem _ List.mem_cons_self)) nofun
  · have failed : Reaches Step {} _ :=
      (((checked.tail (.writeFails _ [1, 2] rfl)).tail (.innerLoop _ rfl)).tail
        (.readChecks _ rfl)).tail (.readFails _ rfl)
    have closed : Reaches Step {} _ :=
      (failed.tail (.closes _ (some 1) false rfl)).tail (.reportsClose _ false rfl)
    have reopened : Reaches Step {} _ :=
      (((closed.tail (.outerLoop _ rfl)).tail (.tries _ rfl)).tail (.opens _ rfl)).tail
        (.installs _ 2 rfl)
    refine ⟨_, reopened.tail (.executorCloses _ (some 1) rfl), rfl, fun all => ?_⟩
    exact absurd (all ⟨1, 2⟩ (List.mem_cons_of_mem _ List.mem_cons_self)) nofun

end RdpExt.ChannelUse
