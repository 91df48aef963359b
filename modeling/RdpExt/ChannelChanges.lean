import RdpExt.WtsThreads

set_option autoImplicit false

/-!
# What a step of either thread does to the channel

It changes the channel and owes a report, makes the report, or does neither.
-/
namespace RdpExt.WtsThreads
open WtsChannel

/-- The change of the channel that the thread has made and not reported. -/
def TransportPoint.unreported : TransportPoint → Option HandlerCall
  | .reportsOpen => some .connected
  | .reportsClose _ => some .disconnected
  | _ => none

def ExecutorPoint.unreported : ExecutorPoint → Option HandlerCall
  | .reportsClose => some .disconnected
  | _ => none

namespace System

def unreported (w : System) : Party → Option HandlerCall
  | .transport => w.transport.unreported
  | .executor => w.executor.unreported
  | .other => none

def isOpen (w : System) : Bool := w.wts.channel.isSome

/-- The party's next step opens or closes the channel. -/
def changes (w : System) : Party → Bool
  | .transport =>
    match w.transport with
    | .installs _ => w.wts.running && !w.isOpen
    | .closing _ _ => w.isOpen
    | _ => false
  | .executor =>
    match w.executor with
    | .closing _ => w.isOpen
    | _ => false
  | .other => false

end System

/-- All that a step does to the channel and to the calls. -/
inductive Effect (w : System) (party : Party) (w' : System) : Prop where
  | quiet (stays : w.changes party = false) (calls : w'.wts.calls = w.wts.calls)
      (isOpen : w'.isOpen = w.isOpen) (before : w.unreported party = none)
      (after : w'.unreported party = none)
  | changes (changes : w.changes party = true) (calls : w'.wts.calls = w.wts.calls)
      (isOpen : w'.isOpen = !w.isOpen) (before : w.unreported party = none)
      (after : w'.unreported party = some (if w'.isOpen then .connected else .disconnected))
  | reports (call : HandlerCall) (stays : w.changes party = false)
      (calls : w'.wts.calls = w.wts.calls ++ [call]) (isOpen : w'.isOpen = w.isOpen)
      (before : w.unreported party = some call) (after : w'.unreported party = none)

theorem Step.others {w w' : System} {party bystander : Party} (step : Step w party w')
    (different : bystander ≠ party) : w'.unreported bystander = w.unreported bystander := by
  cases step <;> cases bystander <;> first | rfl | exact absurd rfl different

theorem Sound.install_effect {w : System} (sound : Sound w) {handle : ℕ}
    (here : w.transport = .installs handle) :
    Effect w .transport
      { w with
        wts := (w.wts.install handle).1, transport := .afterInstall (w.wts.install handle).2 } := by
  have invalid : w.wts.channel = none := sound.opening (by rw [here]; rfl)
  have before : w.unreported .transport = none := by
    unfold System.unreported
    rw [here]
    rfl
  have changes : w.changes .transport = w.wts.running := by
    simp [System.changes, here, System.isOpen, invalid]
  unfold WtsTransport.install
  split_ifs with stopped valid
  · exact .quiet (by simpa [changes] using stopped) rfl rfl before rfl
  · rw [invalid] at valid
    cases valid
  · refine .changes (by simpa [changes] using stopped) rfl ?_ before rfl
    simp [System.isOpen, invalid]

theorem Sound.was_connected {w : System} (sound : Sound w) (failed : Option ℕ) :
    (w.wts.closeBlock failed).2 = w.isOpen := by
  have connected := sound.connected
  rw [← Option.isSome_iff_ne_none] at connected
  change (w.wts.state == .connected) = w.wts.channel.isSome
  rw [Bool.eq_iff_iff, beq_iff_eq]
  exact connected

theorem Sound.transport_closes {w : System} (sound : Sound w) {failed : Option ℕ} {leaves : Bool}
    (here : w.transport = .closing failed leaves) :
    Effect w .transport
      { w with
        wts := (w.wts.closeBlock failed).1
        transport :=
          if (w.wts.closeBlock failed).2 then .reportsClose leaves else .afterClose leaves } := by
  have before : w.unreported .transport = none := by
    simp only [System.unreported, here, TransportPoint.unreported]
  have changes : w.changes .transport = w.isOpen := by simp only [System.changes, here]
  rw [sound.was_connected]
  cases valid : w.isOpen with
  | true => exact .changes (changes.trans valid) rfl (by rw [valid]; rfl) before rfl
  | false =>
    refine .quiet (changes.trans valid) rfl (by rw [valid]; rfl) before ?_
    cases leaves <;> rfl

theorem Sound.executor_closes {w : System} (sound : Sound w) {failed : Option ℕ}
    (here : w.executor = .closing failed) :
    Effect w .executor
      { w with
        wts := (w.wts.closeBlock failed).1
        executor := if (w.wts.closeBlock failed).2 then .reportsClose else .idle } := by
  have before : w.unreported .executor = none := by
    simp only [System.unreported, here, ExecutorPoint.unreported]
  have changes : w.changes .executor = w.isOpen := by simp only [System.changes, here]
  rw [sound.was_connected]
  cases valid : w.isOpen with
  | true => exact .changes (changes.trans valid) rfl (by rw [valid]; rfl) before rfl
  | false => exact .quiet (changes.trans valid) rfl (by rw [valid]; rfl) before rfl

theorem Sound.effect {w w' : System} {party : Party} (sound : Sound w) (step : Step w party w') :
    Effect w party w' := by
  cases step with
  | runs here | opens here | opensNothing here | openFails here | readFails here | reads _ here _
  | handles _ here =>
    exact .quiet (by simp only [System.changes, here]) rfl rfl
      (by simp only [System.unreported, here, TransportPoint.unreported]) rfl
  | outerLoop here | retries here | innerLoop here | readChecks here | received _ here =>
    refine .quiet (by simp only [System.changes, here]) rfl rfl
      (by simp only [System.unreported, here, TransportPoint.unreported]) ?_
    simp only [System.unreported]
    split_ifs <;> rfl
  | tries here =>
    have before : w.unreported .transport = none := by
      simp only [System.unreported, here, TransportPoint.unreported]
    have stays : w.changes .transport = false := by simp only [System.changes, here]
    unfold WtsTransport.tryOpenCheck
    split_ifs <;> exact .quiet stays rfl rfl before rfl
  | installs handle here => exact sound.install_effect here
  | reportsOpen here =>
    exact .reports .connected (by simp only [System.changes, here]) rfl rfl
      (by simp only [System.unreported, here, TransportPoint.unreported]) rfl
  | closes failed leaves here => exact sound.transport_closes here
  | reportsClose leaves here =>
    refine .reports .disconnected (by simp only [System.changes, here]) rfl rfl
      (by simp only [System.unreported, here, TransportPoint.unreported]) ?_
    cases leaves <;> rfl
  | sends bytes here =>
    refine .quiet (by simp only [System.changes, here]) rfl rfl
      (by simp only [System.unreported, here, ExecutorPoint.unreported]) ?_
    simp only [System.unreported]
    split_ifs <;> rfl
  | writes _ _ here _ | writeFails _ here | closeRequested here =>
    exact .quiet (by simp only [System.changes, here]) rfl rfl
      (by simp only [System.unreported, here, ExecutorPoint.unreported]) rfl
  | executorCloses failed here => exact sound.executor_closes here
  | executorReports here =>
    exact .reports .disconnected (by simp only [System.changes, here]) rfl rfl
      (by simp only [System.unreported, here, ExecutorPoint.unreported]) rfl
  | stops => exact .quiet rfl rfl rfl rfl rfl

end RdpExt.WtsThreads
