import RdpExt.HandshakeParties

set_option autoImplicit false

/-!
# Counting Hellos

Two counts decide a handshake: how many Hellos of the peer's present instance a
side has heard, and how many are on their way to it.
-/
namespace RdpExt.HandshakeBalance
open ProtocolMessage LogicStates SessionSystem HandshakeParties

/-- How many Hellos of the current instance of `X` its peer `Y` has heard, up to two. -/
def told (X Y : Party) : ℕ := Y.handshake.heard X.own

/-- How many of them are still on their way. -/
def coming (X Y : Party) : ℕ := Y.inbox.count (some X.own)

theorem told_le_two (X Y : Party) : told X Y ≤ 2 := Y.handshake.heard_le_two X.own

theorem coming_receives {policy : Policy} {X Y : Party} (live : policy.live Y.up = true)
    (answers : Prop) [Decidable answers] (n : ℕ) :
    coming X (Y.receives policy ((if answers then [some X.own] else []) ++ List.replicate n none)) =
      coming X Y + if answers then 1 else 0 := by
  unfold coming Party.receives
  rw [carries_live live]
  split_ifs <;> simp [List.count_replicate]

theorem coming_quiet (policy : Policy) (X Y : Party) (n : ℕ) :
    coming X (Y.receives policy (List.replicate n none)) = coming X Y := by
  unfold coming Party.receives Policy.carries
  split_ifs <;> simp [List.count_replicate]

theorem coming_passed {X Y : Party} {rest : List Token}
    (head : X.inbox = rest ∨ X.inbox = none :: rest) :
    coming Y { X with inbox := rest } = coming Y X := by
  obtain rfl | behind := head
  · rfl
  · simp [coming, behind]

/-- A Hello that `X` takes from its inbox is counted once, wherever it stands. -/
theorem told_coming_heard {X Y : Party} {id : InstanceId} {rest : List Token}
    (head : X.inbox = some id :: rest)
    (settled : X.handshake.remoteInstanceId = some Y.own → ∀ t ∈ X.inbox, Current Y t) :
    let X' : Party := { X with
      handshake := (X.handshake.remoteHelloReceived id).localHelloSent, inbox := rest }
    (id = Y.own ∧ told Y X' = min 2 (told Y X + 1) ∧ coming Y X = coming Y X' + 1) ∨
      (id ≠ Y.own ∧ told Y X = 0 ∧ told Y X' = 0 ∧ coming Y X = coming Y X') := by
  intro X'
  have hc : coming Y X = coming Y X' + if id = Y.own then 1 else 0 := by
    change X.inbox.count (some Y.own) = rest.count (some Y.own) + _
    rw [head, List.count_cons]
    simp
  by_cases same : id = Y.own
  · refine .inl ⟨same, ?_, by simpa [same] using hc⟩
    change (X.handshake.remoteHelloReceived id).heard Y.own = _
    rw [same, HandshakeState.heard_remoteHelloReceived]
    rfl
  · refine .inr ⟨same, ?_, ?_, by simpa [same] using hc⟩
    · refine (X.handshake.heard_eq_zero_iff Y.own).mpr fun stored => same ?_
      exact settled stored (some id) (by rw [head]; exact List.mem_cons_self) id rfl
    · exact X.handshake.heard_remoteHelloReceived_ne same

/-- Each of the first two Hellos a side heard from the present instance of the
    other was answered, and one of the two sides spoke unasked. -/
structure Converging (X Y : Party) : Prop where
  answered : told Y X ≤ told X Y + coming X Y
  asked : told X Y ≤ told Y X + coming Y X
  opened : min 2 (1 + told Y X) ≤ told X Y + coming X Y ∨
    min 2 (1 + told X Y) ≤ told Y X + coming Y X

theorem Converging.symm {X Y : Party} (h : Converging X Y) : Converging Y X :=
  ⟨h.asked, h.answered, h.opened.symm⟩

/-- No half-open pair: with nothing under way both sides have heard both Hellos. -/
theorem Converging.completed {X Y : Party} (h : Converging X Y) (mine : X.inbox = [])
    (theirs : Y.inbox = []) : told X Y = 2 ∧ told Y X = 2 := by
  have hx : coming X Y = 0 := by simp [coming, theirs]
  have hy : coming Y X = 0 := by simp [coming, mine]
  have bx := told_le_two X Y
  have b_y := told_le_two Y X
  obtain ⟨answered, asked, opened⟩ := h
  rw [hx] at answered opened
  rw [hy] at asked opened
  omega

theorem told_fresh {policy : Policy} {X Y : Party} {drawn : InstanceId}
    (stored : ∀ id, Y.handshake.remoteInstanceId = some id → id ∈ X.ids policy)
    (unreserved : drawn ∉ policy.reserved) (fresh : drawn ∉ X.drawn) :
    Y.handshake.heard drawn = 0 := by
  refine (Y.handshake.heard_eq_zero_iff drawn).mpr fun same => ?_
  exact fresh_not_mem unreserved fresh (stored drawn same)

theorem converging_acts {policy : Policy} {X Y X' Y' : Party} (act : Acts policy X Y X' Y')
    (out : Sends policy X Y) (back : Sends policy Y X)
    (h : X.up = true → Y.up = true → Converging X Y) :
    X'.up = true → Y'.up = true → Converging X' Y' := by
  cases act with
  | connected drawn mine theirs unreserved fresh keepsMine keepsTheirs =>
    -- A fresh instance: nobody has heard it, and it has heard nobody.
    intro _ upY
    change Y.up = true at upY
    have hx : told ⟨drawn, X.handshake.reset.localHelloSent, true, drawn :: X.drawn, mine⟩
        (Party.receives policy { Y with inbox := theirs } [some drawn]) = 0 :=
      told_fresh out.stored unreserved fresh
    have hy : told (Party.receives policy { Y with inbox := theirs } [some drawn])
        ⟨drawn, X.handshake.reset.localHelloSent, true, drawn :: X.drawn, mine⟩ = 0 := by
      simp [told]
    have hc : 1 ≤ coming ⟨drawn, X.handshake.reset.localHelloSent, true, drawn :: X.drawn, mine⟩
        (Party.receives policy { Y with inbox := theirs } [some drawn]) := by
      simp [coming, Party.receives, Policy.carries, upY]
    refine ⟨by omega, by omega, .inl ?_⟩
    rw [hx, hy]
    omega
  | disconnected mine theirs keepsMine keepsTheirs =>
    intro upX
    cases upX
  | heard id rest n head =>
    intro upX upY
    obtain ⟨answered, asked, opened⟩ := h upX upY
    have live : policy.live Y.up = true := by
      rw [show Y.up = true from upY]
      exact live_up policy
    let X' : Party := { X with
      handshake := (X.handshake.remoteHelloReceived id).localHelloSent, inbox := rest }
    let Y' : Party := Y.receives policy
      ((if X.handshake.heard id < 2 then [some X.own] else []) ++ List.replicate n none)
    have sent : coming X' Y' = coming X Y + if X.handshake.heard id < 2 then 1 else 0 :=
      coming_receives live _ n
    have toldX : told X' Y' = told X Y := rfl
    have toldY : told Y' X' = told Y X' := rfl
    have comingY : coming Y' X' = coming Y X' := rfl
    have bound := told_le_two Y X
    have bound' := told_le_two X Y
    change Converging X' Y'
    obtain ⟨same, told', coming'⟩ | ⟨_, told0, told', coming'⟩ :=
      told_coming_heard head back.settled
    · have heard : X.handshake.heard id = told Y X := by rw [same]; rfl
      rw [heard] at sent
      change told Y X' = _ at told'
      change _ = coming Y X' + 1 at coming'
      split_ifs at sent <;> exact ⟨by omega, by omega, by omega⟩
    · change told Y X' = _ at told'
      change _ = coming Y X' at coming'
      have grown : coming X Y ≤ coming X' Y' := by omega
      exact ⟨by omega, by omega, by omega⟩
  | quiet rest n head =>
    intro upX upY
    obtain ⟨answered, asked, opened⟩ := h upX upY
    have mine : coming Y { X with inbox := rest } = coming Y X := coming_passed head
    have theirs := coming_quiet policy X Y n
    refine ⟨?_, ?_, ?_⟩
    · change told Y X ≤ told X Y + coming X (Y.receives policy (List.replicate n none))
      rw [theirs]
      exact answered
    · change told X Y ≤ told Y X + coming Y { X with inbox := rest }
      rw [mine]
      exact asked
    · change min 2 (1 + told Y X) ≤ told X Y + coming X (Y.receives policy (List.replicate n none)) ∨
        min 2 (1 + told X Y) ≤ told Y X + coming Y { X with inbox := rest }
      rw [mine, theirs]
      exact opened

/-- With channels that every transport event empties, only Hellos of the present
    instances are in flight, and a side that has heard nothing of its peer's has
    sent at most the one Hello of its connect. -/
structure Exclusive (X Y : Party) : Prop where
  pure : ∀ t ∈ Y.inbox, Current X t
  prompted : X.up = true → Y.up = true → told Y X = 0 → told X Y + coming X Y ≤ 1
  idle : X.up = false → X.handshake.isCompleted = false

theorem exclusive_acts {X Y X' Y' : Party} (act : Acts .perConnection X Y X' Y')
    (out : Sends .perConnection X Y) (back : Sends .perConnection Y X)
    (h : Exclusive X Y) (h' : Exclusive Y X) : Exclusive X' Y' ∧ Exclusive Y' X' := by
  cases act with
  | connected drawn mine theirs unreserved fresh keepsMine keepsTheirs =>
    obtain rfl : mine = [] := keepsMine
    obtain rfl : theirs = [] := keepsTheirs
    have hx : Y.handshake.heard drawn = 0 := told_fresh out.stored unreserved fresh
    have one : (Policy.carries .perConnection Y.up [some drawn]).count (some drawn) ≤ 1 := by
      unfold Policy.carries
      split_ifs <;> simp
    refine ⟨⟨?_, ?_, fun up => (by cases up)⟩, ⟨?_, ?_, h'.idle⟩⟩
    · intro t ht
      rw [List.mem_singleton.mp (mem_carries ht)]
      exact current_own _
    · intro _ _ _
      change Y.handshake.heard drawn +
        (Policy.carries .perConnection Y.up [some drawn]).count (some drawn) ≤ 1
      omega
    · intro t ht
      cases ht
    · intro _ _ _
      simp [told, coming]
  | disconnected mine theirs keepsMine keepsTheirs =>
    obtain rfl : mine = [] := keepsMine
    obtain rfl : theirs = [] := keepsTheirs
    refine ⟨⟨?_, fun up => (by cases up), fun _ => rfl⟩, ⟨?_, fun _ up => (by cases up), h'.idle⟩⟩
    · intro t ht
      cases ht
    · intro t ht
      cases ht
  | heard id rest n head =>
    have upX : X.up = true := out.live (by rw [head]; exact List.cons_ne_nil _ _)
    have same : id = Y.own := h'.pure (some id) (by rw [head]; exact List.mem_cons_self) id rfl
    let X' : Party := { X with
      handshake := (X.handshake.remoteHelloReceived id).localHelloSent, inbox := rest }
    obtain ⟨_, told', coming'⟩ | ⟨other, _⟩ := told_coming_heard head back.settled
    · change told Y X' = _ at told'
      change _ = coming Y X' + 1 at coming'
      refine ⟨⟨?_, ?_, ?_⟩, ⟨?_, ?_, h'.idle⟩⟩
      · intro t ht
        obtain ht | ht := List.mem_append.mp ht
        · exact h.pure t ht
        · obtain ht | ht := List.mem_append.mp (mem_carries ht)
          · split_ifs at ht
            · rw [List.mem_singleton.mp ht]
              exact current_own _
            · cases ht
          · rw [List.eq_of_mem_replicate ht]
            exact current_none _
      · intro _ _ unheard
        change told Y X' = 0 at unheard
        omega
      · intro down
        exact absurd upX (by simp [show X.up = false from down])
      · intro t ht
        exact h'.pure t (by rw [head]; exact List.mem_cons_of_mem _ ht)
      · intro upY _ unheard
        change told X Y = 0 at unheard
        change told Y X' + coming Y X' ≤ 1
        have := h'.prompted upY upX unheard
        omega
    · exact absurd same other
  | quiet rest n head =>
    have shrunk := sublist_of_quiet head
    have mine : coming Y { X with inbox := rest } = coming Y X := coming_passed head
    refine ⟨⟨?_, ?_, h.idle⟩, ⟨?_, ?_, h'.idle⟩⟩
    · intro t ht
      obtain ht | ht := List.mem_append.mp ht
      · exact h.pure t ht
      · rw [List.eq_of_mem_replicate (mem_carries ht)]
        exact current_none _
    · intro upX upY unheard
      change told X Y + coming X (Y.receives .perConnection (List.replicate n none)) ≤ 1
      rw [coming_quiet]
      exact h.prompted upX upY unheard
    · intro t ht
      exact h'.pure t (shrunk.subset ht)
    · intro upY upX unheard
      change told Y X + coming Y { X with inbox := rest } ≤ 1
      rw [mine]
      exact h'.prompted upY upX unheard

/-- A second Hello of the peer's present instance is an answer to one's own. -/
theorem Exclusive.agreement {X Y : Party} (h : Exclusive X Y) (h' : Exclusive Y X)
    (completed : X.handshake.isCompleted = true)
    (stored : X.handshake.remoteInstanceId = some Y.own) (upY : Y.up = true) :
    Y.handshake.remoteInstanceId = some X.own := by
  have upX : X.up = true := by
    cases hx : X.up with
    | true => rfl
    | false => exact absurd (h.idle hx) (by simp [completed])
  have both : told Y X = 2 := (X.handshake.heard_eq_two_iff Y.own).mpr ⟨stored, completed⟩
  by_contra unheard
  have none : told X Y = 0 := (Y.handshake.heard_eq_zero_iff X.own).mpr unheard
  have := h'.prompted upY upX none
  omega

end RdpExt.HandshakeBalance
