import RdpExt.SessionSystem

set_option autoImplicit false

/-!
# The handshake seen from either side

Client and server treat Hellos alike, so the exchange is stated once for a party
`X` that acts and its peer `Y`: of the messages only the ids of Hellos are kept.
Every fact about a pair is proved for both orders at once.
-/
namespace RdpExt.HandshakeParties
open ProtocolMessage LogicStates SessionSystem

/-- A Hello by its id; `none` is any other message. -/
abbrev Token := Option InstanceId

structure Party where
  own : InstanceId
  handshake : HandshakeState
  up : Bool
  drawn : List InstanceId
  inbox : List Token

def Party.receives (policy : Policy) (Y : Party) (sent : List Token) : Party :=
  { Y with inbox := Y.inbox ++ policy.carries Y.up sent }

/-- `X` acts on its own account or on the head of its inbox, and what it sends is
    queued for `Y`. Messages that are no Hello appear as `none`s. -/
inductive Acts (policy : Policy) (X Y : Party) : Party → Party → Prop where
  | connected (drawn : InstanceId) (mine theirs : List Token)
      (unreserved : drawn ∉ policy.reserved) (fresh : drawn ∉ X.drawn)
      (keepsMine : policy.Keeps X.inbox mine) (keepsTheirs : policy.Keeps Y.inbox theirs) :
      Acts policy X Y
        { own := drawn, handshake := X.handshake.reset.localHelloSent, up := true
          drawn := drawn :: X.drawn, inbox := mine }
        (Party.receives policy { Y with inbox := theirs } [some drawn])
  | disconnected (mine theirs : List Token)
      (keepsMine : policy.Keeps X.inbox mine) (keepsTheirs : policy.Keeps Y.inbox theirs) :
      Acts policy X Y { X with handshake := X.handshake.reset, up := false, inbox := mine }
        { Y with inbox := theirs }
  | heard (id : InstanceId) (rest : List Token) (n : ℕ) (head : X.inbox = some id :: rest) :
      Acts policy X Y
        { X with
          handshake := (X.handshake.remoteHelloReceived id).localHelloSent, inbox := rest }
        (Y.receives policy
          ((if X.handshake.heard id < 2 then [some X.own] else []) ++ List.replicate n none))
  | quiet (rest : List Token) (n : ℕ) (head : X.inbox = rest ∨ X.inbox = none :: rest) :
      Acts policy X Y { X with inbox := rest } (Y.receives policy (List.replicate n none))

theorem sublist_of_quiet {inbox rest : List Token} (head : inbox = rest ∨ inbox = none :: rest) :
    rest.Sublist inbox := by
  obtain rfl | rfl := head
  · exact List.Sublist.refl _
  · exact List.sublist_cons_self _ _

theorem keeps_sublist {policy : Policy} {α : Type} {before after : List α}
    (h : policy.Keeps before after) : after.Sublist before := by
  cases policy with
  | lossy => exact h
  | perConnection =>
    change after = [] at h
    rw [h]
    exact List.nil_sublist _

theorem keeps_dead {policy : Policy} {α : Type} {before after : List α} {up : Bool}
    (h : policy.Keeps before after) (dead : policy.live up = false) : after = [] := by
  cases policy with
  | lossy => cases dead
  | perConnection => exact h

@[simp] theorem live_up (policy : Policy) : policy.live true = true := by
  cases policy <;> rfl

theorem carries_live {policy : Policy} {α : Type} {up : Bool} (h : policy.live up = true)
    (sent : List α) : policy.carries up sent = sent := by
  simp only [Policy.carries, h, ↓reduceIte]

theorem carries_dead {policy : Policy} {α : Type} {up : Bool} (h : policy.live up = false)
    (sent : List α) : policy.carries up sent = [] := by
  simp only [Policy.carries, h, Bool.false_eq_true, ↓reduceIte]

theorem mem_carries {policy : Policy} {α : Type} {up : Bool} {sent : List α} {a : α}
    (h : a ∈ policy.carries up sent) : a ∈ sent := by
  unfold Policy.carries at h
  split_ifs at h
  · exact h
  · cases h

/-- Every id the peers of `X` can have seen it use. -/
def Party.ids (policy : Policy) (X : Party) : List InstanceId := policy.reserved ++ X.drawn

/-- Only the instance `X` now is, or no Hello at all. -/
def Current (X : Party) (t : Token) : Prop := ∀ id, t = some id → id = X.own

/-- What has reached `Y`, or is on its way to it, of the Hellos of `X`: they carry
    ids of `X`, and behind one of the current instance there are no older ones. -/
structure Sends (policy : Policy) (X Y : Party) : Prop where
  own : policy.live X.up = true → X.own ∈ X.ids policy
  live : X.inbox ≠ [] → policy.live X.up = true
  sent : ∀ id, some id ∈ Y.inbox → id ∈ X.ids policy
  stored : ∀ id, Y.handshake.remoteInstanceId = some id → id ∈ X.ids policy
  ordered : Y.inbox.Pairwise (fun a b => a = some X.own → Current X b)
  settled : Y.handshake.remoteInstanceId = some X.own → ∀ t ∈ Y.inbox, Current X t

theorem fresh_not_mem {policy : Policy} {X : Party} {drawn : InstanceId}
    (unreserved : drawn ∉ policy.reserved) (fresh : drawn ∉ X.drawn) : drawn ∉ X.ids policy := by
  simp only [Party.ids, List.mem_append, not_or]
  exact ⟨unreserved, fresh⟩

theorem current_none (X : Party) : Current X none := by
  intro id h
  cases h

theorem current_own (X : Party) : Current X (some X.own) := by
  intro id h
  exact (Option.some.inj h).symm

/-- The Hello of a new instance goes behind everything sent before. -/
theorem Sends.connected {policy : Policy} {X Y : Party} (h : Sends policy X Y)
    (drawn : InstanceId) (mine theirs : List Token) (unreserved : drawn ∉ policy.reserved)
    (fresh : drawn ∉ X.drawn) (keepsTheirs : policy.Keeps Y.inbox theirs) :
    Sends policy
      { own := drawn, handshake := X.handshake.reset.localHelloSent, up := true
        drawn := drawn :: X.drawn, inbox := mine }
      (Party.receives policy { Y with inbox := theirs } [some drawn]) := by
  have unknown := fresh_not_mem unreserved fresh
  have older : ∀ id, some id ∈ theirs → id ∈ X.ids policy := fun id hid =>
    h.sent id ((keeps_sublist keepsTheirs).subset hid)
  have notIn : some drawn ∉ theirs := fun hid => unknown (older drawn hid)
  refine ⟨fun _ => by simp [Party.ids], fun _ => live_up policy, ?_, ?_, ?_, ?_⟩
  · intro id hid
    obtain hid | hid := List.mem_append.mp hid
    · have := older id hid
      simp only [Party.ids, List.mem_append, List.mem_cons] at this ⊢
      tauto
    · have := mem_carries hid
      simp only [List.mem_singleton, Option.some.injEq] at this
      simp [Party.ids, this]
  · intro id hid
    have := h.stored id hid
    simp only [Party.ids, List.mem_append, List.mem_cons] at this ⊢
    tauto
  · refine List.pairwise_append.mpr ⟨?_, ?_, ?_⟩
    · exact List.Pairwise.imp_of_mem
        (fun ha _ _ heq => absurd (heq ▸ ha) notIn)
        (List.Pairwise.sublist (keeps_sublist keepsTheirs) h.ordered)
    · unfold Policy.carries
      split_ifs <;> simp
    · intro a ha b hb _
      have := mem_carries hb
      simp only [List.mem_singleton] at this
      rw [this]
      exact current_own _
  · intro hstored
    exact absurd (h.stored drawn hstored) unknown

/-- The peer loses messages, or forgets whom it heard. -/
theorem Sends.of_receiver {policy : Policy} {X Y : Party} (h : Sends policy X Y) (Y' : Party)
    (inbox : Y'.inbox.Sublist Y.inbox)
    (stored : Y'.handshake.remoteInstanceId = none ∨
      Y'.handshake.remoteInstanceId = Y.handshake.remoteInstanceId) : Sends policy X Y' := by
  have kept : ∀ id, Y'.handshake.remoteInstanceId = some id →
      Y.handshake.remoteInstanceId = some id := by
    intro id hid
    obtain none | same := stored
    · rw [none] at hid
      cases hid
    · rwa [← same]
  exact ⟨h.own, h.live, fun id hid => h.sent id (inbox.subset hid),
    fun id hid => h.stored id (kept id hid), List.Pairwise.sublist inbox h.ordered,
    fun hid t ht => h.settled (kept _ hid) t (inbox.subset ht)⟩

theorem Sends.heard {policy : Policy} {X Y : Party} (h : Sends policy X Y) (Y' : Party)
    {id : InstanceId}
    (head : Y.inbox = some id :: Y'.inbox) (stored : Y'.handshake.remoteInstanceId = some id) :
    Sends policy X Y' := by
  have ordered := h.ordered
  rw [head, List.pairwise_cons] at ordered
  refine ⟨h.own, h.live, ?_, ?_, ordered.2, ?_⟩
  · intro other hother
    exact h.sent other (by rw [head]; exact List.mem_cons_of_mem _ hother)
  · intro other hother
    rw [stored, Option.some.injEq] at hother
    subst other
    exact h.sent id (by rw [head]; exact List.mem_cons_self)
  · intro same t ht
    rw [stored] at same
    exact ordered.1 t ht same

theorem Sends.of_sender {policy : Policy} {X X' Y : Party} (h : Sends policy X Y)
    (own : X'.own = X.own) (drawn : X'.drawn = X.drawn)
    (up : policy.live X'.up = true → policy.live X.up = true)
    (live : X'.inbox ≠ [] → policy.live X'.up = true) : Sends policy X' Y := by
  have ids : X'.ids policy = X.ids policy := by simp only [Party.ids, drawn]
  refine ⟨fun hl => ?_, live, fun id hid => ?_, fun id hid => ?_, ?_, ?_⟩
  · rw [ids, own]
    exact h.own (up hl)
  · rw [ids]
    exact h.sent id hid
  · rw [ids]
    exact h.stored id hid
  · simpa only [Current, own] using h.ordered
  · simpa only [Current, own] using h.settled

/-- What a side sends between its transport events is of its current instance. -/
theorem Sends.receives {policy : Policy} {X Y : Party} (h : Sends policy X Y) {tokens : List Token}
    (current : ∀ t ∈ tokens, Current X t) (own : some X.own ∈ tokens → policy.live X.up = true) :
    Sends policy X (Y.receives policy tokens) := by
  refine ⟨h.own, h.live, ?_, h.stored, ?_, ?_⟩
  · intro id hid
    obtain hid | hid := List.mem_append.mp hid
    · exact h.sent id hid
    · have hmem := mem_carries hid
      have same := current _ hmem id rfl
      subst same
      exact h.own (own hmem)
  · refine List.pairwise_append.mpr ⟨h.ordered, ?_, ?_⟩
    · exact List.pairwise_of_forall_mem_list (fun _ _ b hb _ => current b (mem_carries hb))
    · intro a _ b hb _
      exact current b (mem_carries hb)
  · intro hstored t ht
    obtain ht | ht := List.mem_append.mp ht
    · exact h.settled hstored t ht
    · exact current t (mem_carries ht)

theorem receives_live {policy : Policy} {Y : Party} (h : Y.inbox ≠ [] → policy.live Y.up = true)
    (tokens : List Token) :
    (Y.receives policy tokens).inbox ≠ [] → policy.live Y.up = true := by
  intro nonempty
  cases hl : policy.live Y.up with
  | true => rfl
  | false =>
    simp only [Party.receives, carries_dead hl, List.append_nil] at nonempty
    exact absurd (h nonempty) (by simp [hl])

theorem keeps_live {policy : Policy} {α : Type} {before after : List α} {up : Bool}
    (h : policy.Keeps before after) (nonempty : after ≠ []) : policy.live up = true := by
  cases hl : policy.live up with
  | true => rfl
  | false => exact absurd (keeps_dead h hl) nonempty

theorem live_false {policy : Policy} {up : Bool} (h : policy.live false = true) :
    policy.live up = true := by
  cases policy with
  | lossy => rfl
  | perConnection => cases h

/-- Both directions survive every action of either side. -/
theorem sends_acts {policy : Policy} {X Y X' Y' : Party} (act : Acts policy X Y X' Y')
    (out : Sends policy X Y) (back : Sends policy Y X) :
    Sends policy X' Y' ∧ Sends policy Y' X' := by
  cases act with
  | connected drawn mine theirs unreserved fresh keepsMine keepsTheirs =>
    refine ⟨out.connected drawn mine theirs unreserved fresh keepsTheirs, ?_⟩
    have kept := back.of_receiver
      ⟨drawn, X.handshake.reset.localHelloSent, true, drawn :: X.drawn, mine⟩
      (keeps_sublist keepsMine) (.inl rfl)
    exact kept.of_sender rfl rfl id (receives_live (fun h => keeps_live keepsTheirs h) _)
  | disconnected mine theirs keepsMine keepsTheirs =>
    constructor
    · have kept := out.of_receiver { Y with inbox := theirs }
        (keeps_sublist keepsTheirs) (.inr rfl)
      exact kept.of_sender rfl rfl live_false (fun h => keeps_live keepsMine h)
    · have kept := back.of_receiver
        { X with handshake := X.handshake.reset, up := false, inbox := mine }
        (keeps_sublist keepsMine) (.inl rfl)
      exact kept.of_sender rfl rfl id (fun h => keeps_live keepsTheirs h)
  | heard id rest n head =>
    have live : policy.live X.up = true := out.live (by rw [head]; exact List.cons_ne_nil _ _)
    constructor
    · have sender : Sends policy
          { X with
            handshake := (X.handshake.remoteHelloReceived id).localHelloSent, inbox := rest } Y :=
        out.of_sender rfl rfl (fun h => h) (fun _ => live)
      refine sender.receives ?_ (fun _ => live)
      intro t ht
      obtain ht | ht := List.mem_append.mp ht
      · split_ifs at ht
        · rw [List.mem_singleton.mp ht]
          exact current_own _
        · cases ht
      · rw [List.eq_of_mem_replicate ht]
        exact current_none _
    · have receiver := back.heard
        { X with
          handshake := (X.handshake.remoteHelloReceived id).localHelloSent, inbox := rest }
        head (by simp)
      exact receiver.of_sender rfl rfl (fun h => h) (receives_live back.live _)
  | quiet rest n head =>
    have shrunk := sublist_of_quiet head
    have live : rest ≠ [] → policy.live X.up = true := by
      intro nonempty
      apply out.live
      intro empty
      rw [empty, List.sublist_nil] at shrunk
      exact nonempty shrunk
    constructor
    · have sender : Sends policy { X with inbox := rest } Y :=
        out.of_sender rfl rfl (fun h => h) live
      apply sender.receives
      · intro t ht
        rw [List.eq_of_mem_replicate ht]
        exact current_none _
      · intro h
        cases List.eq_of_mem_replicate h
    · have kept := back.of_receiver { X with inbox := rest } shrunk (.inr rfl)
      exact kept.of_sender rfl rfl (fun h => h) (receives_live back.live _)

end RdpExt.HandshakeParties
