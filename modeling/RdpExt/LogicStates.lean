import RdpExt.ProtocolMessage

set_option autoImplicit false

/-!
# The handshake record

`states.h`. What a machine will do with the next Hello depends only on how often
it has heard the id it carries, counted up to two; `heard` is that count, and the
lemmas below give each operation through it.
-/
namespace RdpExt.LogicStates
open ProtocolMessage

inductive ConnectionState where
  | disconnected
  | awaitingHandshake
  | active
  | closed
  deriving DecidableEq, Repr

structure HandshakeState where
  remoteInstanceId : Option InstanceId := none
  localHelloNeeded : Bool := true
  handshakeCompleted : Bool := false
  deriving DecidableEq, Repr

namespace HandshakeState

def isCompleted (h : HandshakeState) : Bool := h.handshakeCompleted

def isLocalHelloNeeded (h : HandshakeState) : Bool := h.localHelloNeeded

def reset (_h : HandshakeState) : HandshakeState :=
  { handshakeCompleted := false, localHelloNeeded := true, remoteInstanceId := none }

def localHelloSent (h : HandshakeState) : HandshakeState := { h with localHelloNeeded := false }

def remoteHelloReceived (h : HandshakeState) (remoteInstanceId : InstanceId) : HandshakeState :=
  if h.remoteInstanceId = some remoteInstanceId then
    { localHelloNeeded := !h.handshakeCompleted
      handshakeCompleted := true
      remoteInstanceId := some remoteInstanceId }
  else
    { localHelloNeeded := true
      handshakeCompleted := false
      remoteInstanceId := some remoteInstanceId }

/-- How many Hellos of `id` the record stands for: two means two or more. -/
def heard (h : HandshakeState) (id : InstanceId) : ℕ :=
  if h.remoteInstanceId = some id then (if h.handshakeCompleted then 2 else 1) else 0

theorem heard_le_two (h : HandshakeState) (id : InstanceId) : h.heard id ≤ 2 := by
  unfold heard
  split_ifs <;> omega

theorem heard_eq_zero_iff (h : HandshakeState) (id : InstanceId) :
    h.heard id = 0 ↔ h.remoteInstanceId ≠ some id := by
  unfold heard
  split_ifs <;> simp_all

theorem heard_eq_two_iff (h : HandshakeState) (id : InstanceId) :
    h.heard id = 2 ↔ h.remoteInstanceId = some id ∧ h.handshakeCompleted = true := by
  unfold heard
  split_ifs <;> simp_all

@[simp] theorem heard_reset (h : HandshakeState) (id : InstanceId) : h.reset.heard id = 0 := by
  simp [heard, reset]

@[simp] theorem heard_localHelloSent (h : HandshakeState) (id : InstanceId) :
    h.localHelloSent.heard id = h.heard id := rfl

@[simp] theorem isCompleted_localHelloSent (h : HandshakeState) :
    h.localHelloSent.isCompleted = h.isCompleted := rfl

@[simp] theorem isCompleted_reset (h : HandshakeState) : h.reset.isCompleted = false := rfl

@[simp] theorem remoteInstanceId_localHelloSent (h : HandshakeState) :
    h.localHelloSent.remoteInstanceId = h.remoteInstanceId := rfl

@[simp] theorem remoteInstanceId_remoteHelloReceived (h : HandshakeState) (id : InstanceId) :
    (h.remoteHelloReceived id).remoteInstanceId = some id := by
  unfold remoteHelloReceived
  split_ifs <;> rfl

theorem isCompleted_remoteHelloReceived (h : HandshakeState) (id : InstanceId) :
    (h.remoteHelloReceived id).isCompleted = true ↔ 1 ≤ h.heard id := by
  unfold remoteHelloReceived isCompleted heard
  by_cases same : h.remoteInstanceId = some id
  · cases completed : h.handshakeCompleted <;> simp [same]
  · simp [same]

theorem isLocalHelloNeeded_remoteHelloReceived (h : HandshakeState) (id : InstanceId) :
    (h.remoteHelloReceived id).isLocalHelloNeeded = true ↔ h.heard id < 2 := by
  unfold remoteHelloReceived isLocalHelloNeeded heard
  by_cases same : h.remoteInstanceId = some id
  · cases completed : h.handshakeCompleted <;> simp [same]
  · simp [same]

theorem heard_remoteHelloReceived (h : HandshakeState) (id : InstanceId) :
    (h.remoteHelloReceived id).heard id = min 2 (h.heard id + 1) := by
  unfold remoteHelloReceived heard
  by_cases same : h.remoteInstanceId = some id
  · cases completed : h.handshakeCompleted <;> simp [same]
  · simp [same]

/-- From the third Hello of an id on, none is owed for it. -/
theorem localHelloSent_remoteHelloReceived (h : HandshakeState) (id : InstanceId)
    (hk : h.heard id = 2) :
    (h.remoteHelloReceived id).localHelloSent = h.remoteHelloReceived id := by
  obtain ⟨same, completed⟩ := (h.heard_eq_two_iff id).mp hk
  simp [remoteHelloReceived, localHelloSent, same, completed]

/-- A Hello is the first of its id, the second, which completes and is answered still, or
    a later one, which is not answered and leaves nothing owed. -/
theorem remoteHelloReceived_cases (h : HandshakeState) (id : InstanceId) :
    (h.heard id = 0 ∧ (h.remoteHelloReceived id).isLocalHelloNeeded = true ∧
      (h.remoteHelloReceived id).isCompleted = false) ∨
    (h.heard id = 1 ∧ (h.remoteHelloReceived id).isLocalHelloNeeded = true ∧
      (h.remoteHelloReceived id).isCompleted = true) ∨
    (h.heard id = 2 ∧ (h.remoteHelloReceived id).isLocalHelloNeeded = false ∧
      (h.remoteHelloReceived id).isCompleted = true ∧
      (h.remoteHelloReceived id).localHelloSent = h.remoteHelloReceived id) := by
  have completed := h.isCompleted_remoteHelloReceived id
  have needed := h.isLocalHelloNeeded_remoteHelloReceived id
  have bound := h.heard_le_two id
  obtain first | second | later : h.heard id = 0 ∨ h.heard id = 1 ∨ h.heard id = 2 := by omega
  · exact .inl ⟨first, needed.mpr (by omega), by simpa [first] using completed⟩
  · exact .inr (.inl ⟨second, needed.mpr (by omega), completed.mpr (by omega)⟩)
  · exact .inr (.inr ⟨later, by simpa [later] using needed, completed.mpr (by omega),
      h.localHelloSent_remoteHelloReceived id later⟩)

theorem heard_remoteHelloReceived_ne (h : HandshakeState) {id other : InstanceId} (hne : id ≠ other) :
    (h.remoteHelloReceived id).heard other = 0 := by
  rw [heard_eq_zero_iff, remoteInstanceId_remoteHelloReceived]
  simpa using hne

end HandshakeState

end RdpExt.LogicStates
