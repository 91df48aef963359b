import Mathlib.Tactic.Common
import Mathlib.Logic.Relation

set_option autoImplicit false

/-!
# A machine behind one task queue

Inputs arrive as tasks; a task lets the machine react and handles its effects one
by one, and an effect may post a further task that carries out an output. Inputs
arrive between any two of these steps. The loop is judged by its future: the state
it will reach and the outputs it will carry out once it has run dry.
-/
namespace RdpExt.DeferredOutput

/-- What handling one effect comes to: a task that carries out an output, something
    done at once, or an exception that ends the task. -/
inductive Handling (β : Type) where
  | posts (output : β)
  | direct
  | mayThrow
  | throws

/-- An input that does not decode makes its task throw before the machine sees it. -/
structure Wiring (κ σ ε ω β : Type) where
  decode : κ → Option ε
  react : σ → ε → σ × List ω
  handle : ω → Handling β

inductive Task (κ β : Type) where
  | input (arrived : κ)
  | output (output : β)

/-- `effects`: what the running task has yet to handle. -/
structure Loop (κ σ ω β : Type) where
  machine : σ
  effects : List ω := []
  queue : List (Task κ β) := []

variable {κ σ ε ω β : Type}

def Loop.arrive (l : Loop κ σ ω β) (k : κ) : Loop κ σ ω β :=
  { l with queue := l.queue ++ [.input k] }

/-- One step of the executor, with the output it carries out, if any. -/
inductive Exec (w : Wiring κ σ ε ω β) : Loop κ σ ω β → Option β → Loop κ σ ω β → Prop where
  | input (l : Loop κ σ ω β) (k : κ) (rest : List (Task κ β)) (event : ε) (idle : l.effects = [])
      (head : l.queue = .input k :: rest) (decoded : w.decode k = some event) :
      Exec w l none
        { machine := (w.react l.machine event).1
          effects := (w.react l.machine event).2, queue := rest }
  | rejected (l : Loop κ σ ω β) (k : κ) (rest : List (Task κ β)) (idle : l.effects = [])
      (head : l.queue = .input k :: rest) (decoded : w.decode k = none) :
      Exec w l none { l with queue := rest }
  | output (l : Loop κ σ ω β) (b : β) (rest : List (Task κ β)) (idle : l.effects = [])
      (head : l.queue = .output b :: rest) : Exec w l (some b) { l with queue := rest }
  | posted (l : Loop κ σ ω β) (x : ω) (xs : List ω) (b : β) (head : l.effects = x :: xs)
      (handled : w.handle x = .posts b) :
      Exec w l none { l with effects := xs, queue := l.queue ++ [.output b] }
  | performed (l : Loop κ σ ω β) (x : ω) (xs : List ω) (head : l.effects = x :: xs)
      (handled : w.handle x = .direct ∨ w.handle x = .mayThrow) :
      Exec w l none { l with effects := xs }
  | thrown (l : Loop κ σ ω β) (x : ω) (xs : List ω) (head : l.effects = x :: xs)
      (handled : w.handle x = .throws ∨ w.handle x = .mayThrow) :
      Exec w l none { l with effects := [] }

def Task.input? : Task κ β → Option κ
  | .input k => some k
  | .output _ => none

def Task.output? : Task κ β → Option β
  | .input _ => none
  | .output b => some b

def inputs (queue : List (Task κ β)) : List κ := queue.filterMap Task.input?

@[simp] theorem inputs_append_output (queue : List (Task κ β)) (b : β) :
    inputs (queue ++ [.output b]) = inputs queue := by
  rw [inputs, List.filterMap_append]
  exact List.append_nil _

def outputs (queue : List (Task κ β)) : List β := queue.filterMap Task.output?

@[simp] theorem outputs_nil : outputs ([] : List (Task κ β)) = [] := rfl

@[simp] theorem outputs_input (k : κ) (queue : List (Task κ β)) :
    outputs (.input k :: queue) = outputs queue := rfl

@[simp] theorem outputs_output (b : β) (queue : List (Task κ β)) :
    outputs (.output b :: queue) = b :: outputs queue := rfl

@[simp] theorem outputs_append (xs ys : List (Task κ β)) :
    outputs (xs ++ ys) = outputs xs ++ outputs ys := List.filterMap_append

namespace Wiring

def posts? (w : Wiring κ σ ε ω β) (x : ω) : Option β :=
  match w.handle x with
  | .posts b => some b
  | _ => none

def posts (w : Wiring κ σ ε ω β) (effects : List ω) : List β := effects.filterMap w.posts?

/-- The machine alone: the state after the events and all their effects. -/
def run (w : Wiring κ σ ε ω β) : σ → List ε → σ × List ω
  | s, [] => (s, [])
  | s, event :: events =>
    ((w.run (w.react s event).1 events).1,
      (w.react s event).2 ++ (w.run (w.react s event).1 events).2)

theorem run_append (w : Wiring κ σ ε ω β) (s : σ) (xs ys : List ε) :
    w.run s (xs ++ ys) =
      ((w.run (w.run s xs).1 ys).1, (w.run s xs).2 ++ (w.run (w.run s xs).1 ys).2) := by
  induction xs generalizing s with
  | nil => rfl
  | cons event xs ih => simp only [List.cons_append, run, ih, List.append_assoc]

theorem posts_append (w : Wiring κ σ ε ω β) (xs ys : List ω) :
    w.posts (xs ++ ys) = w.posts xs ++ w.posts ys := List.filterMap_append

theorem posts_cons_of_posts (w : Wiring κ σ ε ω β) {x : ω} {b : β} (handled : w.handle x = .posts b)
    (xs : List ω) : w.posts (x :: xs) = b :: w.posts xs := by
  simp [posts, posts?, handled]

theorem posts_cons_of_quiet (w : Wiring κ σ ε ω β) {x : ω} (quiet : ∀ b, w.handle x ≠ .posts b)
    (xs : List ω) : w.posts (x :: xs) = w.posts xs := by
  unfold posts posts?
  cases handled : w.handle x with
  | posts b => exact absurd handled (quiet b)
  | _ => simp [handled]

def events (w : Wiring κ σ ε ω β) (queue : List (Task κ β)) : List ε :=
  (inputs queue).filterMap w.decode

@[simp] theorem events_nil (w : Wiring κ σ ε ω β) : w.events ([] : List (Task κ β)) = [] := rfl

theorem events_input (w : Wiring κ σ ε ω β) (k : κ) (queue : List (Task κ β)) :
    w.events (.input k :: queue) = (w.decode k).toList ++ w.events queue := by
  cases decoded : w.decode k <;> simp [events, inputs, Task.input?, decoded]

@[simp] theorem events_output (w : Wiring κ σ ε ω β) (b : β) (queue : List (Task κ β)) :
    w.events (.output b :: queue) = w.events queue := rfl

theorem events_append (w : Wiring κ σ ε ω β) (xs ys : List (Task κ β)) :
    w.events (xs ++ ys) = w.events xs ++ w.events ys := by
  simp only [events, inputs, List.filterMap_append]

/-- What the loop comes to once it has run dry, if no more inputs arrive. -/
def future (w : Wiring κ σ ε ω β) (l : Loop κ σ ω β) : σ × List β :=
  ((w.run l.machine (w.events l.queue)).1,
    outputs l.queue ++ w.posts l.effects ++
      w.posts (w.run l.machine (w.events l.queue)).2)

/-- Behind an effect that may throw, no output is left to post. -/
def AbortsLast (w : Wiring κ σ ε ω β) : List ω → Prop
  | [] => True
  | x :: xs =>
    ((w.handle x = .throws ∨ w.handle x = .mayThrow) → w.posts xs = []) ∧ w.AbortsLast xs

def Careful (w : Wiring κ σ ε ω β) : Prop := ∀ s event, w.AbortsLast (w.react s event).2

theorem future_arrive (w : Wiring κ σ ε ω β) (l : Loop κ σ ω β) (k : κ) :
    w.future (l.arrive k) =
      match w.decode k with
      | none => w.future l
      | some event => ((w.react (w.future l).1 event).1,
          (w.future l).2 ++ w.posts (w.react (w.future l).1 event).2) := by
  unfold future Loop.arrive
  rw [events_append, events_input, run_append]
  cases decoded : w.decode k with
  | none => simp [run]
  | some event => simp [run, posts_append, List.append_assoc]

theorem exec_abortsLast {w : Wiring κ σ ε ω β} (careful : w.Careful) {l l' : Loop κ σ ω β}
    {out : Option β} (exec : Exec w l out l') (safe : w.AbortsLast l.effects) :
    w.AbortsLast l'.effects := by
  cases exec with
  | input k rest event => exact careful l.machine event
  | rejected | output => exact safe
  | posted x xs b head | performed x xs head =>
    rw [head] at safe
    exact safe.2
  | thrown => trivial

/-- A step of the executor carries out the first of the outputs to come, or none; it
    may lose some only where it throws in front of them. -/
theorem exec_future {w : Wiring κ σ ε ω β} {l l' : Loop κ σ ω β} {out : Option β}
    (exec : Exec w l out l') :
    (w.future l').1 = (w.future l).1 ∧
      (out.toList ++ (w.future l').2).Sublist (w.future l).2 ∧
      (w.AbortsLast l.effects → (w.future l).2 = out.toList ++ (w.future l').2) := by
  have kept : (w.future l').1 = (w.future l).1 →
      (w.future l).2 = out.toList ++ (w.future l').2 → (w.future l').1 = (w.future l).1 ∧
      (out.toList ++ (w.future l').2).Sublist (w.future l).2 ∧
      (w.AbortsLast l.effects → (w.future l).2 = out.toList ++ (w.future l').2) := by
    intro state outputs
    exact ⟨state, outputs ▸ List.Sublist.refl _, fun _ => outputs⟩
  cases exec with
  | input k rest event idle head decoded =>
    have waiting : w.events l.queue = event :: w.events rest := by
      rw [head, events_input, decoded]
      rfl
    apply kept
    · simp only [future, waiting, run]
    · unfold future
      rw [waiting, head, idle, run, posts_append]
      simp [posts]
  | rejected k rest idle head decoded =>
    have waiting : w.events l.queue = w.events rest := by
      rw [head, events_input, decoded]
      rfl
    apply kept
    · simp only [future, waiting]
    · unfold future
      rw [waiting, head]
      simp
  | output b rest idle head =>
    have waiting : w.events l.queue = w.events rest := by
      rw [head, events_output]
    apply kept
    · simp only [future, waiting]
    · unfold future
      rw [waiting, head]
      simp
  | posted x xs b head handled =>
    have waiting : w.events (l.queue ++ [.output b]) = w.events l.queue := by
      simp [events_append]
    apply kept
    · simp only [future, waiting]
    · unfold future
      rw [waiting, head, w.posts_cons_of_posts handled]
      simp
  | performed x xs head handled =>
    have quiet : ∀ b, w.handle x ≠ .posts b := by
      intro b posted
      rcases handled with handled | handled <;> cases posted.symm.trans handled
    apply kept rfl
    unfold future
    rw [head, w.posts_cons_of_quiet quiet]
    rfl
  | thrown x xs head handled =>
    have quiet : ∀ b, w.handle x ≠ .posts b := by
      intro b posted
      rcases handled with handled | handled <;> cases posted.symm.trans handled
    have before : (w.future l).2 = outputs l.queue ++ w.posts xs ++
        w.posts (w.run l.machine (w.events l.queue)).2 := by
      unfold future
      rw [head, w.posts_cons_of_quiet quiet]
    refine ⟨rfl, ?_, fun safe => ?_⟩
    · rw [before]
      change (outputs l.queue ++ w.posts [] ++ _).Sublist _
      exact ((List.nil_sublist _).append_left _).append_right _
    · rw [head] at safe
      rw [before, safe.1 handled]
      rfl

def Silent (w : Wiring κ σ ε ω β) : Loop κ σ ω β → Loop κ σ ω β → Prop :=
  Relation.ReflTransGen fun l l' => Exec w l none l'

theorem Silent.future {w : Wiring κ σ ε ω β} (careful : w.Careful) {l l' : Loop κ σ ω β}
    (silent : w.Silent l l') (safe : w.AbortsLast l.effects) :
    w.AbortsLast l'.effects ∧ (w.future l').2 = (w.future l).2 := by
  induction silent with
  | refl => exact ⟨safe, rfl⟩
  | tail _ exec ih =>
    have kept := (w.exec_future exec).2.2 ih.1
    exact ⟨w.exec_abortsLast careful exec ih.1, kept.symm.trans ih.2⟩

/-- The running task comes to its end, and takes no further input. -/
theorem finishes (w : Wiring κ σ ε ω β) (l : Loop κ σ ω β) :
    ∃ queue, w.Silent l { l with effects := [], queue := queue } ∧ inputs queue = inputs l.queue := by
  obtain ⟨machine, effects, queue⟩ := l
  induction effects generalizing queue with
  | nil => exact ⟨queue, .refl, rfl⟩
  | cons x xs ih =>
    cases handled : w.handle x with
    | posts b =>
      obtain ⟨queue', silent, same⟩ := ih (queue ++ [.output b])
      exact ⟨queue', .head (.posted _ x xs b rfl handled) silent,
        same.trans (inputs_append_output queue b)⟩
    | direct =>
      obtain ⟨queue', silent, same⟩ := ih queue
      exact ⟨queue', .head (.performed _ x xs rfl (.inl handled)) silent, same⟩
    | mayThrow =>
      obtain ⟨queue', silent, same⟩ := ih queue
      exact ⟨queue', .head (.performed _ x xs rfl (.inr handled)) silent, same⟩
    | throws => exact ⟨queue, .single (.thrown _ x xs rfl (.inl handled)), rfl⟩

/-- The executor is never stuck: while outputs are to come, it gets to one of them. -/
theorem reaches_output {w : Wiring κ σ ε ω β} (careful : w.Careful) (l : Loop κ σ ω β)
    (safe : w.AbortsLast l.effects) (awaited : (w.future l).2 ≠ []) :
    ∃ l₁ b l₂, w.Silent l l₁ ∧ Exec w l₁ (some b) l₂ ∧ b ∈ (w.future l).2 := by
  -- By the number of inputs that wait: each pass takes one, or gets to an output.
  induction waiting : (inputs l.queue).length using Nat.strongRecOn generalizing l with
  | _ n ih =>
    obtain ⟨queue, silent, same⟩ := w.finishes l
    obtain ⟨safe', outputs⟩ := silent.future careful safe
    rw [← outputs] at awaited ⊢
    match queue with
    | [] => exact absurd rfl awaited
    | .output b :: rest =>
      have exec : Exec w { l with effects := [], queue := .output b :: rest } (some b) _ :=
        .output _ b rest rfl rfl
      exact ⟨_, b, _, silent, exec, (w.exec_future exec).2.1.subset List.mem_cons_self⟩
    | .input k :: rest =>
      have taken : ∃ l', Exec w { l with effects := [], queue := .input k :: rest } none l' ∧
          l'.queue = rest := by
        cases decoded : w.decode k with
        | none => exact ⟨_, .rejected _ k rest rfl rfl decoded, rfl⟩
        | some event => exact ⟨_, .input _ k rest event rfl rfl decoded, rfl⟩
      obtain ⟨l', exec, rest'⟩ := taken
      have fewer : (inputs l'.queue).length < n := by
        rw [← waiting, ← same, rest']
        exact Nat.lt_succ_self _
      have kept := (w.exec_future exec).2.2 safe'
      change _ = (w.future l').2 at kept
      rw [kept] at awaited ⊢
      obtain ⟨l₁, b, l₂, onward, carried, member⟩ :=
        ih _ fewer l' (w.exec_abortsLast careful exec safe') awaited rfl
      exact ⟨l₁, b, l₂, (silent.tail exec).trans onward, carried, member⟩

/-- How many steps the executor has before it has run dry, if no more inputs arrive; an
    exception can only spare it some. -/
def work (w : Wiring κ σ ε ω β) (l : Loop κ σ ω β) : ℕ :=
  l.effects.length + l.queue.length + (w.posts l.effects).length +
    (w.run l.machine (w.events l.queue)).2.length +
    (w.posts (w.run l.machine (w.events l.queue)).2).length

theorem exec_work {w : Wiring κ σ ε ω β} {l l' : Loop κ σ ω β} {out : Option β}
    (exec : Exec w l out l') : w.work l' < w.work l := by
  unfold work
  cases exec with
  | input k rest event idle head decoded =>
    have waiting : w.events l.queue = event :: w.events rest := by
      rw [head, events_input, decoded]
      rfl
    rw [waiting, head, idle, run, posts_append]
    simp only [List.length_append, List.length_cons, List.length_nil]
    omega
  | rejected k rest idle head decoded =>
    have waiting : w.events l.queue = w.events rest := by
      rw [head, events_input, decoded]
      rfl
    rw [waiting, head]
    simp only [List.length_cons]
    omega
  | output b rest idle head =>
    rw [head, events_output]
    simp only [List.length_cons]
    omega
  | posted x xs b head handled =>
    have waiting : w.events (l.queue ++ [.output b]) = w.events l.queue := by
      simp [events_append]
    rw [waiting, head, w.posts_cons_of_posts handled]
    simp only [List.length_append, List.length_cons, List.length_nil]
    omega
  | performed x xs head handled =>
    have quiet : ∀ b, w.handle x ≠ .posts b := by
      intro b posted
      rcases handled with handled | handled <;> cases posted.symm.trans handled
    rw [head, w.posts_cons_of_quiet quiet]
    simp only [List.length_cons]
    omega
  | thrown x xs head handled =>
    have none : w.posts ([] : List ω) = [] := rfl
    rw [head, none]
    simp only [List.length_cons, List.length_nil]
    omega

theorem exec_moves {w : Wiring κ σ ε ω β} {l l' : Loop κ σ ω β} {out : Option β}
    (exec : Exec w l out l') : l' ≠ l := by
  intro same
  have less := exec_work exec
  rw [same] at less
  exact Nat.lt_irrefl _ less

/-- The executor's next step, an effect that may throw taken not to. -/
def next (w : Wiring κ σ ε ω β) (l : Loop κ σ ω β) : Option (Option β × Loop κ σ ω β) :=
  match l.effects, l.queue with
  | x :: xs, queue =>
    match w.handle x with
    | .posts b => some (none, { l with effects := xs, queue := queue ++ [.output b] })
    | .direct | .mayThrow => some (none, { l with effects := xs })
    | .throws => some (none, { l with effects := [] })
  | [], .output b :: rest => some (some b, { l with queue := rest })
  | [], .input k :: rest =>
    match w.decode k with
    | some event =>
      some (none, { machine := (w.react l.machine event).1
                    effects := (w.react l.machine event).2, queue := rest })
    | none => some (none, { l with queue := rest })
  | [], [] => none

/-- Each event that waits will find the machine in a state that is right for it. -/
def Foreseen (w : Wiring κ σ ε ω β) (Right : σ → ε → Prop) (l : Loop κ σ ω β) : Prop :=
  ∀ before event later, w.events l.queue = before ++ event :: later →
    Right (w.run l.machine before).1 event

theorem Foreseen.taken {w : Wiring κ σ ε ω β} {Right : σ → ε → Prop} {l : Loop κ σ ω β}
    (h : w.Foreseen Right l) {k : κ} {rest : List (Task κ β)} {event : ε}
    (head : l.queue = .input k :: rest) (decoded : w.decode k = some event) :
    Right l.machine event := by
  apply h [] event (w.events rest)
  rw [head, events_input, decoded]
  rfl

theorem Foreseen.exec {w : Wiring κ σ ε ω β} {Right : σ → ε → Prop} {l l' : Loop κ σ ω β}
    {out : Option β} (h : w.Foreseen Right l) (exec : Exec w l out l') : w.Foreseen Right l' := by
  intro before event later waiting
  cases exec with
  | input k rest first idle head decoded =>
    change w.events rest = _ at waiting
    apply h (first :: before) event later
    rw [head, events_input, decoded, waiting]
    rfl
  | rejected k rest idle head decoded =>
    apply h before event later
    rw [head, events_input, decoded]
    exact waiting
  | output b rest idle head =>
    apply h before event later
    rw [head, events_output]
    exact waiting
  | posted x xs b head handled =>
    apply h before event later
    rw [← waiting]
    simp [events_append]
  | performed x xs head handled | thrown x xs head handled => exact h before event later waiting

/-- It is enough to look at an event when it arrives. -/
theorem Foreseen.arrive {w : Wiring κ σ ε ω β} {Right : σ → ε → Prop} {l : Loop κ σ ω β}
    (h : w.Foreseen Right l) (k : κ)
    (right : ∀ event, w.decode k = some event → Right (w.future l).1 event) :
    w.Foreseen Right (l.arrive k) := by
  intro before event later waiting
  unfold Loop.arrive at waiting ⊢
  simp only [events_append, events_input, events_nil, List.append_nil] at waiting ⊢
  cases decoded : w.decode k with
  | none =>
    rw [decoded, Option.toList_none, List.append_nil] at waiting
    exact h before event later waiting
  | some last =>
    rw [decoded, Option.toList_some] at waiting
    rcases List.eq_nil_or_concat later with rfl | ⟨later', x, rfl⟩
    · obtain ⟨rfl, same⟩ := List.append_inj' waiting rfl
      cases same
      exact right event decoded
    · rw [List.concat_eq_append, ← List.cons_append, ← List.append_assoc] at waiting
      exact h before event later' (List.append_inj' waiting rfl).1

/-- The outputs that the executor owes for what it has taken up so far. -/
def pending (w : Wiring κ σ ε ω β) (l : Loop κ σ ω β) : List β :=
  outputs l.queue ++ w.posts l.effects

/-- The event that the next step hands to the machine, if it is one that does. -/
def takes (w : Wiring κ σ ε ω β) (l : Loop κ σ ω β) : Option ε :=
  match l.effects, l.queue with
  | [], .input k :: _ => w.decode k
  | _, _ => none

/-- What the machine calls for in the next step. -/
def reacts (w : Wiring κ σ ε ω β) (l : Loop κ σ ω β) : List ω :=
  (w.takes l).elim [] fun event => (w.react l.machine event).2

theorem takes_busy (w : Wiring κ σ ε ω β) {l : Loop κ σ ω β} {x : ω} {xs : List ω}
    (busy : l.effects = x :: xs) : w.takes l = none := by
  unfold takes
  rw [busy]

theorem takes_input (w : Wiring κ σ ε ω β) {l : Loop κ σ ω β} {k : κ} {rest : List (Task κ β)}
    (idle : l.effects = []) (head : l.queue = .input k :: rest) : w.takes l = w.decode k := by
  unfold takes
  rw [idle, head]

theorem takes_output (w : Wiring κ σ ε ω β) {l : Loop κ σ ω β} {b : β} {rest : List (Task κ β)}
    (head : l.queue = .output b :: rest) : w.takes l = none := by
  unfold takes
  rw [head]
  cases l.effects <;> rfl

theorem reacts_of_none (w : Wiring κ σ ε ω β) {l : Loop κ σ ω β} (nothing : w.takes l = none) :
    w.reacts l = [] := by
  unfold reacts
  rw [nothing]
  rfl

theorem takes_mem (w : Wiring κ σ ε ω β) {l : Loop κ σ ω β} {event : ε}
    (taken : w.takes l = some event) : event ∈ w.events l.queue := by
  unfold takes at taken
  split at taken
  · rename_i k rest idle head
    rw [head, events_input, taken]
    exact List.mem_cons_self
  · cases taken

theorem mem_events_arrive {w : Wiring κ σ ε ω β} {l : Loop κ σ ω β} {k : κ} {event : ε}
    (waits : event ∈ w.events (l.arrive k).queue) :
    event ∈ w.events l.queue ∨ w.decode k = some event := by
  unfold Loop.arrive at waits
  rw [w.events_append, w.events_input, w.events_nil, List.append_nil] at waits
  exact (List.mem_append.mp waits).imp_right Option.mem_toList.mp

/-- Every step deals with the first event that waits, or with none. -/
theorem exec_takes {w : Wiring κ σ ε ω β} {l l' : Loop κ σ ω β} {out : Option β}
    (exec : Exec w l out l') : w.events l.queue = (w.takes l).toList ++ w.events l'.queue := by
  cases exec with
  | input k rest event idle head | rejected k rest idle head =>
    rw [w.takes_input idle head, head, events_input]
  | output b rest idle head =>
    rw [w.takes_output head, head, events_output]
    rfl
  | posted x xs b head =>
    rw [w.takes_busy head, events_append]
    exact (List.append_nil _).symm
  | performed x xs head | thrown x xs head =>
    rw [w.takes_busy head]
    rfl

theorem exec_waits {w : Wiring κ σ ε ω β} {l l' : Loop κ σ ω β} {out : Option β}
    (exec : Exec w l out l') {event : ε} (waits : event ∈ w.events l'.queue) :
    event ∈ w.events l.queue := by
  rw [exec_takes exec]
  exact List.mem_append_right _ waits

theorem exec_machine {w : Wiring κ σ ε ω β} {l l' : Loop κ σ ω β} {out : Option β}
    (exec : Exec w l out l') :
    l'.machine = (w.takes l).elim l.machine fun event => (w.react l.machine event).1 := by
  cases exec with
  | input k rest event idle head decoded =>
    rw [w.takes_input idle head, decoded]
    rfl
  | rejected k rest idle head decoded =>
    rw [w.takes_input idle head, decoded]
    rfl
  | output b rest idle head =>
    rw [w.takes_output head]
    rfl
  | posted x xs b head | performed x xs head | thrown x xs head =>
    rw [w.takes_busy head]
    rfl

/-- What the machine calls for joins the outputs owed, and the first of them is carried out. -/
theorem exec_pending {w : Wiring κ σ ε ω β} {l l' : Loop κ σ ω β} {out : Option β}
    (exec : Exec w l out l') (safe : w.AbortsLast l.effects) :
    w.pending l ++ w.posts (w.reacts l) = out.toList ++ w.pending l' := by
  unfold pending
  cases exec with
  | input k rest event idle head decoded =>
    have reaction : w.reacts l = (w.react l.machine event).2 := by
      unfold reacts
      rw [w.takes_input idle head, decoded]
      rfl
    rw [reaction, idle, head, outputs_input]
    exact congrArg (· ++ _) (List.append_nil _)
  | rejected k rest idle head decoded =>
    rw [w.reacts_of_none ((w.takes_input idle head).trans decoded), head, outputs_input]
    exact List.append_nil _
  | output b rest idle head =>
    rw [w.reacts_of_none (w.takes_output head), head, outputs_output]
    exact List.append_nil _
  | posted x xs b head handled =>
    rw [w.reacts_of_none (w.takes_busy head), head, w.posts_cons_of_posts handled, outputs_append]
    exact (List.append_nil _).trans (List.append_cons _ _ _)
  | performed x xs head handled =>
    have quiet : ∀ b, w.handle x ≠ .posts b := by
      intro b posted
      rcases handled with handled | handled <;> cases posted.symm.trans handled
    rw [w.reacts_of_none (w.takes_busy head), head, w.posts_cons_of_quiet quiet]
    exact List.append_nil _
  | thrown x xs head handled =>
    have quiet : ∀ b, w.handle x ≠ .posts b := by
      intro b posted
      rcases handled with handled | handled <;> cases posted.symm.trans handled
    rw [head] at safe
    rw [w.reacts_of_none (w.takes_busy head), head, w.posts_cons_of_quiet quiet, safe.1 handled]
    exact List.append_nil _

end Wiring

/-- The loop with all that has arrived and all that was carried out. -/
structure Record (κ σ ω β : Type) where
  loop : Loop κ σ ω β
  arrived : List κ := []
  done : List β := []

inductive Record.Step (w : Wiring κ σ ε ω β) : Record κ σ ω β → Record κ σ ω β → Prop where
  | arrive (r : Record κ σ ω β) (k : κ) :
      Record.Step w r { r with loop := r.loop.arrive k, arrived := r.arrived ++ [k] }
  | exec (r : Record κ σ ω β) (out : Option β) (loop' : Loop κ σ ω β)
      (exec : Exec w r.loop out loop') :
      Record.Step w r { r with loop := loop', done := r.done ++ out.toList }

def Record.Reachable (w : Wiring κ σ ε ω β) (start : σ) (r : Record κ σ ω β) : Prop :=
  Relation.ReflTransGen (Record.Step w) { loop := { machine := start } } r

/-- At any moment, what is done and what is to come add up to what the machine alone
    makes of the inputs that decode. -/
theorem Record.Reachable.accounted {w : Wiring κ σ ε ω β} (careful : w.Careful) {start : σ}
    {r : Record κ σ ω β} (h : Record.Reachable w start r) :
    w.AbortsLast r.loop.effects ∧
      (w.future r.loop).1 = (w.run start (r.arrived.filterMap w.decode)).1 ∧
      r.done ++ (w.future r.loop).2 = w.posts (w.run start (r.arrived.filterMap w.decode)).2 := by
  induction h with
  | refl => exact ⟨trivial, rfl, rfl⟩
  | tail _ step ih =>
    obtain ⟨safe, state, outputs⟩ := ih
    cases step with
    | arrive k =>
      refine ⟨safe, ?_, ?_⟩
      · rw [w.future_arrive, List.filterMap_append, w.run_append, ← state]
        cases decoded : w.decode k <;> simp [decoded, Wiring.run]
      · rw [w.future_arrive, List.filterMap_append, w.run_append, ← state, w.posts_append,
          ← outputs]
        cases decoded : w.decode k <;> simp [decoded, Wiring.run, Wiring.posts]
    | exec out loop' exec =>
      obtain ⟨state', _, outputs'⟩ := w.exec_future exec
      refine ⟨w.exec_abortsLast careful exec safe, state'.trans state, ?_⟩
      rw [List.append_assoc, ← outputs' safe]
      exact outputs

/-- Once the queue is drained nothing is lost, repeated or out of order. -/
theorem Record.Reachable.drained {w : Wiring κ σ ε ω β} (careful : w.Careful) {start : σ}
    {r : Record κ σ ω β} (h : Record.Reachable w start r) (idle : r.loop.effects = [])
    (empty : r.loop.queue = []) :
    r.loop.machine = (w.run start (r.arrived.filterMap w.decode)).1 ∧
      r.done = w.posts (w.run start (r.arrived.filterMap w.decode)).2 := by
  obtain ⟨_, state, outputs⟩ := h.accounted careful
  have nothing : w.future r.loop = (r.loop.machine, []) := by
    simp [Wiring.future, Wiring.run, Wiring.posts, idle, empty]
  rw [nothing] at state outputs
  exact ⟨state, by simpa using outputs⟩

end RdpExt.DeferredOutput
