import Mathlib.Tactic.Common
import Mathlib.Algebra.Ring.Nat

set_option autoImplicit false

/-!
# Wire formats that compose

A format is a writer and a reader of one kind of value together with the two
laws that tie them: the reader takes back exactly what was written, and what it
takes is what would have been written. Fields, fixed-width words, counted bytes
and tagged alternatives carry their laws once, so an assembled format has them
without a proof of its own.
-/
namespace RdpExt.WireFormat

inductive ReadFault where
  | shortInput
  | badIndex
  deriving DecidableEq, Repr

abbrev Reader (α : Type) := List UInt8 → Except ReadFault (α × List UInt8)

theorem bind_ok {ε α β : Type} {x : Except ε α} {f : α → Except ε β} {b : β} :
    x >>= f = .ok b ↔ ∃ a, x = .ok a ∧ f a = .ok b := by
  cases x with
  | error e => constructor
               · intro h; cases h
               · rintro ⟨a, h, _⟩; cases h
  | ok a => constructor
            · intro h; exact ⟨a, rfl, h⟩
            · rintro ⟨_, h, hf⟩; cases h; exact hf

/-- `fits` bounds the values whose written form is faithful. -/
structure Wire (α : Type) where
  fits : α → Prop
  write : α → List UInt8
  read : Reader α
  read_write : ∀ a rest, fits a → read (write a ++ rest) = .ok (a, rest)
  read_sound : ∀ bytes a rest, read bytes = .ok (a, rest) →
    fits a ∧ bytes = write a ++ rest

def littleEndian : ℕ → ℕ → List UInt8
  | 0, _ => []
  | width + 1, n => n.toUInt8 :: littleEndian width (n / 256)

def littleEndianValue : List UInt8 → ℕ
  | [] => 0
  | b :: bytes => b.toNat + 256 * littleEndianValue bytes

@[simp] theorem littleEndian_length (width n : ℕ) : (littleEndian width n).length = width := by
  induction width generalizing n with
  | zero => rfl
  | succ width ih => simp only [littleEndian, List.length_cons, ih]

theorem littleEndianValue_lt (bytes : List UInt8) : littleEndianValue bytes < 256 ^ bytes.length := by
  induction bytes with
  | nil => simp [littleEndianValue]
  | cons b bytes ih =>
    have hb : b.toNat < 256 := b.toNat_lt
    simp only [littleEndianValue, List.length_cons, Nat.pow_succ]
    omega

theorem littleEndianValue_littleEndian (width n : ℕ) (h : n < 256 ^ width) :
    littleEndianValue (littleEndian width n) = n := by
  induction width generalizing n with
  | zero => simp only [Nat.pow_zero] at h; simp only [littleEndian, littleEndianValue]; omega
  | succ width ih =>
    have hq : n / 256 < 256 ^ width := by
      rw [Nat.pow_succ] at h
      exact Nat.div_lt_of_lt_mul (by omega)
    have hb : n.toUInt8.toNat = n % 256 := by simp
    simp only [littleEndian, littleEndianValue, ih _ hq, hb]
    omega

theorem littleEndian_littleEndianValue (bytes : List UInt8) :
    littleEndian bytes.length (littleEndianValue bytes) = bytes := by
  induction bytes with
  | nil => rfl
  | cons b bytes ih =>
    have hb : b.toNat < 256 := b.toNat_lt
    have hlow : (b.toNat + 256 * littleEndianValue bytes).toUInt8 = b := by
      apply UInt8.toNat_inj.mp
      simp
    have hhigh : (b.toNat + 256 * littleEndianValue bytes) / 256 = littleEndianValue bytes := by
      omega
    simp only [List.length_cons, littleEndian, littleEndianValue, hlow, hhigh, ih]

def takeBytes (count : ℕ) : Reader (List UInt8) := fun bytes =>
  if count ≤ bytes.length then .ok (bytes.take count, bytes.drop count) else .error .shortInput

theorem takeBytes_append (xs rest : List UInt8) :
    takeBytes xs.length (xs ++ rest) = .ok (xs, rest) := by
  simp [takeBytes]

theorem takeBytes_sound {count : ℕ} {bytes xs rest : List UInt8}
    (h : takeBytes count bytes = .ok (xs, rest)) : xs.length = count ∧ bytes = xs ++ rest := by
  unfold takeBytes at h
  split at h
  · cases h
    exact ⟨List.length_take_of_le ‹_›, (List.take_append_drop count bytes).symm⟩
  · cases h

/-- A value without content, such as an aggregate without fields. -/
def nothing {α : Type} (a : α) (unique : ∀ b : α, b = a) : Wire α where
  fits _ := True
  write _ := []
  read bytes := .ok (a, bytes)
  read_write b rest _ := by rw [unique b]; rfl
  read_sound := by
    intro bytes b rest h
    cases h
    exact ⟨trivial, rfl⟩

/-- An unsigned scalar as its `width` little-endian bytes. -/
def word {α : Type} (width : ℕ) (toNat : α → ℕ) (ofNat : ℕ → α)
    (toNat_lt : ∀ a, toNat a < 256 ^ width) (ofNat_toNat : ∀ a, ofNat (toNat a) = a)
    (toNat_ofNat : ∀ n, n < 256 ^ width → toNat (ofNat n) = n) : Wire α where
  fits _ := True
  write a := littleEndian width (toNat a)
  read bytes := do
    let (xs, rest) ← takeBytes width bytes
    return (ofNat (littleEndianValue xs), rest)
  read_write := by
    intro a rest _
    have h := takeBytes_append (littleEndian width (toNat a)) rest
    rw [littleEndian_length] at h
    rw [h, bind_ok]
    refine ⟨_, rfl, ?_⟩
    simp only [littleEndianValue_littleEndian _ _ (toNat_lt a), ofNat_toNat]
    rfl
  read_sound := by
    intro bytes a rest h
    obtain ⟨⟨xs, tail⟩, hx, hr⟩ := bind_ok.mp h
    obtain ⟨hlen, rfl⟩ := takeBytes_sound hx
    cases hr
    have hlt := littleEndianValue_lt xs
    rw [hlen] at hlt
    refine ⟨trivial, ?_⟩
    rw [toNat_ofNat _ hlt, ← hlen, littleEndian_littleEndianValue]

/-- A four-byte length, then the bytes. The length of more bytes than the field
    can say is cut to it, so only shorter ones fit. -/
def countedBytes : Wire (List UInt8) where
  fits xs := xs.length < 256 ^ 4
  write xs := littleEndian 4 xs.length ++ xs
  read bytes := do
    let (field, rest) ← takeBytes 4 bytes
    takeBytes (littleEndianValue field) rest
  read_write := by
    intro xs rest h
    have hf := takeBytes_append (littleEndian 4 xs.length) (xs ++ rest)
    rw [littleEndian_length] at hf
    rw [List.append_assoc, hf, bind_ok]
    refine ⟨_, rfl, ?_⟩
    simp only [littleEndianValue_littleEndian _ _ h]
    exact takeBytes_append xs rest
  read_sound := by
    intro bytes xs rest h
    obtain ⟨⟨field, tail⟩, hf, hx⟩ := bind_ok.mp h
    obtain ⟨hlen, rfl⟩ := takeBytes_sound hf
    obtain ⟨hcount, rfl⟩ := takeBytes_sound hx
    have hlt := littleEndianValue_lt field
    rw [hlen] at hlt
    refine ⟨hcount ▸ hlt, ?_⟩
    rw [hcount, ← hlen, littleEndian_littleEndianValue, List.append_assoc]

/-- Two fields in declaration order. -/
def Wire.pair {α β : Type} (first : Wire α) (second : Wire β) : Wire (α × β) where
  fits p := first.fits p.1 ∧ second.fits p.2
  write p := first.write p.1 ++ second.write p.2
  read bytes := do
    let (a, rest) ← first.read bytes
    let (b, rest) ← second.read rest
    return ((a, b), rest)
  read_write := by
    rintro ⟨a, b⟩ rest ⟨ha, hb⟩
    rw [List.append_assoc, first.read_write a _ ha, bind_ok]
    refine ⟨_, rfl, ?_⟩
    exact bind_ok.mpr ⟨_, second.read_write b rest hb, rfl⟩
  read_sound := by
    intro bytes p rest h
    obtain ⟨⟨a, tail⟩, ha, hr⟩ := bind_ok.mp h
    obtain ⟨⟨b, tail'⟩, hb, hp⟩ := bind_ok.mp hr
    cases hp
    obtain ⟨fa, rfl⟩ := first.read_sound _ _ _ ha
    obtain ⟨fb, rfl⟩ := second.read_sound _ _ _ hb
    exact ⟨⟨fa, fb⟩, (List.append_assoc _ _ _).symm⟩

/-- The same bytes read as another representation of the value. -/
def Wire.via {α β : Type} (format : Wire α) (pack : α → β) (unpack : β → α)
    (pack_unpack : ∀ b, pack (unpack b) = b) (unpack_pack : ∀ a, unpack (pack a) = a) :
    Wire β where
  fits b := format.fits (unpack b)
  write b := format.write (unpack b)
  read bytes := do
    let (a, rest) ← format.read bytes
    return (pack a, rest)
  read_write := by
    intro b rest h
    rw [format.read_write _ _ h, bind_ok]
    refine ⟨_, rfl, ?_⟩
    change Except.ok (pack (unpack b), rest) = _
    rw [pack_unpack]
  read_sound := by
    intro bytes b rest h
    obtain ⟨⟨a, tail⟩, ha, hr⟩ := bind_ok.mp h
    cases hr
    rw [unpack_pack]
    exact format.read_sound _ _ _ ha

/-- An index byte, then the alternative it names. -/
def tagged (n : ℕ) (hn : n ≤ 256) (Alternative : Fin n → Type)
    (format : ∀ i, Wire (Alternative i)) : Wire ((i : Fin n) × Alternative i) where
  fits v := (format v.1).fits v.2
  write v := v.1.val.toUInt8 :: (format v.1).write v.2
  read
    | [] => .error .shortInput
    | index :: bytes =>
      if h : index.toNat < n then do
        let (a, rest) ← (format ⟨index.toNat, h⟩).read bytes
        return (⟨⟨index.toNat, h⟩, a⟩, rest)
      else .error .badIndex
  read_write := by
    rintro ⟨i, a⟩ rest h
    have hi : i.val.toUInt8.toNat = i.val := by
      simp only [Nat.toUInt8, UInt8.toNat_ofNat']
      omega
    have hlt : i.val.toUInt8.toNat < n := by rw [hi]; exact i.isLt
    simp only [List.cons_append, hlt, ↓reduceDIte]
    generalize hj : (⟨i.val.toUInt8.toNat, hlt⟩ : Fin n) = j
    obtain rfl : i = j := by rw [← hj]; exact Fin.ext hi.symm
    exact bind_ok.mpr ⟨_, (format i).read_write a rest h, rfl⟩
  read_sound := by
    rintro (_ | ⟨index, bytes⟩) v rest h
    · cases h
    · simp only at h
      split at h
      · obtain ⟨⟨a, tail⟩, ha, hr⟩ := bind_ok.mp h
        cases hr
        obtain ⟨hf, rfl⟩ := (format _).read_sound _ _ _ ha
        exact ⟨hf, by simp⟩
      · cases h

/-- A value that fits is read back from its own bytes alone. -/
theorem Wire.read_own {α : Type} (format : Wire α) (a : α) (h : format.fits a) :
    format.read (format.write a) = .ok (a, []) := by
  simpa only [List.append_nil] using format.read_write a [] h

section
variable {α : Type} (format : Wire α) {a b : α} (ha : format.fits a)
include ha

/-- The written forms are a prefix code: what stands behind one can be told apart. -/
theorem Wire.write_append_inj (hb : format.fits b) {rest rest' : List UInt8}
    (same : format.write a ++ rest = format.write b ++ rest') : a = b ∧ rest = rest' := by
  have left := format.read_write a rest ha
  have right := format.read_write b rest' hb
  rw [same, right] at left
  cases left
  exact ⟨rfl, rfl⟩

/-- A part of a written form that lacks its end is not read. -/
theorem Wire.read_truncated {start cut : List UInt8} (split : format.write a = start ++ cut)
    (proper : cut ≠ []) : ∃ fault, format.read start = .error fault := by
  cases result : format.read start with
  | error fault => exact ⟨fault, rfl⟩
  | ok parsed =>
    obtain ⟨b, rest⟩ := parsed
    obtain ⟨hb, begins⟩ := format.read_sound _ _ _ result
    have same : format.write a ++ [] = format.write b ++ (rest ++ cut) := by
      rw [List.append_nil, split, begins, List.append_assoc]
    have empty := (format.write_append_inj ha hb same).2
    exact absurd (List.append_eq_nil_iff.mp empty.symm).2 proper

end

end RdpExt.WireFormat
