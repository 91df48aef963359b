import RdpExt.WireFormat
import Mathlib.InformationTheory.Coding.UniquelyDecodable

set_option autoImplicit false

/-!
# Streams of written values

Values written one behind the other, with nothing in between. A format that writes no
value as nothing gives a stream that can be taken apart in one way only.
-/
namespace RdpExt.WireStreams
open WireFormat InformationTheory

variable {α : Type} (format : Wire α)

def stream (values : List α) : List UInt8 := (values.map format.write).flatten

@[simp] theorem stream_nil : stream format [] = [] := rfl

@[simp] theorem stream_cons (a : α) (values : List α) :
    stream format (a :: values) = format.write a ++ stream format values := rfl

variable {format} (written : ∀ a, format.fits a → format.write a ≠ [])

section
include written

theorem stream_begins {a : α} {values : List α} {rest : List UInt8} (fits : format.fits a)
    (all : ∀ b ∈ values, format.fits b) (begins : stream format values = format.write a ++ rest) :
    ∃ later, values = a :: later ∧ stream format later = rest := by
  cases values with
  | nil => exact absurd (List.append_eq_nil_iff.mp begins.symm).1 (written a fits)
  | cons b later =>
    rw [stream_cons] at begins
    obtain ⟨same, behind⟩ := format.write_append_inj (all b List.mem_cons_self) fits begins
    exact ⟨later, by rw [same], behind⟩

theorem stream_inj {values values' : List α} (all : ∀ a ∈ values, format.fits a)
    (all' : ∀ a ∈ values', format.fits a) (same : stream format values = stream format values') :
    values = values' := by
  induction values generalizing values' with
  | nil =>
    cases values' with
    | nil => rfl
    | cons a later =>
      rw [stream_nil, stream_cons] at same
      exact absurd (List.append_eq_nil_iff.mp same.symm).1 (written a (all' a List.mem_cons_self))
  | cons a values ih =>
    rw [stream_cons] at same
    obtain ⟨later, rfl, behind⟩ := stream_begins written (all a List.mem_cons_self) all' same.symm
    rw [ih (fun b hb => all b (List.mem_cons_of_mem _ hb))
      (fun b hb => all' b (List.mem_cons_of_mem _ hb)) behind.symm]

theorem uniquelyDecodable_written :
    UniquelyDecodable {bytes | ∃ a, format.fits a ∧ format.write a = bytes} := by
  have values_of {words : List (List UInt8)}
      (words_written : ∀ w ∈ words, ∃ a, format.fits a ∧ format.write a = w) :
      ∃ values : List α, (∀ a ∈ values, format.fits a) ∧ values.map format.write = words := by
    induction words with
    | nil => exact ⟨[], nofun, rfl⟩
    | cons w words ih =>
      obtain ⟨a, fits, rfl⟩ := words_written w List.mem_cons_self
      obtain ⟨values, all, rfl⟩ := ih fun w hw => words_written w (List.mem_cons_of_mem _ hw)
      exact ⟨a :: values, List.forall_mem_cons.mpr ⟨fits, all⟩, rfl⟩
  intro words words' inside inside' same
  obtain ⟨values, all, rfl⟩ := values_of inside
  obtain ⟨values', all', rfl⟩ := values_of inside'
  rw [stream_inj written all all' same]

end

theorem stream_length_le {values : List α} {pieces : List (List UInt8)}
    (begin : List.Forall₂ (fun a piece => format.write a <+: piece) values pieces) :
    (stream format values).length ≤ pieces.flatten.length := by
  induction begin with
  | nil => exact Nat.le_refl _
  | cons head _ ih =>
    rw [stream_cons, List.flatten_cons, List.length_append, List.length_append]
    exact Nat.add_le_add head.length_le ih

/-- Pieces that begin with the values of their stream are the written values. -/
theorem pieces_eq {values : List α} {pieces : List (List UInt8)}
    (begin : List.Forall₂ (fun a piece => format.write a <+: piece) values pieces)
    (cut : pieces.flatten = stream format values) : pieces = values.map format.write := by
  induction begin with
  | nil => rfl
  | @cons a piece values pieces head later ih =>
    obtain ⟨rest, rfl⟩ := head
    rw [List.flatten_cons, stream_cons, List.append_assoc] at cut
    have behind := List.append_cancel_left cut
    have short := stream_length_le later
    rw [← behind, List.length_append] at short
    obtain rfl : rest = [] := List.length_eq_zero_iff.mp (by omega)
    rw [List.nil_append] at behind
    rw [List.map_cons, List.append_nil, ih behind]

end RdpExt.WireStreams
