import Mathlib
import BenchReport.Log.Name
import BenchReport.Proofs.Numerals
import BenchReport.Report.File

/-!
# Numbers in names and reports

Counts and figures are written in decimal digits.  What is written reads back as the same number
(`Record.integer_countText`, `Record.integer_toString`), because the digits of a number are a numeral
for it (`Numeral.isDigits_toDigits`) and the readers accept every numeral in their range.

For names of logs it matters how numbers stand in a longer text.  A numeral consists of digits only
(`isDigit_of_mem_countText`) and different numbers have different numerals (`toDigits_injective`).
-/

namespace BenchReport

/-- Whether a text consists of decimal digits. -/
def AllDigits (text : List Char) : Prop := ∀ c ∈ text, c.isDigit = true

lemma allDigits_toDigits (n : ℕ) : AllDigits (Nat.toDigits 10 n) :=
  fun _ hc => Nat.isDigit_of_mem_toDigits (by decide) (by decide) hc

lemma toDigits_injective : Function.Injective (Nat.toDigits 10) := by
  intro a b h
  rw [← Nat.ofDigitChars_ten_toDigits (n := a), h, Nat.ofDigitChars_ten_toDigits]

lemma toList_countText (n : UInt32) : (countText n).toList = Nat.toDigits 10 n.toNat := by
  simp [countText]

lemma countText_injective : Function.Injective countText := by
  intro m n h
  refine UInt32.toNat_inj.mp (toDigits_injective ?_)
  rw [← toList_countText, h, toList_countText]

lemma isDigit_of_mem_countText (n : UInt32) : AllDigits (countText n).toList := by
  rw [toList_countText]
  exact allDigits_toDigits _

namespace Numeral

/-- The digits of a number write it. -/
lemma isDigits_toDigits (n : ℕ) : IsDigits 10 (Nat.toDigits 10 n) n :=
  isDigits_ten_iff.mpr
    ⟨Nat.toDigits_ne_nil, allDigits_toDigits n, Nat.ofDigitChars_ten_toDigits.symm⟩

lemma unsigned_toDigits {bound n : ℕ} (h : n ≤ bound) :
    unsigned 10 bound (Nat.toDigits 10 n) = .ok n :=
  unsigned_eq_ok.mpr ⟨.bare (isDigits_toDigits n), h⟩

lemma signed_toDigits {bound n : ℕ} (h : n ≤ bound) :
    signed 10 bound (Nat.toDigits 10 n) = .ok (n : ℤ) :=
  signed_eq_ok.mpr ⟨.natural (.bare (isDigits_toDigits n)), by omega, by omega⟩

lemma signed_minus_toDigits {bound n : ℕ} (h : n ≤ bound + 1) :
    signed 10 bound ('-' :: Nat.toDigits 10 n) = .ok (-(n : ℤ)) :=
  signed_eq_ok.mpr ⟨.minus (isDigits_toDigits n), by omega, by omega⟩

end Numeral

namespace Record

/-- A text without an `x` in second place is read in decimal digits. -/
lemma integer_of_ne {α : Type} (read : ℕ → List Char → Except NumeralError α) {text : List Char}
    (h : text[1]? ≠ some 'x') : integer read text = read 10 text := by
  rw [integer.eq_def]
  split
  · simp at h
  · rfl

lemma integer_toDigits {α : Type} (read : ℕ → List Char → Except NumeralError α) (n : ℕ) :
    integer read (Nat.toDigits 10 n) = read 10 (Nat.toDigits 10 n) := by
  apply integer_of_ne
  intro hx
  exact absurd (allDigits_toDigits n 'x' (List.mem_of_getElem? hx)) (by decide)

/-- A count reads back. -/
theorem integer_countText (n : UInt32) :
    integer (fun radix => Numeral.unsigned radix Numeral.maxU32) (countText n).toList =
      .ok n.toNat := by
  have hle : n.toNat ≤ Numeral.maxU32 := Nat.le_of_lt_succ n.toNat_lt
  rw [toList_countText, integer_toDigits, Numeral.unsigned_toDigits hle]

/-- A figure of 64 bits reads back. -/
theorem integer_toString {i : ℤ} (hlo : Binary64.minWord ≤ i) (hhi : i ≤ Binary64.maxWord) :
    integer (fun radix => Numeral.signed radix Numeral.maxI64) (toString i).toList = .ok i := by
  simp only [Binary64.minWord, Binary64.maxWord] at hlo hhi
  rw [Int.toString_eq_repr, Int.repr_eq_if]
  split
  · rename_i hnonneg
    rw [Nat.toList_repr, integer_toDigits,
      Numeral.signed_toDigits (by unfold Numeral.maxI64; omega), Int.toNat_of_nonneg hnonneg]
  · rename_i hneg
    have htext : ("-" ++ (-i).toNat.repr).toList = '-' :: Nat.toDigits 10 (-i).toNat := by
      simp
    rw [htext, integer_of_ne, Numeral.signed_minus_toDigits (by unfold Numeral.maxI64; omega),
      Int.toNat_of_nonneg (by omega), neg_neg]
    intro hx
    have hmem : 'x' ∈ Nat.toDigits 10 (-i).toNat := List.mem_of_getElem? (by simpa using hx)
    exact absurd (allDigits_toDigits _ 'x' hmem) (by decide)

/-- A figure consists of digits, but for a minus sign. -/
lemma isDigit_of_mem_toString (i : ℤ) {c : Char} (hc : c ∈ (toString i).toList) :
    c.isDigit = true ∨ c = '-' := by
  rw [Int.toString_eq_repr, Int.repr_eq_if] at hc
  split at hc
  · rw [Nat.toList_repr] at hc
    exact .inl (allDigits_toDigits _ c hc)
  · have htext : ("-" ++ (-i).toNat.repr).toList = '-' :: Nat.toDigits 10 (-i).toNat := by
      simp
    rw [htext, List.mem_cons] at hc
    rcases hc with rfl | hc
    · exact .inr rfl
    · exact .inl (allDigits_toDigits _ c hc)

end Record
end BenchReport
