import Mathlib
import BenchReport.Number.Binary64
import BenchReport.Number.Numeral

/-!
# Which texts are numerals

The readers of numbers go from left to right, stop where a character decides and check the range on
the way.  Here is what they accept, as grammars that know nothing of this.

A numeral in a radix is a sign, if there is one, and at least one digit (`Numeral.IsNatural`,
`Numeral.IsInteger`).  A reader of integers accepts exactly those whose number lies in its range
(`Numeral.unsigned_eq_ok`, `Numeral.signed_eq_ok`).  A real is a name, or digits with at most one
point among or around them and perhaps an exponent (`Numeral.IsReal`), and the reader of reals accepts
exactly these (`Numeral.real?_eq_some`).
-/

namespace BenchReport
namespace Numeral

/-! ## Digits -/

/-- At least one digit of a radix, and the number that the digits write. -/
def IsDigits (radix : ℕ) (text : List Char) (n : ℕ) : Prop :=
  text ≠ [] ∧ ∃ values, List.Forall₂ (fun c d => digit? radix c = some d) text values ∧
    n = Nat.ofDigits radix values.reverse

/-- Digits behind a number that was already read. -/
def Continues (radix read : ℕ) (text : List Char) (n : ℕ) : Prop :=
  ∃ values, List.Forall₂ (fun c d => digit? radix c = some d) text values ∧
    n = values.foldl (fun m d => m * radix + d) read

lemma continues_nil {radix read n : ℕ} : Continues radix read [] n ↔ n = read := by
  simp [Continues]

lemma continues_cons {radix read n : ℕ} {c : Char} {text : List Char} :
    Continues radix read (c :: text) n ↔
      ∃ d, digit? radix c = some d ∧ Continues radix (read * radix + d) text n := by
  simp only [Continues, List.forall₂_cons_left_iff]
  constructor
  · rintro ⟨_, ⟨d, values, hd, hvalues, rfl⟩, rfl⟩
    exact ⟨d, hd, values, hvalues, rfl⟩
  · rintro ⟨d, hd, values, hvalues, rfl⟩
    exact ⟨d :: values, ⟨d, values, hd, hvalues, rfl⟩, rfl⟩

lemma isDigits_iff {radix n : ℕ} {text : List Char} :
    IsDigits radix text n ↔ text ≠ [] ∧ Continues radix 0 text n := by
  have hvalue : ∀ values : List ℕ,
      Nat.ofDigits radix values.reverse = values.foldl (fun m d => m * radix + d) 0 := by
    intro values
    rw [Nat.ofDigits_eq_foldr, List.foldr_reverse]
    simp [add_comm, mul_comm]
  simp only [IsDigits, Continues, hvalue]

lemma lt_of_digit? {radix d : ℕ} {c : Char} (h : digit? radix c = some d) : d < radix := by
  have hlt := (Option.filter_eq_some_iff.mp h).2
  simpa using hlt

/-- Reading on never makes the number smaller. -/
lemma Continues.le {radix read n : ℕ} {text : List Char} (h : Continues radix read text n) :
    read ≤ n := by
  induction text generalizing read with
  | nil => exact (continues_nil.mp h).ge
  | cons c text ih =>
    obtain ⟨d, hd, hrest⟩ := continues_cons.mp h
    have hradix : 0 < radix := (Nat.zero_le d).trans_lt (lt_of_digit? hd)
    calc
      read ≤ read * radix := Nat.le_mul_of_pos_right read hradix
      _ ≤ read * radix + d := Nat.le_add_right _ _
      _ ≤ n := ih hrest

/-- The range check on the way refuses exactly the numbers beyond the range. -/
lemma digits_eq_ok {radix bound read n : ℕ} {beyond : NumeralError} {text : List Char}
    (hread : read ≤ bound) :
    digits radix bound beyond read text = .ok n ↔ Continues radix read text n ∧ n ≤ bound := by
  induction text generalizing read with
  | nil =>
    rw [digits, continues_nil]
    constructor
    · intro h
      obtain rfl := Except.ok.inj h
      exact ⟨rfl, hread⟩
    · rintro ⟨rfl, -⟩
      rfl
  | cons c text ih =>
    rw [digits, continues_cons]
    cases hd : digit? radix c with
    | none => simp
    | some d =>
      simp only [Option.some.injEq, exists_eq_left']
      split_ifs with hnext
      · simp only [false_iff, not_and, not_le]
        exact fun hrest => hnext.trans_le hrest.le
      · exact ih (not_lt.mp hnext)

/-! ## Integers -/

/-- Digits, with a plus sign or without. -/
inductive IsNatural (radix : ℕ) : List Char → ℕ → Prop
  | bare {text : List Char} {n : ℕ} (h : IsDigits radix text n) : IsNatural radix text n
  | plus {text : List Char} {n : ℕ} (h : IsDigits radix text n) : IsNatural radix ('+' :: text) n

/-- Digits, with a sign or without. -/
inductive IsInteger (radix : ℕ) : List Char → ℤ → Prop
  | natural {text : List Char} {n : ℕ} (h : IsNatural radix text n) : IsInteger radix text n
  | minus {text : List Char} {n : ℕ} (h : IsDigits radix text n) :
    IsInteger radix ('-' :: text) (-(n : ℤ))

/-- No sign is a digit. -/
lemma IsDigits.head_ne {radix n : ℕ} {c : Char} {text : List Char}
    (h : IsDigits radix (c :: text) n) : c ≠ '+' ∧ c ≠ '-' := by
  obtain ⟨-, hdigits⟩ := isDigits_iff.mp h
  obtain ⟨d, hd, -⟩ := continues_cons.mp hdigits
  constructor <;>
  · rintro rfl
    simp [digit?] at hd

lemma digits_zero_eq_ok {radix bound n : ℕ} {beyond : NumeralError} {text : List Char}
    (hne : text ≠ []) :
    digits radix bound beyond 0 text = .ok n ↔ IsDigits radix text n ∧ n ≤ bound := by
  rw [digits_eq_ok (Nat.zero_le bound), isDigits_iff]
  simp [hne]

/-- The reader of naturals accepts the numerals in its range. -/
theorem unsigned_eq_ok {radix bound n : ℕ} {text : List Char} :
    unsigned radix bound text = .ok n ↔ IsNatural radix text n ∧ n ≤ bound := by
  constructor
  · intro h
    rw [unsigned.eq_def] at h
    split at h
    · cases h
    · cases h
    · rename_i rest hrest
      obtain ⟨hdigits, hle⟩ := (digits_zero_eq_ok (fun hnil => hrest hnil)).mp h
      exact ⟨.plus hdigits, hle⟩
    · rename_i hne _ _
      obtain ⟨hdigits, hle⟩ := (digits_zero_eq_ok hne).mp h
      exact ⟨.bare hdigits, hle⟩
  · rintro ⟨hnumeral, hle⟩
    cases hnumeral with
    | bare hdigits =>
      cases text with
      | nil => exact absurd rfl hdigits.1
      | cons c text =>
        have hplus := hdigits.head_ne.1
        rw [unsigned.eq_def]
        split
        · rename_i heq; cases heq
        · rename_i heq; exact absurd (List.cons.inj heq).1 hplus
        · rename_i heq; exact absurd (List.cons.inj heq).1 hplus
        · exact (digits_zero_eq_ok hdigits.1).mpr ⟨hdigits, hle⟩
    | plus hdigits =>
      rw [unsigned.eq_3 radix bound _ hdigits.1]
      exact (digits_zero_eq_ok hdigits.1).mpr ⟨hdigits, hle⟩

/-- A numeral that starts with a digit is read by the last case of a reader of integers. -/
lemma signed_of_isDigits {radix bound n : ℕ} {text : List Char} (h : IsDigits radix text n) :
    signed radix bound text = (digits radix bound .tooLarge 0 text).map Int.ofNat := by
  cases text with
  | nil => exact absurd rfl h.1
  | cons c text =>
    obtain ⟨hplus, hminus⟩ := h.head_ne
    rw [signed.eq_def]
    split
    · rename_i heq; cases heq
    · rename_i heq; exact absurd (List.cons.inj heq).1 hplus
    · rename_i heq; exact absurd (List.cons.inj heq).1 hminus
    · rename_i heq; exact absurd (List.cons.inj heq).1 hplus
    · rename_i heq; exact absurd (List.cons.inj heq).1 hminus
    · rfl

lemma map_digits_eq_ok {radix bound : ℕ} {beyond : NumeralError} {text : List Char} (hne : text ≠ [])
    {f : ℕ → ℤ} {i : ℤ} :
    (digits radix bound beyond 0 text).map f = .ok i ↔
      ∃ n, IsDigits radix text n ∧ n ≤ bound ∧ f n = i := by
  constructor
  · intro h
    cases hread : digits radix bound beyond 0 text with
    | error cause =>
      rw [hread] at h
      cases h
    | ok n =>
      rw [hread] at h
      obtain ⟨hdigits, hle⟩ := (digits_zero_eq_ok hne).mp hread
      exact ⟨n, hdigits, hle, Except.ok.inj h⟩
  · rintro ⟨n, hdigits, hle, rfl⟩
    rw [(digits_zero_eq_ok hne).mpr ⟨hdigits, hle⟩]
    rfl

lemma signed_minus {radix bound : ℕ} {text : List Char} (hne : text ≠ []) :
    signed radix bound ('-' :: text) =
      (digits radix (bound + 1) .tooSmall 0 text).map fun n : ℕ => -(n : ℤ) := by
  rw [signed.eq_5 radix bound text hne]
  cases digits radix (bound + 1) .tooSmall 0 text <;> rfl

/-- The reader of integers accepts the numerals in its range. -/
theorem signed_eq_ok {radix bound : ℕ} {i : ℤ} {text : List Char} :
    signed radix bound text = .ok i ↔
      IsInteger radix text i ∧ -((bound : ℤ) + 1) ≤ i ∧ i ≤ bound := by
  constructor
  · intro h
    have hread := h
    rw [signed.eq_def] at h
    split at h
    · cases h
    · cases h
    · cases h
    · rename_i rest hrest
      obtain ⟨n, hdigits, hle, rfl⟩ := (map_digits_eq_ok (fun hnil => hrest hnil)).mp h
      exact ⟨.natural (.plus hdigits), by simp; omega, by simpa using hle⟩
    · rename_i rest hrest
      rw [signed_minus hrest] at hread
      obtain ⟨n, hdigits, hle, rfl⟩ := (map_digits_eq_ok hrest).mp hread
      exact ⟨.minus hdigits, by omega, by omega⟩
    · rename_i hne _ _ _ _
      obtain ⟨n, hdigits, hle, rfl⟩ := (map_digits_eq_ok hne).mp h
      exact ⟨.natural (.bare hdigits), by simp; omega, by simpa using hle⟩
  · rintro ⟨hnumeral, hlo, hhi⟩
    cases hnumeral with
    | natural hnatural =>
      cases hnatural with
      | bare hdigits =>
        rw [signed_of_isDigits hdigits]
        exact (map_digits_eq_ok hdigits.1).mpr ⟨_, hdigits, by omega, rfl⟩
      | plus hdigits =>
        rw [signed.eq_4 radix bound _ hdigits.1]
        exact (map_digits_eq_ok hdigits.1).mpr ⟨_, hdigits, by omega, rfl⟩
    | minus hdigits =>
      rw [signed_minus hdigits.1]
      exact (map_digits_eq_ok hdigits.1).mpr ⟨_, hdigits, by omega, rfl⟩

/-! ## Reals -/

/-- Decimal digits with at most one point among or around them: the number that the digits write,
and how many of them stand behind the point. -/
inductive IsMantissa : List Char → (m places : ℕ) → Prop
  | whole {text : List Char} {m : ℕ} (h : IsDigits 10 text m) : IsMantissa text m 0
  | pointed {whole fraction : List Char} {m : ℕ} (h : IsDigits 10 (whole ++ fraction) m) :
    IsMantissa (whole ++ '.' :: fraction) m fraction.length

/-- Nothing, or a mark and an integer. -/
inductive IsExponent : List Char → ℤ → Prop
  | absent : IsExponent [] 0
  | present {mark : Char} {text : List Char} {e : ℤ} (hmark : mark = 'e' ∨ mark = 'E')
    (h : IsInteger 10 text e) : IsExponent (mark :: text) e

/-- A real without a sign: a name in letters of any case, or digits. -/
inductive IsMagnitude : List Char → Float → Prop
  | infinity {text : List Char} (h : text.map Char.toLower = "inf".toList ∨
      text.map Char.toLower = "infinity".toList) : IsMagnitude text Binary64.infinity
  | nan {text : List Char} (h : text.map Char.toLower = "nan".toList) : IsMagnitude text Binary64.nan
  | decimal {mantissa exponent : List Char} {m places : ℕ} {e : ℤ}
    (hmantissa : IsMantissa mantissa m places) (hexponent : IsExponent exponent e) :
    IsMagnitude (mantissa ++ exponent) (scale m (e - places))

/-- A real, with a sign or without. -/
inductive IsReal : List Char → Float → Prop
  | bare {text : List Char} {x : Float} (h : IsMagnitude text x) : IsReal text x
  | plus {text : List Char} {x : Float} (h : IsMagnitude text x) : IsReal ('+' :: text) x
  | minus {text : List Char} {x : Float} (h : IsMagnitude text x) : IsReal ('-' :: text) (-x)

/-- Decimal digits as the reader of reals tells them. -/
lemma isDigits_ten_iff {text : List Char} {n : ℕ} :
    IsDigits 10 text n ↔ text ≠ [] ∧ (∀ c ∈ text, isDigit c = true) ∧ n = value text := by
  have hdigit : ∀ c : Char, digit? 10 c = if isDigit c then some (c.toNat - 48) else none := by
    intro c
    by_cases hc : 48 ≤ c.toNat ∧ c.toNat ≤ 57
    · have hlt : c.toNat - 48 < 10 := by omega
      simp [digit?, isDigit, hc, hlt]
    · have hno : isDigit c = false := by simpa [isDigit] using hc
      rw [hno, digit?]
      simp only [Option.filter_eq_none_iff, Bool.false_eq_true, if_false, decide_eq_true_eq]
      grind
  have hcontinues : ∀ read : ℕ, Continues 10 read text n ↔ (∀ c ∈ text, isDigit c = true) ∧
      n = text.foldl (fun m c => 10 * m + (c.toNat - 48)) read := by
    induction text with
    | nil => simp [continues_nil]
    | cons c text ih =>
      intro read
      rw [continues_cons, hdigit]
      cases hc : isDigit c with
      | true => simp [hc, ih, mul_comm read]
      | false => simp [hc]
  rw [isDigits_iff, hcontinues]
  rfl

lemma splitSign_of_ne {c : Char} {text : List Char} (h : c ≠ '+' ∧ c ≠ '-') :
    splitSign (c :: text) = (false, c :: text) := by
  rw [splitSign.eq_def]
  split
  · rename_i heq; exact absurd (List.cons.inj heq).1 h.1
  · rename_i heq; exact absurd (List.cons.inj heq).1 h.2
  · rfl

lemma isInteger_iff_splitSign {radix : ℕ} {text : List Char} {i : ℤ} :
    IsInteger radix text i ↔ ∃ n : ℕ, IsDigits radix (splitSign text).2 n ∧
      i = if (splitSign text).1 then -(n : ℤ) else n := by
  constructor
  · rintro ((hdigits | hdigits) | hdigits)
    · cases text with
      | nil => exact absurd rfl hdigits.1
      | cons c text =>
        rw [splitSign_of_ne hdigits.head_ne]
        exact ⟨_, hdigits, rfl⟩
    · exact ⟨_, hdigits, rfl⟩
    · exact ⟨_, hdigits, rfl⟩
  · rintro ⟨n, hdigits, rfl⟩
    rw [splitSign.eq_def] at hdigits ⊢
    split at hdigits
    · exact .natural (.plus hdigits)
    · exact .minus hdigits
    · exact .natural (.bare hdigits)

lemma exponent?_eq_some {text : List Char} {e : ℤ} : exponent? text = some e ↔ IsExponent text e := by
  cases text with
  | nil =>
    rw [exponent?, Option.some.injEq]
    constructor
    · rintro rfl
      exact .absent
    · rintro ⟨⟩
      rfl
  | cons mark rest =>
    have hpresent : IsExponent (mark :: rest) e ↔ (mark = 'e' ∨ mark = 'E') ∧ IsInteger 10 rest e :=
      ⟨fun | .present hmark h => ⟨hmark, h⟩, fun ⟨hmark, h⟩ => .present hmark h⟩
    rw [hpresent, isInteger_iff_splitSign, exponent?]
    simp only [isDigits_ten_iff]
    by_cases hmark : mark = 'e' ∨ mark = 'E'
    · by_cases hdigits : (splitSign rest).2 ≠ [] ∧ ∀ c ∈ (splitSign rest).2, isDigit c = true
      · simp [hmark, hdigits, eq_comm (a := e)]
      · simp [hmark, hdigits]
    · simp [hmark]

/-- What stands behind the digits of a real does not begin with a digit or a point. -/
lemma IsExponent.head_not {text : List Char} {e : ℤ} (h : IsExponent text e) :
    ∀ c ∈ text.head?, isDigit c = false ∧ c ≠ '.' := by
  cases h with
  | absent => simp
  | present hmark _ =>
    rintro c ⟨⟩
    rcases hmark with rfl | rfl <;> decide

lemma takeWhile_append_eq {p : Char → Bool} {front rest : List Char}
    (hfront : ∀ c ∈ front, p c = true) (hrest : ∀ c ∈ rest.head?, p c = false) :
    (front ++ rest).takeWhile p = front ∧ (front ++ rest).dropWhile p = rest := by
  rw [List.takeWhile_append_of_pos hfront, List.dropWhile_append_of_pos hfront]
  cases rest with
  | nil => simp
  | cons c rest => simp [hrest c rfl]

lemma magnitude?_of_point {text more : List Char} (h : text.dropWhile isDigit = '.' :: more) :
    magnitude? text =
      if (text.takeWhile isDigit ++ more.takeWhile isDigit) = [] then none
      else (exponent? (more.dropWhile isDigit)).map fun e =>
        scale (value (text.takeWhile isDigit ++ more.takeWhile isDigit))
          (e - (more.takeWhile isDigit).length) := by
  simp [magnitude?, h]

lemma magnitude?_of_no_point {text : List Char} (h : (text.dropWhile isDigit).head? ≠ some '.') :
    magnitude? text =
      if text.takeWhile isDigit = [] then none
      else (exponent? (text.dropWhile isDigit)).map (scale (value (text.takeWhile isDigit))) := by
  rw [magnitude?]
  dsimp only
  split
  · rename_i more hmore
    simp [hmore] at h
  · simp

lemma magnitude?_eq_some {text : List Char} {x : Float} :
    magnitude? text = some x ↔ ∃ mantissa exponent m places e, text = mantissa ++ exponent ∧
      IsMantissa mantissa m places ∧ IsExponent exponent e ∧ x = scale m (e - places) := by
  have hall : ∀ {text : List Char}, ∀ c ∈ text.takeWhile isDigit, isDigit c = true :=
    fun {_} c hc => List.mem_takeWhile_imp hc
  constructor
  · intro h
    by_cases hpoint : (text.dropWhile isDigit).head? = some '.'
    · obtain ⟨more, hmore⟩ := List.head?_eq_some_iff.mp hpoint
      rw [magnitude?_of_point hmore] at h
      split_ifs at h with hne
      obtain ⟨e, hexponent, rfl⟩ := Option.map_eq_some_iff.mp h
      refine ⟨text.takeWhile isDigit ++ '.' :: more.takeWhile isDigit, more.dropWhile isDigit, _, _, e,
        ?_, .pointed (isDigits_ten_iff.mpr ⟨hne, ?_, rfl⟩), exponent?_eq_some.mp hexponent, rfl⟩
      · rw [List.append_assoc, List.cons_append, List.takeWhile_append_dropWhile, ← hmore,
          List.takeWhile_append_dropWhile]
      · exact List.forall_mem_append.mpr ⟨hall, hall⟩
    · rw [magnitude?_of_no_point hpoint] at h
      split_ifs at h with hne
      obtain ⟨e, hexponent, rfl⟩ := Option.map_eq_some_iff.mp h
      exact ⟨text.takeWhile isDigit, text.dropWhile isDigit, _, 0, e,
        List.takeWhile_append_dropWhile.symm, .whole (isDigits_ten_iff.mpr ⟨hne, hall, rfl⟩),
        exponent?_eq_some.mp hexponent, by simp⟩
  · rintro ⟨mantissa, exponent, m, places, e, rfl, hmantissa, hexponent, rfl⟩
    have hbehind := hexponent.head_not
    cases hmantissa with
    | whole hdigits =>
      obtain ⟨hne, hdigit, rfl⟩ := isDigits_ten_iff.mp hdigits
      obtain ⟨htake, hdrop⟩ := takeWhile_append_eq hdigit fun c hc => (hbehind c hc).1
      rw [magnitude?_of_no_point, htake, hdrop, if_neg hne, exponent?_eq_some.mpr hexponent]
      · simp
      · rw [hdrop]
        exact fun hpoint => (hbehind '.' hpoint).2 rfl
    | @pointed whole fraction _ hdigits =>
      obtain ⟨hne, hdigit, rfl⟩ := isDigits_ten_iff.mp hdigits
      rw [List.forall_mem_append] at hdigit
      have hpoint : ∀ c ∈ ('.' :: (fraction ++ exponent)).head?, isDigit c = false := by
        rintro c ⟨⟩
        decide
      obtain ⟨htake, hdrop⟩ := takeWhile_append_eq hdigit.1 hpoint
      obtain ⟨hmore, hlast⟩ := takeWhile_append_eq hdigit.2 fun c hc => (hbehind c hc).1
      rw [List.append_assoc, List.cons_append, magnitude?_of_point hdrop, htake, hmore, hlast,
        if_neg hne, exponent?_eq_some.mpr hexponent]
      rfl

lemma named?_eq_some {text : List Char} {x : Float} :
    named? text = some x ↔
      (text.map Char.toLower = "inf".toList ∨ text.map Char.toLower = "infinity".toList) ∧
          x = Binary64.infinity ∨
        text.map Char.toLower = "nan".toList ∧ x = Binary64.nan := by
  have hname : ∀ name : String, (String.ofList (text.map Char.toLower) == name) = true ↔
      text.map Char.toLower = name.toList := by
    intro name
    rw [beq_iff_eq, ← String.toList_inj, String.toList_ofList]
  rw [named?]
  simp only [Bool.or_eq_true, hname]
  split_ifs with hinfinite hnan
  · constructor
    · rintro ⟨⟩
      exact .inl ⟨hinfinite, rfl⟩
    · rintro (⟨-, rfl⟩ | ⟨hnan, -⟩)
      · rfl
      · rw [hnan] at hinfinite
        exact absurd hinfinite (by decide)
  · constructor
    · rintro ⟨⟩
      exact .inr ⟨hnan, rfl⟩
    · rintro (⟨h, -⟩ | ⟨-, rfl⟩)
      · exact absurd h hinfinite
      · rfl
  · constructor
    · rintro ⟨⟩
    · rintro (⟨h, -⟩ | ⟨h, -⟩)
      · exact absurd h hinfinite
      · exact absurd h hnan

/-- The digits of a real begin with a digit or the point. -/
lemma IsMantissa.exists_head {text : List Char} {m places : ℕ} (h : IsMantissa text m places) :
    ∃ c rest, text = c :: rest ∧ (isDigit c = true ∨ c = '.') := by
  cases h with
  | whole hdigits =>
    obtain ⟨hne, hdigit, -⟩ := isDigits_ten_iff.mp hdigits
    obtain ⟨c, rest, rfl⟩ := List.exists_cons_of_ne_nil hne
    exact ⟨c, rest, rfl, .inl (hdigit c List.mem_cons_self)⟩
  | @pointed whole fraction _ hdigits =>
    cases whole with
    | nil => exact ⟨'.', _, rfl, .inr rfl⟩
    | cons c whole =>
      exact ⟨c, _, rfl, .inl ((isDigits_ten_iff.mp hdigits).2.1 c List.mem_cons_self)⟩

lemma toLower_of_isDigit {c : Char} (h : isDigit c = true) : c.toLower = c := by
  simp only [isDigit, Bool.and_eq_true, decide_eq_true_eq] at h
  have hcode : c.val.toNat = c.toNat := rfl
  rw [Char.toLower, dif_neg]
  rintro ⟨hupper, -⟩
  have hle := UInt32.le_iff_toNat_le.mp hupper
  simp at hle
  omega

/-- Digits and a point are no letters, so that no text is a name and a number both. -/
lemma named?_append_eq_none {mantissa exponent : List Char} {m places : ℕ}
    (h : IsMantissa mantissa m places) : named? (mantissa ++ exponent) = none := by
  obtain ⟨c, rest, rfl, hc⟩ := h.exists_head
  have hlower : c.toLower ≠ 'i' ∧ c.toLower ≠ 'n' := by
    rcases hc with hdigit | rfl
    · rw [toLower_of_isDigit hdigit]
      constructor <;>
      · rintro rfl
        exact absurd hdigit (by decide)
    · decide
  refine Option.eq_none_iff_forall_ne_some.mpr fun x hx => ?_
  rcases named?_eq_some.mp hx with ⟨hname | hname, -⟩ | ⟨hname, -⟩
  · exact hlower.1 (List.cons.inj hname).1
  · exact hlower.1 (List.cons.inj hname).1
  · exact hlower.2 (List.cons.inj hname).1

/-- The reader of reals without a sign. -/
lemma magnitude_eq_some {text : List Char} {x : Float} :
    (named? text).or (magnitude? text) = some x ↔ IsMagnitude text x := by
  rw [Option.or_eq_some_iff]
  constructor
  · rintro (h | ⟨-, h⟩)
    · rcases named?_eq_some.mp h with ⟨hname, rfl⟩ | ⟨hname, rfl⟩
      · exact .infinity hname
      · exact .nan hname
    · obtain ⟨mantissa, exponent, m, places, e, rfl, hmantissa, hexponent, rfl⟩ :=
        magnitude?_eq_some.mp h
      exact .decimal hmantissa hexponent
  · intro h
    cases h with
    | infinity hname => exact .inl (named?_eq_some.mpr (.inl ⟨hname, rfl⟩))
    | nan hname => exact .inl (named?_eq_some.mpr (.inr ⟨hname, rfl⟩))
    | decimal hmantissa hexponent =>
      exact .inr ⟨named?_append_eq_none hmantissa,
        magnitude?_eq_some.mpr ⟨_, _, _, _, _, rfl, hmantissa, hexponent, rfl⟩⟩

/-- A real without a sign does not begin with one. -/
lemma IsMagnitude.splitSign_eq {text : List Char} {x : Float} (h : IsMagnitude text x) :
    splitSign text = (false, text) := by
  obtain ⟨c, rest, rfl, hc⟩ : ∃ c rest, text = c :: rest ∧ c ≠ '+' ∧ c ≠ '-' := by
    have hletter : ∀ {first : Char} {name : List Char}, text.map Char.toLower = first :: name →
        first ≠ '+' → first ≠ '-' → ∃ c rest, text = c :: rest ∧ c ≠ '+' ∧ c ≠ '-' := by
      intro first name hname hplus hminus
      obtain ⟨c, rest, rfl, hc, -⟩ := List.map_eq_cons_iff.mp hname
      refine ⟨c, rest, rfl, ?_, ?_⟩
      · rintro rfl
        exact hplus (hc.symm.trans (by decide))
      · rintro rfl
        exact hminus (hc.symm.trans (by decide))
    cases h with
    | infinity hname =>
      rcases hname with hname | hname
      · exact hletter hname (by decide) (by decide)
      · exact hletter hname (by decide) (by decide)
    | nan hname => exact hletter hname (by decide) (by decide)
    | decimal hmantissa _ =>
      obtain ⟨c, rest, rfl, hc⟩ := hmantissa.exists_head
      refine ⟨c, _, rfl, ?_, ?_⟩ <;>
      · rintro rfl
        exact absurd hc (by decide)
  exact splitSign_of_ne hc

/-- The reader of reals accepts the reals. -/
theorem real?_eq_some {text : String} {x : Float} : real? text = some x ↔ IsReal text.toList x := by
  rw [real?]
  dsimp only
  rw [Option.map_eq_some_iff]
  simp only [magnitude_eq_some]
  generalize text.toList = text
  constructor
  · rintro ⟨y, hmagnitude, rfl⟩
    cases hsplit : splitSign text with
    | mk negative magnitude =>
      rw [hsplit] at hmagnitude
      rw [splitSign.eq_def] at hsplit
      split at hsplit <;> obtain ⟨rfl, rfl⟩ := Prod.mk.inj hsplit
      · exact .plus hmagnitude
      · exact .minus hmagnitude
      · exact .bare hmagnitude
  · intro h
    cases h with
    | bare hmagnitude =>
      rw [hmagnitude.splitSign_eq]
      exact ⟨x, hmagnitude, rfl⟩
    | plus hmagnitude => exact ⟨x, hmagnitude, rfl⟩
    | minus hmagnitude => exact ⟨_, hmagnitude, rfl⟩

end Numeral
end BenchReport
