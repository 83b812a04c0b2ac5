import Mathlib
import BenchReport.Text.Blank
import BenchReport.Text.Utf8

/-!
# Text survives its bytes

Reading the bytes of a text gives the text back (`Utf8.decode_encode`).  The work is in
`Utf8.codePoint_encodeChar`: the first bytes of a character's form determine its code point, whatever
stands behind them, so `Utf8.front` never looks past the form that it accepts.

The second half is about bytes below 128.  They stand for themselves and occur in no other form
(`Utf8.ofNat_mem_of_mem_encode`), so a reader that cuts bytes at such a byte cuts the text at that
character.  The same fact lets white space of ASCII be taken off as bytes before the rest is read:
`Utf8.trimBy_encode` is that exchange.

The pieces of a text that is cut at some characters are free of these characters
(`mem_of_mem_splitOnP`), and at a character of ASCII the bytes may be cut as well
(`Utf8.splitOn_encode`).
-/

namespace BenchReport
namespace Utf8

/-! ## Reading back what was written -/

/-- The code point is read off the front, whatever follows. -/
lemma codePoint_encodeChar (c : Char) (rest : List UInt8) :
    codePoint (String.utf8EncodeChar c ++ rest) = c.toNat := by
  have hv : c.val.toNat < 0x110000 := by
    rcases c.valid with h | h
    · exact lt_trans h (by norm_num)
    · exact h.2
  have hc : c.toNat = c.val.toNat := rfl
  unfold String.utf8EncodeChar
  dsimp only
  -- one case for each length of the form; the leading byte tells which one it is
  split_ifs with h1 h2 h3 <;>
    simp only [List.cons_append, List.nil_append, codePoint, tailBits, UInt8.toNat_ofNat',
      hc] <;>
    split_ifs <;> omega

lemma front_encodeChar (c : Char) (rest : List UInt8) :
    front (String.utf8EncodeChar c ++ rest) =
      some (c, (String.utf8EncodeChar c).length) := by
  have hform : (String.utf8EncodeChar c).isPrefixOf (String.utf8EncodeChar c ++ rest) = true :=
    List.isPrefixOf_iff_prefix.mpr (List.prefix_append _ _)
  simp only [front, codePoint_encodeChar, Char.ofNat_toNat, hform, if_true]

/-- Skipped bytes are only counted. -/
lemma decodeFrom_skip (read : List Char) (offset : ℕ) (skipped rest : List UInt8) :
    decodeFrom read skipped.length offset (skipped ++ rest) =
      decodeFrom read 0 (offset + skipped.length) rest := by
  induction skipped generalizing offset with
  | nil => simp
  | cons byte skipped ih =>
    rw [List.length_cons, List.cons_append, decodeFrom, ih]
    congr 1
    omega

lemma decodeFrom_encodeChar (read : List Char) (offset : ℕ) (c : Char) (rest : List UInt8) :
    decodeFrom read 0 offset (String.utf8EncodeChar c ++ rest) =
      decodeFrom (c :: read) 0 (offset + (String.utf8EncodeChar c).length) rest := by
  obtain ⟨lead, tail, hform⟩ := List.exists_cons_of_ne_nil (String.utf8EncodeChar_ne_nil (c := c))
  have hfront := front_encodeChar c rest
  rw [hform] at hfront ⊢
  rw [List.cons_append] at hfront ⊢
  rw [decodeFrom, hfront]
  simp only [List.length_cons, Nat.add_sub_cancel]
  rw [decodeFrom_skip]
  congr 1
  omega

/-- The reader takes a text off the front and goes on behind it. -/
lemma decodeFrom_encode (read : List Char) (offset : ℕ) (text : List Char) (rest : List UInt8) :
    decodeFrom read 0 offset (encode text ++ rest) =
      decodeFrom (text.reverse ++ read) 0 (offset + size text) rest := by
  induction text generalizing read offset with
  | nil => simp [encode, size]
  | cons c text ih =>
    have hcons : encode (c :: text) = String.utf8EncodeChar c ++ encode text := by
      simp [encode]
    rw [hcons, List.append_assoc, decodeFrom_encodeChar, ih]
    simp only [size, hcons, List.length_append, List.reverse_cons, List.append_assoc,
      List.singleton_append, Nat.add_assoc]

@[simp] theorem decode_encode (text : List Char) : decode (encode text) = .ok text := by
  have h := decodeFrom_encode [] 0 text []
  simp only [List.append_nil] at h
  rw [decode, h, decodeFrom, List.reverse_reverse]

lemma encode_injective : Function.Injective encode := by
  intro a b h
  have hd : decode (encode a) = decode (encode b) := congrArg decode h
  simpa using hd

@[simp] lemma encode_nil : encode [] = [] := rfl

@[simp] lemma encode_append (a b : List Char) : encode (a ++ b) = encode a ++ encode b := by
  simp [encode]

lemma encode_cons (c : Char) (text : List Char) :
    encode (c :: text) = String.utf8EncodeChar c ++ encode text := by
  simp [encode]

@[simp] lemma encode_eq_nil {text : List Char} : encode text = [] ↔ text = [] := by
  constructor
  · intro h
    exact encode_injective h
  · rintro rfl
    rfl

/-! ## Bytes of ASCII -/

/-- A character of ASCII is written as its code point. -/
lemma encodeChar_of_lt {c : Char} (h : c.toNat < 128) :
    String.utf8EncodeChar c = [UInt8.ofNat c.toNat] := by
  have hc : c.val.toNat = c.toNat := rfl
  simp only [String.utf8EncodeChar, hc]
  rw [if_pos (by omega)]

/-- Every byte of a longer form is at least 128. -/
lemma le_of_mem_encodeChar {c : Char} (h : 128 ≤ c.toNat) {byte : UInt8}
    (hb : byte ∈ String.utf8EncodeChar c) : 128 ≤ byte.toNat := by
  have hc : c.val.toNat = c.toNat := rfl
  simp only [String.utf8EncodeChar, hc] at hb
  rw [if_neg (by omega)] at hb
  split_ifs at hb <;> simp only [List.mem_cons, List.not_mem_nil, or_false] at hb <;>
    rcases hb with rfl | rfl | rfl | rfl <;> simp only [UInt8.toNat_ofNat'] <;> omega

/-- A byte of ASCII stands for its own character only. -/
lemma ofNat_mem_of_mem_encode {text : List Char} {byte : UInt8} (hb : byte ∈ encode text)
    (h : byte.toNat < 128) : Char.ofNat byte.toNat ∈ text := by
  simp only [encode, List.mem_flatMap] at hb
  obtain ⟨c, hc, hmem⟩ := hb
  by_cases hlt : c.toNat < 128
  · rw [encodeChar_of_lt hlt, List.mem_singleton] at hmem
    subst hmem
    have hbyte : (UInt8.ofNat c.toNat).toNat = c.toNat := by
      rw [UInt8.toNat_ofNat']
      omega
    rw [hbyte, Char.ofNat_toNat]
    exact hc
  · have := le_of_mem_encodeChar (by omega) hmem
    omega

/-- A character of ASCII that does not occur in a text has no byte in it. -/
lemma not_mem_encode {text : List Char} {c : Char} (hc : c.toNat < 128) (h : c ∉ text) :
    UInt8.ofNat c.toNat ∉ encode text := by
  intro hb
  have hbyte : (UInt8.ofNat c.toNat).toNat = c.toNat := by
    rw [UInt8.toNat_ofNat']
    omega
  have hmem := ofNat_mem_of_mem_encode hb (by omega)
  rw [hbyte, Char.ofNat_toNat] at hmem
  exact h hmem

/-- A text starts with a character of ASCII if its bytes do. -/
lemma head?_encode_ne {text : List Char} {c : Char} (hc : c.toNat < 128)
    (h : text.head? ≠ some c) : (encode text).head? ≠ some (UInt8.ofNat c.toNat) := by
  cases text with
  | nil => simp
  | cons first text =>
    intro hhead
    have hne : c ∉ [first] := by
      intro hmem
      rw [List.mem_singleton] at hmem
      exact h (congrArg some hmem.symm)
    apply not_mem_encode hc hne
    obtain ⟨lead, tail, hform⟩ :=
      List.exists_cons_of_ne_nil (String.utf8EncodeChar_ne_nil (c := first))
    rw [encode_cons, hform, List.cons_append, List.head?_cons, Option.some.injEq] at hhead
    simp [encode, hform, hhead]

/-- A text ends with a character of ASCII if its bytes do. -/
lemma getLast?_encode_ne {text : List Char} {c : Char} (hc : c.toNat < 128)
    (h : text.getLast? ≠ some c) : (encode text).getLast? ≠ some (UInt8.ofNat c.toNat) := by
  cases text using List.reverseRecOn with
  | nil => simp
  | append_singleton text last =>
    intro hlast
    have hne : c ∉ [last] := by
      intro hmem
      rw [List.mem_singleton] at hmem
      exact h (by rw [List.getLast?_concat, hmem])
    have hform : encode [last] ≠ [] := by simp
    rw [encode_append, List.getLast?_append_of_ne_nil _ hform] at hlast
    exact not_mem_encode hc hne (List.mem_of_getLast? hlast)

/-! ## Taking white space off as bytes -/

section Trim

variable {drops : Char → Bool} {dropsByte : UInt8 → Bool}

/-- A class of bytes that holds all bytes of a form or none is a class of characters. -/
lemma dropWhile_encode (h : ∀ c, ∀ byte ∈ String.utf8EncodeChar c, dropsByte byte = drops c)
    (text : List Char) : (encode text).dropWhile dropsByte = encode (text.dropWhile drops) := by
  induction text with
  | nil => rfl
  | cons c text ih =>
    rw [encode_cons]
    cases hc : drops c with
    | true =>
      have hall : ∀ byte ∈ String.utf8EncodeChar c, dropsByte byte = true := by
        intro byte hbyte
        rw [h c byte hbyte, hc]
      rw [List.dropWhile_append_of_pos hall, ih, List.dropWhile_cons_of_pos hc]
    | false =>
      obtain ⟨lead, tail, hform⟩ :=
        List.exists_cons_of_ne_nil (String.utf8EncodeChar_ne_nil (c := c))
      have hlead : ¬ dropsByte lead = true := by
        rw [h c lead (by simp [hform]), hc]
        decide
      rw [List.dropWhile_cons_of_neg (by simp [hc]), encode_cons, hform, List.cons_append,
        List.dropWhile_cons_of_neg hlead]

lemma rdropWhile_encode (h : ∀ c, ∀ byte ∈ String.utf8EncodeChar c, dropsByte byte = drops c)
    (text : List Char) : (encode text).rdropWhile dropsByte = encode (text.rdropWhile drops) := by
  induction text using List.reverseRecOn with
  | nil => rfl
  | append_singleton text c ih =>
    have hone : encode [c] = String.utf8EncodeChar c := by
      simp [encode]
    rw [encode_append, hone]
    cases hc : drops c with
    | true =>
      have hall : ∀ byte ∈ (String.utf8EncodeChar c).reverse, dropsByte byte = true := by
        intro byte hbyte
        rw [h c byte (List.mem_reverse.mp hbyte), hc]
      rw [List.rdropWhile, List.reverse_append, List.dropWhile_append_of_pos hall,
        List.rdropWhile_concat_pos _ _ _ hc, ← ih]
      rfl
    | false =>
      have hlast : ∀ hne : encode text ++ String.utf8EncodeChar c ≠ [],
          ¬ dropsByte ((encode text ++ String.utf8EncodeChar c).getLast hne) = true := by
        intro hne
        have hform := String.utf8EncodeChar_ne_nil (c := c)
        rw [List.getLast_append_of_right_ne_nil _ _ hform, h c _ (List.getLast_mem hform), hc]
        decide
      rw [List.rdropWhile_eq_self_iff.mpr hlast, List.rdropWhile_concat_neg _ _ _ (by simp [hc]),
        encode_append, hone]

/-- Such bytes may be taken off the ends before the text is read. -/
lemma trimBy_encode (h : ∀ c, ∀ byte ∈ String.utf8EncodeChar c, dropsByte byte = drops c)
    (text : List Char) : Text.trimBy dropsByte (encode text) = encode (Text.trimBy drops text) :=
  (congrArg (List.rdropWhile dropsByte) (dropWhile_encode h text)).trans
    (rdropWhile_encode h _)

end Trim

end Utf8

/-- The pieces that a split leaves hold items of the list that are no separators. -/
lemma mem_of_mem_splitOnP {α : Type} {p : α → Bool} {items piece : List α}
    (h : piece ∈ items.splitOnP p) : ∀ x ∈ piece, x ∈ items ∧ p x = false := by
  induction items generalizing piece with
  | nil =>
    rw [List.splitOnP_nil, List.mem_singleton] at h
    simp [h]
  | cons y items ih =>
    obtain ⟨first, others, hsplit⟩ := List.exists_cons_of_ne_nil (List.splitOnP_ne_nil p items)
    rw [List.splitOnP_cons_eq_if_modifyHead, hsplit] at h
    rw [hsplit] at ih
    intro x hx
    split_ifs at h with hy
    · rcases List.mem_cons.mp h with rfl | h
      · simp at hx
      · obtain ⟨hmem, hp⟩ := ih h x hx
        exact ⟨List.mem_cons_of_mem _ hmem, hp⟩
    · rw [List.modifyHead_cons, List.mem_cons] at h
      rcases h with rfl | h
      · rcases List.mem_cons.mp hx with rfl | hx
        · exact ⟨List.mem_cons_self, by simpa using hy⟩
        · obtain ⟨hmem, hp⟩ := ih List.mem_cons_self x hx
          exact ⟨List.mem_cons_of_mem _ hmem, hp⟩
      · obtain ⟨hmem, hp⟩ := ih (List.mem_cons_of_mem _ h) x hx
        exact ⟨List.mem_cons_of_mem _ hmem, hp⟩

namespace Utf8

/-! ## Cutting text as bytes -/

lemma encode_intercalate (separator : List Char) (texts : List (List Char)) :
    encode (separator.intercalate texts) = (encode separator).intercalate (texts.map encode) := by
  induction texts with
  | nil => rfl
  | cons text texts ih =>
    cases texts with
    | nil => simp
    | cons next texts =>
      simp only [List.map_cons] at ih ⊢
      rw [List.intercalate_cons_cons, List.intercalate_cons_cons, encode_append, encode_append, ih]

/-- A text may be cut at a character of ASCII before or after it is written. -/
lemma splitOn_encode {c : Char} (h : c.toNat < 128) (text : List Char) :
    (encode text).splitOn (UInt8.ofNat c.toNat) = (text.splitOn c).map encode := by
  have hform : encode [c] = [UInt8.ofNat c.toNat] := by
    rw [encode_cons, encodeChar_of_lt h]
    rfl
  have hjoin : encode text = [UInt8.ofNat c.toNat].intercalate ((text.splitOn c).map encode) := by
    rw [← hform, ← encode_intercalate, List.intercalate_splitOn]
  rw [hjoin, List.splitOn_intercalate]
  · intro piece hpiece
    obtain ⟨characters, hcharacters, rfl⟩ := List.mem_map.mp hpiece
    rw [List.splitOn_eq_splitOnP] at hcharacters
    refine not_mem_encode h fun hmem => ?_
    simpa using (mem_of_mem_splitOnP hcharacters c hmem).2
  · simp

end Utf8

end BenchReport
