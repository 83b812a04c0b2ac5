import BenchReport.Proofs.Records

/-!
# Rows with quoted fields

What a row of a text is depends on the quotes in it, and a quoted field may run over any number of
lines.  This module says for all texts which rows they have, without the scanner.

`Record.Spells mode written content` says how a field is written, as far as it has been read: as it
stands, behind a quote, between two quotes, or between two quotes with more text behind them.  The mode
is the one that this leaves the scanner in, so a field is at its end unless the mode is `.quoted`.
Fields make rows (`Record.SpellsRow`), and rows with empty lines between them make texts
(`Record.SpellsRows`).  Each row is told with the number of its line and the number of empty lines
directly ahead of it (`Record.TableRow`).

Two facts tie this to the scanner.  On rows that are spelled it finds these rows, and marks each of
them at the line behind the row before (`Record.SpellsRows.exists_run`).  And every text without
carriage returns is spelled: as rows, or as rows and the front of one more (`Record.spelled`).
-/

namespace BenchReport

namespace Utf8

/-- A character of ASCII has as many bytes in a text as it occurs there. -/
lemma count_encode {c : Char} (hc : c.toNat < 128) (text : List Char) :
    (encode text).count (UInt8.ofNat c.toNat) = text.count c := by
  induction text with
  | nil => rfl
  | cons d text ih =>
    rw [encode_cons, List.count_append, ih, List.count_cons]
    by_cases hd : d = c
    · subst hd
      rw [encodeChar_of_lt hc, List.count_singleton_self, if_pos (beq_self_eq_true d), Nat.add_comm]
    · have hform : encode [d] = String.utf8EncodeChar d := by
        simp [encode]
      have hnone : UInt8.ofNat c.toNat ∉ String.utf8EncodeChar d := by
        rw [← hform]
        exact not_mem_encode hc (by simpa using Ne.symm hd)
      rw [List.count_eq_zero_of_not_mem hnone, if_neg (by simpa using hd), Nat.zero_add, Nat.add_zero]

end Utf8

lemma intercalate_concat {α : Type} (separator : List α) {items : List (List α)} (ne : items ≠ [])
    (last : List α) :
    separator.intercalate (items ++ [last]) = separator.intercalate items ++ (separator ++ last) := by
  induction items with
  | nil => contradiction
  | cons item items ih =>
    cases items with
    | nil => simp [List.intercalate_cons_cons]
    | cons next items =>
      have hrest := ih (by simp)
      rw [List.cons_append] at hrest
      rw [List.cons_append, List.cons_append, List.intercalate_cons_cons, hrest,
        List.intercalate_cons_cons]
      simp

namespace Record

/-! ## Fields -/

/-- Whether a character neither ends a field nor a record. -/
def IsInner (c : Char) : Prop := c ≠ '\t' ∧ c ≠ '\n' ∧ c ≠ '\r'

/-- A text with two quotes for each one. -/
def doubled (text : List Char) : List Char :=
  text.flatMap fun c => if c = '\"' then ['\"', '\"'] else [c]

@[simp] lemma doubled_append (a b : List Char) : doubled (a ++ b) = doubled a ++ doubled b := by
  simp [doubled]

/-- How a field is written, as far as it has been read, and what it holds. -/
inductive Spells : Mode → (written content : List Char) → Prop where
  /-- Nothing. -/
  | empty : Spells .fieldStart [] []
  /-- As it stands. -/
  | bare {text : List Char} (ne : text ≠ []) (inner : ∀ c ∈ text, IsInner c)
      (unquoted : text.head? ≠ some '\"') : Spells .bare text text
  /-- Behind a quote that has not been closed. -/
  | opened (body : List Char) : Spells .quoted ('\"' :: doubled body) body
  /-- Between two quotes. -/
  | closed (body : List Char) : Spells .closing ('\"' :: doubled body ++ ['\"']) body
  /-- Between two quotes, with more text behind them. -/
  | followed (body : List Char) {more : List Char} (ne : more ≠ []) (inner : ∀ c ∈ more, IsInner c)
      (unquoted : more.head? ≠ some '\"') :
      Spells .bare ('\"' :: doubled body ++ '\"' :: more) (body ++ more)

/-- A field goes on with every character that does not end it. -/
lemma Spells.snoc {mode : Mode} {written content : List Char} (h : Spells mode written content)
    {c : Char} (hc : mode = .quoted ∨ IsInner c) :
    ∃ mode' content', Spells mode' (written ++ [c]) content' := by
  have hinner : ∀ {text : List Char}, (∀ d ∈ text, IsInner d) → IsInner c →
      ∀ d ∈ text ++ [c], IsInner d := by
    intro text htext hc d hd
    rcases List.mem_append.mp hd with hd | hd
    · exact htext d hd
    · exact List.mem_singleton.mp hd ▸ hc
  have hsingle : IsInner c → ∀ d ∈ [c], IsInner d := fun hc d hd => List.mem_singleton.mp hd ▸ hc
  cases h with
  | empty =>
    by_cases hquote : c = '\"'
    · subst hquote
      exact ⟨_, _, .opened []⟩
    · exact ⟨_, _, .bare (by simp) (hsingle (hc.resolve_left (by simp))) (by simpa using hquote)⟩
  | bare ne inner unquoted =>
    exact ⟨_, _, .bare (by simp) (hinner inner (hc.resolve_left (by simp)))
      (by rwa [List.head?_append_of_ne_nil _ ne])⟩
  | opened =>
    by_cases hquote : c = '\"'
    · subst hquote
      exact ⟨_, _, .closed content⟩
    · have hwritten : '\"' :: doubled content ++ [c] = '\"' :: doubled (content ++ [c]) := by
        simp [doubled, hquote]
      rw [hwritten]
      exact ⟨_, _, .opened _⟩
  | closed =>
    by_cases hquote : c = '\"'
    · subst hquote
      -- the quote is doubled, so the field has not been closed
      have hwritten : '\"' :: doubled content ++ ['\"'] ++ ['\"'] =
          '\"' :: doubled (content ++ ['\"']) := by
        simp [doubled]
      rw [hwritten]
      exact ⟨_, _, .opened _⟩
    · have hmore : Spells .bare ('\"' :: doubled content ++ '\"' :: [c]) (content ++ [c]) :=
        .followed content (by simp) (hsingle (hc.resolve_left (by simp))) (by simpa using hquote)
      exact ⟨_, _, by simpa using hmore⟩
  | followed body ne inner unquoted =>
    rename_i more
    have hmore : Spells .bare ('\"' :: doubled body ++ '\"' :: (more ++ [c])) (body ++ (more ++ [c])) :=
      .followed body (by simp) (hinner inner (hc.resolve_left (by simp)))
        (by rwa [List.head?_append_of_ne_nil _ ne])
    exact ⟨_, _, by simpa using hmore⟩

/-- A field at its end can be followed by a tab or a line end. -/
lemma Spells.held {mode : Mode} {written content : List Char} (h : Spells mode written content)
    (hmode : mode ≠ .quoted) : Scanner.Held mode (Utf8.encode content) := by
  cases h with
  | empty => exact .inr (.inr ⟨rfl, rfl⟩)
  | bare => exact .inl rfl
  | opened => contradiction
  | closed => exact .inr (.inl rfl)
  | followed => exact .inl rfl

/-- A field does not begin with a line end. -/
lemma Spells.head_ne {mode : Mode} {written content : List Char} (h : Spells mode written content) :
    written.head? ≠ some '\n' ∧ written.head? ≠ some '\r' := by
  cases h with
  | bare ne inner unquoted =>
    exact ⟨fun hc => (inner _ (List.mem_of_mem_head? hc)).2.1 rfl,
      fun hc => (inner _ (List.mem_of_mem_head? hc)).2.2 rfl⟩
  | _ => simp

/-- Behind a line end a field is in an open quote. -/
lemma Spells.getLast?_ne {mode : Mode} {written content : List Char}
    (h : Spells mode written content) (hmode : mode ≠ .quoted) : written.getLast? ≠ some '\n' := by
  cases h with
  | empty => simp
  | bare ne inner unquoted => exact fun hc => (inner _ (List.mem_of_getLast? hc)).2.1 rfl
  | opened => contradiction
  | closed =>
    rw [List.getLast?_concat]
    simp
  | followed body ne inner unquoted =>
    rw [List.getLast?_append_of_ne_nil _ (by simp)]
    intro hc
    rw [List.getLast?_cons_of_ne_nil ne] at hc
    exact (inner _ (List.mem_of_getLast? hc)).2.1 rfl

/-! ## Rows -/

/-- How a row is written, as far as it has been read: the fields ahead of the last one, and what the
last one holds. -/
inductive SpellsRow : Mode → (written : List Char) → (before : List (List Char)) →
    (last : List Char) → Prop where
  | first {mode : Mode} {written content : List Char} (field : Spells mode written content) :
      SpellsRow mode written [] content
  | next {mode mode' : Mode} {written written' last content : List Char} {before : List (List Char)}
      (row : SpellsRow mode written before last) (ends : mode ≠ .quoted)
      (field : Spells mode' written' content) :
      SpellsRow mode' (written ++ '\t' :: written') (before ++ [last]) content

variable {mode : Mode} {written last : List Char} {before : List (List Char)}

/-- Behind a line end a row is in an open quote. -/
lemma SpellsRow.getLast?_ne (h : SpellsRow mode written before last) (hmode : mode ≠ .quoted) :
    written.getLast? ≠ some '\n' := by
  cases h with
  | first field => exact field.getLast?_ne hmode
  | @next _ _ _ written' _ _ _ row ends field =>
    rw [List.getLast?_append_of_ne_nil _ (by simp)]
    by_cases hne : written' = []
    · simp [hne]
    · rw [List.getLast?_cons_of_ne_nil hne]
      exact field.getLast?_ne hmode

/-- A row goes on with every character but a line end, and with that in an open quote. -/
lemma SpellsRow.snoc (h : SpellsRow mode written before last) {c : Char}
    (hc : mode = .quoted ∨ (c ≠ '\n' ∧ c ≠ '\r')) :
    ∃ mode' before' last', SpellsRow mode' (written ++ [c]) before' last' := by
  by_cases hnext : mode ≠ .quoted ∧ c = '\t'
  · obtain ⟨hmode, rfl⟩ := hnext
    exact ⟨_, _, _, .next h hmode .empty⟩
  · have hinner : mode = .quoted ∨ IsInner c := by
      rcases hc with hmode | hc
      · exact .inl hmode
      · by_cases hmode : mode = .quoted
        · exact .inl hmode
        · exact .inr ⟨fun htab => hnext ⟨hmode, htab⟩, hc⟩
    cases h with
    | first field =>
      obtain ⟨mode', content, hfield⟩ := field.snoc hinner
      exact ⟨mode', [], content, .first hfield⟩
    | next row ends field =>
      obtain ⟨mode', content, hfield⟩ := field.snoc hinner
      exact ⟨mode', _, content, by simpa using SpellsRow.next row ends hfield⟩

lemma SpellsRow.mode_ne (h : SpellsRow mode written before last) : mode ≠ .between := by
  cases h with
  | first field => cases field <;> simp
  | next row ends field => cases field <;> simp

lemma SpellsRow.held (h : SpellsRow mode written before last) (hmode : mode ≠ .quoted) :
    Scanner.Held mode (Utf8.encode last) := by
  cases h with
  | first field => exact field.held hmode
  | next row ends field => exact field.held hmode

/-- A row does not begin with a line end. -/
lemma SpellsRow.head_ne (h : SpellsRow mode written before last) :
    written.head? ≠ some '\n' ∧ written.head? ≠ some '\r' := by
  induction h with
  | first field => exact field.head_ne
  | @next _ _ written written' _ _ _ row ends field ih =>
    cases written with
    | nil => simp
    | cons c written => simpa using ih

/-- A line without quotes ahead of its fields is a row of its fields. -/
lemma exists_spellsRow {before : List (List Char)} {last : List Char}
    (inner : ∀ cell ∈ before ++ [last], ∀ c ∈ cell, IsInner c)
    (unquoted : ∀ cell ∈ before ++ [last], cell.head? ≠ some '\"') :
    ∃ mode, mode ≠ .quoted ∧ SpellsRow mode (['\t'].intercalate (before ++ [last])) before last := by
  have hfield : ∀ cell ∈ before ++ [last], ∃ mode, mode ≠ .quoted ∧ Spells mode cell cell := by
    intro cell hcell
    by_cases hne : cell = []
    · subst hne
      exact ⟨.fieldStart, by simp, .empty⟩
    · exact ⟨.bare, by simp, .bare hne (inner cell hcell) (unquoted cell hcell)⟩
  clear inner unquoted
  induction before using List.reverseRecOn generalizing last with
  | nil =>
    obtain ⟨mode, hmode, field⟩ := hfield last (by simp)
    exact ⟨mode, hmode, by simpa using SpellsRow.first field⟩
  | append_singleton before cell ih =>
    obtain ⟨mode, hmode, row⟩ := @ih cell fun other hother =>
      hfield other (List.mem_append_left _ hother)
    obtain ⟨mode', hmode', field⟩ := hfield last (by simp)
    refine ⟨mode', hmode', ?_⟩
    rw [intercalate_concat _ (by simp)]
    exact row.next hmode field

/-! ## Texts -/

/-- A row of a text: its fields, the number of the line that it begins in, and the number of empty
lines directly ahead of it. -/
structure TableRow where
  fields : List (List Char)
  line : ℕ
  skipped : ℕ

/-- A text of complete rows, and the number of empty lines behind the last one. -/
inductive SpellsRows : (text : List Char) → (skipped : ℕ) → List TableRow → Prop where
  | nil : SpellsRows [] 0 []
  | blank {text : List Char} {skipped : ℕ} {rows : List TableRow} (h : SpellsRows text skipped rows) :
      SpellsRows (text ++ ['\n']) (skipped + 1) rows
  | row {text written last : List Char} {skipped : ℕ} {rows : List TableRow} {mode : Mode}
      {before : List (List Char)} (h : SpellsRows text skipped rows)
      (row : SpellsRow mode written before last) (ne : written ≠ []) (ends : mode ≠ .quoted) :
      SpellsRows (text ++ (written ++ ['\n'])) 0
        (rows ++ [⟨before ++ [last], text.count '\n' + 1, skipped⟩])

/-- The rows of a text, of which the end of the text may end the last one. -/
inductive SpellsTable : (text : List Char) → List TableRow → Prop where
  | complete {text : List Char} {skipped : ℕ} {rows : List TableRow}
      (h : SpellsRows text skipped rows) : SpellsTable text rows
  | broken {text written last : List Char} {skipped : ℕ} {rows : List TableRow} {mode : Mode}
      {before : List (List Char)} (h : SpellsRows text skipped rows)
      (row : SpellsRow mode written before last) (ne : written ≠ []) :
      SpellsTable (text ++ written)
        (rows ++ [⟨before ++ [last], text.count '\n' + 1, skipped⟩])

/-- **Every text is spelled.**  A text without carriage returns is a text of complete rows, or one with
the front of one more row behind it. -/
theorem spelled {text : List Char} (hreturn : '\r' ∉ text) :
    (∃ skipped rows, SpellsRows text skipped rows) ∨
      ∃ front written skipped rows mode before last, text = front ++ written ∧ written ≠ [] ∧
        SpellsRows front skipped rows ∧ SpellsRow mode written before last := by
  induction text using List.reverseRecOn with
  | nil => exact .inl ⟨0, [], .nil⟩
  | append_singleton text c ih =>
    obtain ⟨htext, hc⟩ : '\r' ∉ text ∧ c ≠ '\r' := by simpa [eq_comm] using hreturn
    rcases ih htext with ⟨skipped, rows, hrows⟩ |
      ⟨front, written, skipped, rows, mode, before, last, rfl, hne, hrows, hrow⟩
    · by_cases hfeed : c = '\n'
      · subst hfeed
        exact .inl ⟨_, _, hrows.blank⟩
      · obtain ⟨mode, before, last, hrow⟩ := (SpellsRow.first .empty).snoc (.inr ⟨hfeed, hc⟩)
        exact .inr ⟨text, [c], skipped, rows, mode, before, last, rfl, by simp, hrows, hrow⟩
    · by_cases hends : mode ≠ .quoted ∧ c = '\n'
      · obtain ⟨hmode, rfl⟩ := hends
        have hnext := hrows.row hrow hne hmode
        rw [← List.append_assoc] at hnext
        exact .inl ⟨_, _, hnext⟩
      · have hon : mode = .quoted ∨ (c ≠ '\n' ∧ c ≠ '\r') := by
          by_cases hmode : mode = .quoted
          · exact .inl hmode
          · exact .inr ⟨fun hfeed => hends ⟨hmode, hfeed⟩, hc⟩
        obtain ⟨mode', before', last', hrow'⟩ := hrow.snoc hon
        exact .inr ⟨front, written ++ [c], skipped, rows, mode', before', last', by simp, by simp, hrows,
          hrow'⟩

/-- Every text without carriage returns has rows. -/
theorem exists_spellsTable {text : List Char} (hreturn : '\r' ∉ text) :
    ∃ rows, SpellsTable text rows := by
  rcases spelled hreturn with ⟨skipped, rows, hrows⟩ |
    ⟨front, written, skipped, rows, mode, before, last, rfl, hne, hrows, hrow⟩
  · exact ⟨rows, .complete hrows⟩
  · exact ⟨_, .broken hrows hrow hne⟩

/-! ## What the scanner makes of them -/

lemma isPlain_of_isInner {text : List Char} (inner : ∀ c ∈ text, IsInner c) :
    ∀ byte ∈ Utf8.encode text, isPlain byte = true := by
  have hne : ∀ c : Char, c.toNat < 128 → c ∉ text → ∀ byte ∈ Utf8.encode text,
      byte ≠ UInt8.ofNat c.toNat := by
    rintro c hc hmem byte hbyte rfl
    exact Utf8.not_mem_encode hc hmem hbyte
  intro byte hbyte
  have h1 : byte ≠ tab := hne '\t' (by decide) (fun h => (inner _ h).1 rfl) byte hbyte
  have h2 : byte ≠ lineFeed := hne '\n' (by decide) (fun h => (inner _ h).2.1 rfl) byte hbyte
  have h3 : byte ≠ carriageReturn := hne '\r' (by decide) (fun h => (inner _ h).2.2 rfl) byte hbyte
  simp [isPlain, isEnd, h1, h2, h3]

namespace Scanner

/-- Ahead of a field or behind its second quote, text stands for itself. -/
lemma run_text {start here : Mark} {mode : Mode} (hmode : mode = .fieldStart ∨ mode = .closing)
    (field : List UInt8) (fields : List (List UInt8)) {text : List Char} (ne : text ≠ [])
    (inner : ∀ c ∈ text, IsInner c) (unquoted : text.head? ≠ some '\"') (rest : List UInt8) :
    (Scanner.mk mode start here field fields).run (Utf8.encode text ++ rest) =
      (Scanner.mk .bare start (here.past (Utf8.encode text)) ((Utf8.encode text).reverse ++ field)
        fields).run rest := by
  have plain := isPlain_of_isInner inner
  have hquote : (Utf8.encode text).head? ≠ some quote := Utf8.head?_encode_ne (by decide) unquoted
  obtain ⟨byte, bytes, hform⟩ := List.exists_cons_of_ne_nil (mt Utf8.encode_eq_nil.mp ne)
  rw [hform] at plain hquote ⊢
  obtain ⟨hbyte, hbytes⟩ := List.forall_mem_cons.mp plain
  simp only [isPlain, Bool.and_eq_true, bne_iff_ne, ne_eq, Bool.not_eq_true',
    ← beq_eq_false_iff_ne] at hbyte
  have hquote : (byte == quote) = false := by simpa using hquote
  have hfirst : (Scanner.mk mode start here field fields).run (byte :: (bytes ++ rest)) =
      (Scanner.mk .bare start (here.past [byte]) (byte :: field) fields).run (bytes ++ rest) := by
    rw [run]
    rcases hmode with rfl | rfl <;>
      simp only [step, advance_eq, startField, take, hbyte.1, hbyte.2, hquote, Bool.false_eq_true,
        if_false]
  rw [List.cons_append, hfirst, run_bare _ _ _ _ hbytes, ← Mark.past_append]
  simp

/-- Behind a quote, two quotes stand for one, and everything else for itself. -/
lemma run_doubled (start here : Mark) (field : List UInt8) (fields : List (List UInt8))
    (body : List Char) (rest : List UInt8) :
    (Scanner.mk .quoted start here field fields).run (Utf8.encode (doubled body) ++ rest) =
      (Scanner.mk .quoted start (here.past (Utf8.encode (doubled body)))
        ((Utf8.encode body).reverse ++ field) fields).run rest := by
  induction body generalizing here field with
  | nil => simp [doubled, Mark.past_nil]
  | cons c body ih =>
    have hform : doubled (c :: body) = doubled [c] ++ doubled body := doubled_append [c] body
    have hbody : Utf8.encode (c :: body) = Utf8.encode [c] ++ Utf8.encode body :=
      Utf8.encode_append [c] body
    have hfirst : ∀ rest, (Scanner.mk .quoted start here field fields).run
        (Utf8.encode (doubled [c]) ++ rest) = (Scanner.mk .quoted start
          (here.past (Utf8.encode (doubled [c]))) ((Utf8.encode [c]).reverse ++ field) fields).run
            rest := by
      intro rest
      by_cases hquote : c = '\"'
      · subst hquote
        have hpair : Utf8.encode (doubled ['\"']) = [quote, quote] := by decide
        have hsingle : Utf8.encode ['\"'] = [quote] := by decide
        rw [hpair, hsingle, List.cons_append, run]
        simp only [step, advance_eq, beq_self_eq_true, if_true]
        rw [List.cons_append, run]
        simp only [step, advance_eq, take, beq_self_eq_true, if_true, ← Mark.past_append]
        simp
      · have hsame : doubled [c] = [c] := by simp [doubled, hquote]
        have hfree : quote ∉ Utf8.encode [c] :=
          Utf8.not_mem_encode (c := '\"') (by decide) (by simpa using Ne.symm hquote)
        rw [hsame, run_quoted _ _ _ _ hfree]
    rw [hform, Utf8.encode_append, List.append_assoc, hfirst, ih, ← Mark.past_append, hbody]
    simp

/-- The quote ahead of a field opens it. -/
lemma run_opened (start here : Mark) (fields : List (List UInt8)) (body : List Char)
    (rest : List UInt8) :
    (Scanner.mk .fieldStart start here [] fields).run
        (Utf8.encode ('\"' :: doubled body) ++ rest) =
      (Scanner.mk .quoted start (here.past (Utf8.encode ('\"' :: doubled body)))
        (Utf8.encode body).reverse fields).run rest := by
  have hform : Utf8.encode ('\"' :: doubled body) = [quote] ++ Utf8.encode (doubled body) :=
    Utf8.encode_append ['\"'] _
  have hend : isEnd quote = false := by decide
  rw [hform, List.append_assoc, List.singleton_append, run]
  simp only [step, advance_eq, startField, hend, beq_self_eq_true, if_true, Bool.false_eq_true, if_false]
  rw [run_doubled, ← Mark.past_append, List.append_nil]

/-- The second quote of a field closes it. -/
lemma run_closed (start here : Mark) (fields : List (List UInt8)) (body : List Char)
    (rest : List UInt8) :
    (Scanner.mk .fieldStart start here [] fields).run
        (Utf8.encode ('\"' :: doubled body ++ ['\"']) ++ rest) =
      (Scanner.mk .closing start (here.past (Utf8.encode ('\"' :: doubled body ++ ['\"'])))
        (Utf8.encode body).reverse fields).run rest := by
  have hquote : Utf8.encode ['\"'] = [quote] := by decide
  rw [Utf8.encode_append, hquote, List.append_assoc, run_opened, List.singleton_append, run]
  simp only [step, advance_eq, beq_self_eq_true, if_true, ← Mark.past_append]

/-- The scanner reads a field as it is spelled. -/
lemma run_spells {mode : Mode} {written content : List Char} (h : Spells mode written content)
    (start here : Mark) (fields : List (List UInt8)) (rest : List UInt8) :
    (Scanner.mk .fieldStart start here [] fields).run (Utf8.encode written ++ rest) =
      (Scanner.mk mode start (here.past (Utf8.encode written)) (Utf8.encode content).reverse
        fields).run rest := by
  cases h with
  | empty => simp [Mark.past_nil]
  | bare ne inner unquoted => simpa using run_text (.inl rfl) [] fields ne inner unquoted rest
  | opened => exact run_opened start here fields content rest
  | closed => exact run_closed start here fields content rest
  | @followed body more ne inner unquoted =>
    have hform : '\"' :: doubled body ++ '\"' :: more = '\"' :: doubled body ++ ['\"'] ++ more := by simp
    rw [hform, Utf8.encode_append, List.append_assoc, run_closed,
      run_text (.inr rfl) _ fields ne inner unquoted, ← Mark.past_append, Utf8.encode_append]
    simp

/-- The scanner reads a row as it is spelled. -/
lemma run_spellsRow (h : SpellsRow mode written before last) (start here : Mark) (rest : List UInt8) :
    (Scanner.mk .fieldStart start here [] []).run (Utf8.encode written ++ rest) =
      (Scanner.mk mode start (here.past (Utf8.encode written)) (Utf8.encode last).reverse
        (before.map Utf8.encode).reverse).run rest := by
  induction h generalizing rest with
  | first field => exact run_spells field start here [] rest
  | @next mode mode' written written' last content before row ends field ih =>
    have hform : Utf8.encode (written ++ '\t' :: written') =
        Utf8.encode written ++ ([tab] ++ Utf8.encode written') := by
      rw [Utf8.encode_append]
      exact congrArg _ (Utf8.encode_append ['\t'] written')
    rw [hform, List.append_assoc, ih, List.append_assoc, List.singleton_append,
      run_tab (row.held ends), run_spells field, ← Mark.past_append, ← Mark.past_append]
    simp

/-- Ahead of a record, too. -/
lemma run_fresh_spellsRow (h : SpellsRow mode written before last) (ne : written ≠ [])
    (start here : Mark) (rest : List UInt8) :
    (fresh start here).run (Utf8.encode written ++ rest) =
      (Scanner.mk mode start (here.past (Utf8.encode written)) (Utf8.encode last).reverse
        (before.map Utf8.encode).reverse).run rest := by
  obtain ⟨byte, bytes, hform⟩ := List.exists_cons_of_ne_nil (mt Utf8.encode_eq_nil.mp ne)
  have hfeed : (Utf8.encode written).head? ≠ some lineFeed :=
    Utf8.head?_encode_ne (by decide) h.head_ne.1
  have hreturn : (Utf8.encode written).head? ≠ some carriageReturn :=
    Utf8.head?_encode_ne (by decide) h.head_ne.2
  have hend : isEnd byte = false := by
    rw [hform] at hfeed hreturn
    simpa [isEnd] using And.intro hfeed hreturn
  rw [← run_spellsRow h, hform, List.cons_append, run_fresh_of_not_end _ _ hend]

end Scanner

/-- A raw record is a row of a text, and is marked at the line behind the row before. -/
structure TableRow.Matches (row : TableRow) (raw : Raw) : Prop where
  fields : raw.fields = row.fields.map Utf8.encode
  line : raw.start.line + row.skipped = row.line

/-- A row at its end, where the next row begins. -/
lemma SpellsRow.ending (h : SpellsRow mode written before last) (hmode : mode ≠ .quoted)
    (start here : Mark) :
    (Scanner.mk mode start here (Utf8.encode last).reverse (before.map Utf8.encode).reverse).Ending
      ⟨start, (before ++ [last]).map Utf8.encode⟩ here := by
  simpa using (h.held hmode).ending start here (before.map Utf8.encode).reverse

/-- **The rows of a text are its records.**  The scanner is then ahead of a record, and as many lines
behind its mark as there are empty lines. -/
theorem SpellsRows.exists_run {text : List Char} {skipped : ℕ} {rows : List TableRow}
    (h : SpellsRows text skipped rows) (byte : ℕ) :
    ∃ raws start here, List.Forall₂ TableRow.Matches rows raws ∧
      start.line + skipped = text.count '\n' + 1 ∧ here.line = text.count '\n' + 1 ∧
      ∀ rest, (Scanner.initial byte).run (Utf8.encode text ++ rest) =
        raws ++ (Scanner.fresh start here).run rest := by
  have hform : Utf8.encode ['\n'] = [lineFeed] := by decide
  have hend : isEnd lineFeed = true := by decide
  induction h with
  | nil => exact ⟨[], ⟨0, 1, 0⟩, ⟨0, 1, byte⟩, .nil, rfl, rfl, fun _ => rfl⟩
  | @blank text skipped rows h ih =>
    obtain ⟨raws, start, here, hraws, hstart, hhere, hrun⟩ := ih
    refine ⟨raws, start, here.past [lineFeed], hraws, ?_, ?_, fun rest => ?_⟩
    · simp [← Nat.add_assoc, hstart]
    · simp [Mark.past, hhere]
    · rw [Utf8.encode_append, hform, List.append_assoc, hrun, List.singleton_append,
        Scanner.run_fresh_of_end _ _ hend]
  | @row text written last skipped rows mode before h row ne ends ih =>
    obtain ⟨raws, start, here, hraws, hstart, hhere, hrun⟩ := ih
    have hending := row.ending ends start (here.past (Utf8.encode written))
    have hcount : (Utf8.encode written).count lineFeed = written.count '\n' :=
      Utf8.count_encode (c := '\n') (by decide) written
    have hmatches : TableRow.Matches ⟨before ++ [last], text.count '\n' + 1, skipped⟩
        ⟨start, (before ++ [last]).map Utf8.encode⟩ := ⟨rfl, hstart⟩
    let place := ((here.past (Utf8.encode written)).past [lineFeed]).next
    have hplace : place.line = (text ++ (written ++ ['\n'])).count '\n' + 1 := by
      simp [place, Mark.past, Mark.next, hhere, hcount]
      omega
    refine ⟨raws ++ [_], place, place, List.rel_append hraws (.cons hmatches .nil), hplace, hplace,
      fun rest => ?_⟩
    rw [Utf8.encode_append, Utf8.encode_append, hform, List.append_assoc, hrun, List.append_assoc,
      Scanner.run_fresh_spellsRow row ne, List.singleton_append, hending.run_end hend,
      List.append_assoc, List.singleton_append]

/-- **The rows of a text are its records**, also where the text ends in a row. -/
theorem SpellsTable.matches {text : List Char} {rows : List TableRow} (h : SpellsTable text rows)
    (byte : ℕ) :
    List.Forall₂ TableRow.Matches rows ((Scanner.initial byte).run (Utf8.encode text)) := by
  cases h with
  | complete h =>
    obtain ⟨raws, start, here, hraws, -, -, hrun⟩ := h.exists_run byte
    have hall := hrun []
    rw [List.append_nil] at hall
    rw [hall]
    simpa [Scanner.run, Scanner.fresh, Scanner.finish] using hraws
  | @broken text written last skipped rows mode before h row ne =>
    obtain ⟨raws, start, here, hraws, hstart, -, hrun⟩ := h.exists_run byte
    have hlast := Scanner.run_fresh_spellsRow row ne start here []
    have hend : ∀ s : Scanner, s.mode = mode → s.run [] = [s.raw] := by
      intro s hs
      rw [Scanner.run, Scanner.finish, hs]
      split
      · exact absurd rfl row.mode_ne
      · rfl
    rw [List.append_nil, hend _ rfl] at hlast
    rw [Utf8.encode_append, hrun, hlast]
    refine List.rel_append hraws (.cons ⟨?_, hstart⟩ .nil)
    simp [Scanner.raw]

end Record
end BenchReport
