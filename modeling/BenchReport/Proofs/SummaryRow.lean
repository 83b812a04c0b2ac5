import BenchReport.Log.Summary
import BenchReport.Proofs.Records
import BenchReport.Proofs.Scans

/-!
# Which row of a log its sample is taken from

A log is looked at as lines of text, and its summary row is the first line whose first cell, without
the white space around it, is the sentinel (`Log.IsSentinel`).  The reader does not see lines: it
cuts bytes into records, takes white space of ASCII off them as bytes, reads them as text and takes
off the rest of the white space.  Here the two views are brought together, for logs without quotes.

`Log.Found path columns bytes result` says what the reader makes of bytes from a place where it is
ahead of a record.  It does not depend on where that place is, and it is closed under the ways in
which a log goes on in front of such bytes: a line end (`Found.lineEnd`), or a line that is no
summary row with its line end (`Found.line`).  A summary row settles the result whatever comes
behind it (`Found.summary`), so behind it nothing has to be text.

`SummaryLog` is a log as far as it matters: complete lines, the summary row, and any bytes behind its
end.
-/

namespace BenchReport

/-! ## White space at the ends -/

namespace Text

variable {α : Type} {p q : α → Bool}

lemma rdropWhile_cons (x : α) (items : List α) :
    (x :: items).rdropWhile q =
      if items.rdropWhile q = [] ∧ q x = true then [] else x :: items.rdropWhile q := by
  have hnil : (items.reverse.dropWhile q).isEmpty = true ↔ items.rdropWhile q = [] := by
    rw [List.isEmpty_iff, List.rdropWhile, List.reverse_eq_nil_iff]
  rw [List.rdropWhile, List.reverse_cons, List.dropWhile_append]
  by_cases h : items.rdropWhile q = []
  · rw [if_pos (hnil.mpr h)]
    cases hx : q x <;> simp [h, hx]
  · rw [if_neg (mt hnil.mp h), if_neg (by simp [h])]
    simp [List.rdropWhile]

/-- It does not matter which end is trimmed first. -/
lemma dropWhile_rdropWhile (items : List α) :
    (items.rdropWhile q).dropWhile p = (items.dropWhile p).rdropWhile q := by
  induction items with
  | nil => rfl
  | cons x items ih =>
    rw [rdropWhile_cons]
    cases hx : p x with
    | true =>
      rw [List.dropWhile_cons_of_pos hx, ← ih]
      split_ifs with h
      · rw [h.1]
      · rw [List.dropWhile_cons_of_pos hx]
    | false =>
      rw [List.dropWhile_cons_of_neg (by simp [hx]), rdropWhile_cons]
      split_ifs with h
      · rfl
      · rw [List.dropWhile_cons_of_neg (by simp [hx])]

lemma dropWhile_dropWhile (h : ∀ x, q x = true → p x = true) (items : List α) :
    (items.dropWhile q).dropWhile p = items.dropWhile p := by
  induction items with
  | nil => rfl
  | cons x items ih =>
    cases hx : q x with
    | true => rw [List.dropWhile_cons_of_pos hx, ih, List.dropWhile_cons_of_pos (h x hx)]
    | false => rw [List.dropWhile_cons_of_neg (by simp [hx])]

lemma rdropWhile_rdropWhile (h : ∀ x, q x = true → p x = true) (items : List α) :
    (items.rdropWhile q).rdropWhile p = items.rdropWhile p := by
  simp only [List.rdropWhile, List.reverse_reverse, dropWhile_dropWhile h]

/-- Trimming a smaller class first changes nothing. -/
lemma trimBy_trimBy (h : ∀ x, q x = true → p x = true) (items : List α) :
    trimBy p (trimBy q items) = trimBy p items :=
  calc
    trimBy p (trimBy q items)
      = (((items.dropWhile q).rdropWhile q).dropWhile p).rdropWhile p := rfl
    _ = (((items.dropWhile q).dropWhile p).rdropWhile q).rdropWhile p := by
        rw [dropWhile_rdropWhile]
    _ = (items.dropWhile p).rdropWhile p := by
        rw [dropWhile_dropWhile h, rdropWhile_rdropWhile h]
    _ = trimBy p items := rfl

end Text

namespace Record

/-- Whether a character is white space of ASCII. -/
def isShortBlank (c : Char) : Bool := c.toNat < 128 && isAsciiBlank (UInt8.ofNat c.toNat)

lemma isAsciiBlank_of_mem_encodeChar (c : Char) :
    ∀ byte ∈ String.utf8EncodeChar c, isAsciiBlank byte = isShortBlank c := by
  intro byte hbyte
  by_cases hc : c.toNat < 128
  · rw [Utf8.encodeChar_of_lt hc, List.mem_singleton] at hbyte
    simp [isShortBlank, hc, hbyte]
  · have hle := Utf8.le_of_mem_encodeChar (by omega) hbyte
    have hblank : isAsciiBlank byte = false := by
      simp only [isAsciiBlank, Bool.or_eq_false_iff, beq_eq_false_iff_ne]
      refine ⟨⟨⟨⟨?_, ?_⟩, ?_⟩, ?_⟩, ?_⟩ <;>
      · rintro rfl
        exact absurd hle (by decide)
    simp [isShortBlank, hc, hblank]

lemma isBlank_of_isShortBlank (c : Char) (h : isShortBlank c = true) : Text.isBlank c = true := by
  simp only [isShortBlank, isAsciiBlank, Bool.and_eq_true, Bool.or_eq_true, decide_eq_true_eq,
    beq_iff_eq, ← UInt8.toNat_inj, UInt8.toNat_ofNat'] at h
  simp only [Text.isBlank, Bool.or_eq_true, Bool.and_eq_true, decide_eq_true_eq, beq_iff_eq]
  simp only [UInt8.reduceToNat] at h
  omega

/-- A field that is text loses all its white space, whatever of it is taken off as bytes. -/
lemma fieldText_dropped_encode (text : List Char) :
    fieldText .dropped (Utf8.encode text) = .ok (String.ofList (Text.trimBy Text.isBlank text)) := by
  rw [fieldText, Utf8.trimBy_encode isAsciiBlank_of_mem_encodeChar, Utf8.decode_encode]
  simp only [Except.map, Text.trimBy_trimBy isBlank_of_isShortBlank]

lemma fieldTexts_dropped_encode (start : Mark) (index : ℕ) (texts : List (List Char)) :
    fieldTexts .dropped start index (texts.map Utf8.encode) =
      .ok (texts.map fun text => String.ofList (Text.trimBy Text.isBlank text)) := by
  induction texts generalizing index with
  | nil => rfl
  | cons text texts ih =>
    rw [List.map_cons, fieldTexts, fieldText_dropped_encode]
    simp only [ih, Except.map, List.map_cons]

end Record

namespace Log

section Outcome

variable {ε α β : Type} {f : α → β} {outcome : Except ε α}

lemma map_eq_ok {b : β} : outcome.map f = .ok b ↔ ∃ a, outcome = .ok a ∧ f a = b := by
  cases outcome <;> simp [Except.map]

lemma map_eq_error {cause : ε} : outcome.map f = .error cause ↔ outcome = .error cause := by
  cases outcome <;> simp [Except.map]

end Outcome

/-! ## Rows and lines -/

/-- The texts of the fields of a row, without the white space around them. -/
def texts (fields : List (List Char)) : List String :=
  fields.map fun field => String.ofList (Text.trimBy Text.isBlank field)

/-- Whether the first field of a row is the sentinel. -/
def IsSentinelRow (fields : List (List Char)) : Prop := (texts fields).head? = some sentinel

instance : DecidablePred IsSentinelRow := fun fields =>
  inferInstanceAs (Decidable ((texts fields).head? = some sentinel))

/-- The texts of the cells of a line, without the white space around them. -/
def cells (line : List Char) : List String :=
  (line.splitOn '\t').map fun cell => String.ofList (Text.trimBy Text.isBlank cell)

/-- Whether the first cell of a line is the sentinel. -/
def IsSentinel (line : List Char) : Prop := (cells line).head? = some sentinel

instance : DecidablePred IsSentinel := fun line =>
  inferInstanceAs (Decidable ((cells line).head? = some sentinel))

/-- Whether a text is a single line without quotes. -/
def IsPlain (line : List Char) : Prop := '\n' ∉ line ∧ '\r' ∉ line ∧ '\"' ∉ line

instance : DecidablePred IsPlain := fun line =>
  inferInstanceAs (Decidable ('\n' ∉ line ∧ '\r' ∉ line ∧ '\"' ∉ line))

lemma joinTabs_map_encode (texts : List (List Char)) :
    Record.joinTabs (texts.map Utf8.encode) = Utf8.encode (['\t'].intercalate texts) := by
  have htab : Utf8.encode ['\t'] = [Record.tab] := by decide
  rw [Record.joinTabs, Utf8.encode_intercalate, htab]

/-- The pieces of a line between its tabs are written as they are. -/
lemma forall₂_cell_splitOn {line : List Char} (plain : IsPlain line) :
    List.Forall₂ Record.Cell ((line.splitOn '\t').map Utf8.encode)
      ((line.splitOn '\t').map Utf8.encode) := by
  obtain ⟨hfeed, hreturn, hquote⟩ := plain
  rw [List.forall₂_map_left_iff, List.forall₂_map_right_iff, List.forall₂_same]
  intro piece hpiece
  rw [List.splitOn_eq_splitOnP] at hpiece
  have hmem := mem_of_mem_splitOnP hpiece
  refine Record.Unquoted.cell ⟨?_, ?_, ?_, ?_⟩
  · intro htab
    exact absurd (hmem _ htab).2 (by decide)
  · intro hc
    exact hfeed (hmem _ hc).1
  · intro hc
    exact hreturn (hmem _ hc).1
  · intro hhead
    exact hquote (hmem _ (List.mem_of_mem_head? hhead)).1

/-! ## What the reader finds from a place ahead of a record -/

section Found

variable {path : Path} {columns : Columns}

/-- The cells of a line as a record. -/
def lineRecord (line : List Char) : Record := ⟨⟨0, 1, 0⟩, cells line⟩

/-- What a summary row gives. -/
def summary (path : Path) (columns : Columns) (line : List Char) :
    Except SampleError (Option Sample) :=
  (figures path (lineRecord line) columns.indices).map fun values => some ⟨values⟩

/-- The figures of a row depend on the fields in the columns, and on nothing else of it. -/
lemma figures_congr {a b : Record} {indices : List ℕ}
    (h : ∀ column ∈ indices, a.fields[column]? = b.fields[column]?) :
    figures path a indices = figures path b indices := by
  induction indices with
  | nil => rfl
  | cons column indices ih =>
    rw [List.forall_mem_cons] at h
    rw [figures, figures, figure, figure, h.1, ih h.2]

/-- A record of texts is taken or left by its first field. -/
lemma firstSample_fields (start : Mark) (fields : List (List Char)) (rest : List Record.Raw) :
    (IsSentinelRow fields → firstSample path columns (⟨start, fields.map Utf8.encode⟩ :: rest) =
      (figures path ⟨⟨0, 1, 0⟩, texts fields⟩ columns.indices).map fun values => some ⟨values⟩) ∧
    (¬ IsSentinelRow fields → firstSample path columns (⟨start, fields.map Utf8.encode⟩ :: rest) =
      firstSample path columns rest) := by
  have hdecode : Record.Raw.decode .dropped ⟨start, fields.map Utf8.encode⟩ =
      .ok ⟨start, texts fields⟩ := by
    rw [Record.Raw.decode, Record.fieldTexts_dropped_encode]
    rfl
  rw [firstSample, hdecode]
  dsimp only
  constructor
  · intro hrow
    have hsummary : isSummary ⟨start, texts fields⟩ = true := beq_iff_eq.mpr hrow
    have hfigures : figures path ⟨start, texts fields⟩ columns.indices =
        figures path ⟨⟨0, 1, 0⟩, texts fields⟩ columns.indices := figures_congr fun _ _ => rfl
    rw [if_pos hsummary, hfigures]
  · intro hrow
    have hsummary : ¬ isSummary ⟨start, texts fields⟩ = true := mt beq_iff_eq.mp hrow
    rw [if_neg hsummary]

/-- A record that is a line of text is taken or left by its first cell. -/
lemma firstSample_line (start : Mark) (line : List Char) (rest : List Record.Raw) :
    firstSample path columns (⟨start, (line.splitOn '\t').map Utf8.encode⟩ :: rest) =
      if IsSentinel line then summary path columns line
      else firstSample path columns rest := by
  obtain ⟨hsummary, hother⟩ := @firstSample_fields path columns start (line.splitOn '\t') rest
  split_ifs with hline
  · exact hsummary hline
  · exact hother hline

/-- What the reader makes of bytes from any place ahead of a record. -/
def Found (path : Path) (columns : Columns) (bytes : List UInt8)
    (result : Except SampleError (Option Sample)) : Prop :=
  ∀ start here : Mark,
    firstSample path columns ((Record.Scanner.fresh start here).run bytes) = result

lemma Found.nil : Found path columns [] (.ok none) := fun _ _ => rfl

/-- A line end is passed over. -/
lemma Found.lineEnd {bytes : List UInt8} {result : Except SampleError (Option Sample)}
    (found : Found path columns bytes result) {byte : UInt8} (hbyte : Record.isEnd byte = true) :
    Found path columns (byte :: bytes) result := by
  intro start here
  rw [Record.Scanner.run_fresh_of_end _ _ hbyte]
  exact found _ _

/-- A line that is not empty brings the reader to where its record may end. -/
lemma exists_ending_line {line : List Char} (plain : IsPlain line) (hne : line ≠ [])
    (start here : Mark) :
    ∃ s : Record.Scanner, (∃ place,
      s.Ending ⟨start, (line.splitOn '\t').map Utf8.encode⟩ place) ∧
      ∀ rest, (Record.Scanner.fresh start here).run (Utf8.encode line ++ rest) = s.run rest := by
  have hjoin : Record.joinTabs ((line.splitOn '\t').map Utf8.encode) = Utf8.encode line := by
    rw [joinTabs_map_encode, List.intercalate_splitOn]
  obtain ⟨s, hending, hs⟩ := Record.Scanner.exists_run_cells (forall₂_cell_splitOn plain)
    (by rwa [hjoin, ne_eq, Utf8.encode_eq_nil]) start here
  rw [hjoin] at hs
  exact ⟨s, ⟨_, hending⟩, hs⟩

/-- A line that is no summary row is passed over with its line end. -/
lemma Found.line {bytes : List UInt8} {result : Except SampleError (Option Sample)}
    (found : Found path columns bytes result) {line : List Char} (plain : IsPlain line)
    (hline : ¬ IsSentinel line) {byte : UInt8} (hbyte : Record.isEnd byte = true) :
    Found path columns (Utf8.encode line ++ byte :: bytes) result := by
  by_cases hne : line = []
  · subst hne
    exact found.lineEnd hbyte
  · intro start here
    obtain ⟨s, ⟨place, hending⟩, hs⟩ := exists_ending_line plain hne start here
    rw [hs, hending.run_end hbyte, firstSample_line, if_neg hline]
    exact found _ _

/-- A last line that is no summary row gives nothing. -/
lemma Found.lastLine {line : List Char} (plain : IsPlain line) (hline : ¬ IsSentinel line) :
    Found path columns (Utf8.encode line) (.ok none) := by
  by_cases hne : line = []
  · subst hne
    exact Found.nil
  · intro start here
    obtain ⟨s, ⟨place, hending⟩, hs⟩ := exists_ending_line plain hne start here
    have hrun := hs []
    rw [List.append_nil] at hrun
    rw [hrun, hending.run_nil, firstSample_line, if_neg hline]
    rfl

/-- Whether some bytes may follow a complete line: nothing, or a line end with anything behind it. -/
def EndsLine (bytes : List UInt8) : Prop := ∀ byte ∈ bytes.head?, Record.isEnd byte = true

instance : DecidablePred EndsLine := fun bytes =>
  inferInstanceAs (Decidable (∀ byte ∈ bytes.head?, Record.isEnd byte = true))

/-- A summary row gives its figures, whatever comes behind its end. -/
lemma Found.summary {line : List Char} (plain : IsPlain line) (hline : IsSentinel line)
    {tail : List UInt8} (htail : EndsLine tail) :
    Found path columns (Utf8.encode line ++ tail) (summary path columns line) := by
  have hne : line ≠ [] := by
    rintro rfl
    exact absurd hline (by decide)
  intro start here
  obtain ⟨s, ⟨place, hending⟩, hs⟩ := exists_ending_line plain hne start here
  rw [hs]
  cases tail with
  | nil => rw [hending.run_nil, firstSample_line, if_pos hline]
  | cons byte tail =>
    rw [hending.run_end (htail byte rfl), firstSample_line, if_pos hline]

/-- Without a byte order mark, the log is read from its first byte. -/
lemma Found.unmarked {bytes : List UInt8} {result : Except SampleError (Option Sample)}
    (found : Found path columns bytes result)
    (hmark : Record.byteOrderMark.isPrefixOf bytes = false) :
    sample path columns bytes = result := by
  rw [Log.sample, Record.split, if_neg (by simp [hmark])]
  exact found _ _

/-- A byte order mark is passed over. -/
lemma Found.marked {bytes : List UInt8} {result : Except SampleError (Option Sample)}
    (found : Found path columns bytes result) :
    sample path columns (Record.byteOrderMark ++ bytes) = result := by
  have hmark : Record.byteOrderMark.isPrefixOf (Record.byteOrderMark ++ bytes) = true :=
    List.isPrefixOf_iff_prefix.mpr (List.prefix_append _ _)
  rw [Log.sample, Record.split, if_pos hmark]
  exact found _ _

end Found

/-! ## The figures of a row -/

/-- A text writes no number, or one that is not finite. -/
def WritesNone (text : String) : Prop :=
  ∀ raw, Numeral.real? text = some raw → raw.isFinite = false

lemma finite?_eq_some {text : String} {raw : Float} :
    finite? text = some raw ↔ Numeral.real? text = some raw ∧ raw.isFinite = true := by
  rw [finite?, Option.filter_eq_some_iff]

lemma finite?_eq_none {text : String} : finite? text = none ↔ WritesNone text := by
  rw [finite?, Option.filter_eq_none_iff]
  simp only [WritesNone, Bool.not_eq_true]

/-- The field in a column writes a finite number, which in thousands is the value. -/
def Gives (record : Record) (column : ℕ) (value : ℤ) : Prop :=
  ∃ text raw, record.fields[column]? = some text ∧ Numeral.real? text = some raw ∧
    raw.isFinite = true ∧ value = thousands raw

/-- No value is given in a column. -/
def IsLacking (record : Record) (column : ℕ) : Prop := ¬ ∃ value, Gives record column value

/-- What is wrong with the field in a column: there is none, or it writes no finite number. -/
def Refuses (path : Path) (record : Record) (column : ℕ) (error : SampleError) : Prop :=
  (record.fields[column]? = none ∧ error = .missingField path column) ∨
    ∃ text, record.fields[column]? = some text ∧ WritesNone text ∧
      error = .malformedField path column text

lemma figure_eq_ok {path : Path} {record : Record} {column : ℕ} {value : ℤ} :
    figure path record column = .ok value ↔ Gives record column value := by
  rw [figure]
  constructor
  · intro h
    split at h
    · cases h
    · rename_i text htext
      split at h
      · cases h
      · rename_i raw hraw
        obtain ⟨hreal, hfinite⟩ := finite?_eq_some.mp hraw
        exact ⟨text, raw, htext, hreal, hfinite, (Except.ok.inj h).symm⟩
  · rintro ⟨text, raw, htext, hreal, hfinite, rfl⟩
    simp only [htext, finite?_eq_some.mpr ⟨hreal, hfinite⟩]

lemma figure_eq_error {path : Path} {record : Record} {column : ℕ} {error : SampleError} :
    figure path record column = .error error ↔ Refuses path record column error := by
  rw [figure]
  constructor
  · intro h
    split at h
    · rename_i hnone
      exact .inl ⟨hnone, (Except.error.inj h).symm⟩
    · rename_i text htext
      split at h
      · rename_i hraw
        exact .inr ⟨text, htext, finite?_eq_none.mp hraw, (Except.error.inj h).symm⟩
      · cases h
  · rintro (⟨hnone, rfl⟩ | ⟨text, htext, hnumber, rfl⟩)
    · simp only [hnone]
    · simp only [htext, finite?_eq_none.mpr hnumber]

/-- The figures of a record are those of its columns. -/
lemma figures_eq_ok {path : Path} {record : Record} {indices : List ℕ} {values : List ℤ} :
    figures path record indices = .ok values ↔ List.Forall₂ (Gives record) indices values := by
  induction indices generalizing values with
  | nil =>
    rw [figures, List.forall₂_nil_left_iff]
    exact ⟨fun h => (Except.ok.inj h).symm, fun h => congrArg _ h.symm⟩
  | cons column indices ih =>
    rw [figures, List.forall₂_cons_left_iff]
    constructor
    · intro h
      split at h
      · cases h
      · rename_i value hvalue
        obtain ⟨others, hothers, rfl⟩ := map_eq_ok.mp h
        exact ⟨value, others, figure_eq_ok.mp hvalue, ih.mp hothers, rfl⟩
    · rintro ⟨value, others, hvalue, hothers, rfl⟩
      simp only [figure_eq_ok.mpr hvalue, ih.mpr hothers, Except.map]

/-- The first column of a record that is not good decides. -/
lemma figures_eq_error {path : Path} {record : Record} {indices : List ℕ} {error : SampleError} :
    figures path record indices = .error error ↔
      ∃ before column, FirstWith (IsLacking record) indices before column ∧
        Refuses path record column error := by
  induction indices with
  | nil => simp [figures, not_firstWith_nil]
  | cons first indices ih =>
    rw [figures]
    cases hfirst : figure path record first with
    | error cause =>
      have hlacking : IsLacking record first := by
        rintro ⟨value, hvalue⟩
        rw [figure_eq_ok.mpr hvalue] at hfirst
        cases hfirst
      simp only [firstWith_cons_of_pos hlacking, ← figure_eq_error]
      simp [hfirst]
    | ok value =>
      have hgood : ¬ IsLacking record first := not_not.mpr ⟨value, figure_eq_ok.mp hfirst⟩
      simp only [map_eq_error, ih, firstWith_cons_of_neg hgood]
      -- the first column is good, so the bad one is found behind it
      constructor
      · rintro ⟨before, column, hcolumn, herror⟩
        exact ⟨_, column, ⟨before, rfl, hcolumn⟩, herror⟩
      · rintro ⟨_, column, ⟨before, rfl, hcolumn⟩, herror⟩
        exact ⟨before, column, hcolumn, herror⟩

/-- A column that is refused gives no value. -/
lemma Refuses.isLacking {path : Path} {record : Record} {column : ℕ} {error : SampleError}
    (h : Refuses path record column error) : IsLacking record column := by
  rintro ⟨value, hvalue⟩
  have hread := figure_eq_error.mpr h
  rw [figure_eq_ok.mpr hvalue] at hread
  cases hread

/-- The cell in a column writes a finite number, which in thousands is the value. -/
def Writes (line : List Char) (column : ℕ) (value : ℤ) : Prop := Gives (lineRecord line) column value

/-- What is wrong with the cell in a column: there is none, or it writes no finite number. -/
def Fault (path : Path) (line : List Char) (column : ℕ) (error : SampleError) : Prop :=
  Refuses path (lineRecord line) column error

/-- A summary row gives a sample if all its columns are good, and the values are theirs. -/
lemma summary_eq_ok {path : Path} {columns : Columns} {line : List Char} {values : List ℤ} :
    summary path columns line = .ok (some ⟨values⟩) ↔
      List.Forall₂ (Writes line) columns.indices values := by
  have hvalues : summary path columns line = .ok (some ⟨values⟩) ↔
      figures path (lineRecord line) columns.indices = .ok values := by
    rw [summary, map_eq_ok]
    constructor
    · rintro ⟨others, hothers, heq⟩
      rw [hothers]
      exact congrArg Except.ok (Sample.mk.inj (Option.some.inj heq))
    · intro h
      exact ⟨values, h, rfl⟩
  rw [hvalues, figures_eq_ok]
  rfl

/-- A summary row is refused for the first of its columns that is not good. -/
lemma summary_eq_error {path : Path} {columns : Columns} {line : List Char} {error : SampleError} :
    summary path columns line = .error error ↔
      ∃ before column after, columns.indices = before ++ column :: after ∧
        (∀ good ∈ before, ∃ value, Writes line good value) ∧ Fault path line column error := by
  rw [summary, map_eq_error, figures_eq_error]
  constructor
  · rintro ⟨before, column, ⟨-, hbefore, after, hsplit⟩, herror⟩
    exact ⟨before, column, after, hsplit, fun good hgood => not_not.mp (hbefore good hgood), herror⟩
  · rintro ⟨before, column, after, hsplit, hbefore, herror⟩
    have hrefuses : Refuses path (lineRecord line) column error := herror
    exact ⟨before, column, ⟨hrefuses.isLacking, fun good hgood => not_not.mpr (hbefore good hgood), after,
      hsplit⟩, hrefuses⟩

lemma summary_ne_none (path : Path) (columns : Columns) (line : List Char) :
    summary path columns line ≠ .ok none := by
  intro h
  obtain ⟨values, -, hnone⟩ := map_eq_ok.mp h
  cases hnone

/-! ## Logs with a summary row -/

/-- What may end a line. -/
inductive LineEnd where
  | feed
  | carriageReturn
  | both
  deriving DecidableEq, Repr

/-- The bytes of a line end. -/
def LineEnd.bytes : LineEnd → List UInt8
  | feed => [Record.lineFeed]
  | carriageReturn => [Record.carriageReturn]
  | both => [Record.carriageReturn, Record.lineFeed]

/-- A line without quotes that is no summary row, with its end. -/
structure ProseLine where
  text : List Char
  ending : LineEnd
  plain : IsPlain text
  prose : ¬ IsSentinel text

/-- The bytes of a line. -/
def ProseLine.bytes (line : ProseLine) : List UInt8 := Utf8.encode line.text ++ line.ending.bytes

/-- A log with a summary row: complete lines that are none, the row, and what comes behind it. -/
structure SummaryLog where
  before : List ProseLine
  row : List Char
  tail : List UInt8
  plain : IsPlain row
  sentinel : IsSentinel row
  ends : EndsLine tail
  unmarked : Record.byteOrderMark.isPrefixOf
    (before.flatMap ProseLine.bytes ++ (Utf8.encode row ++ tail)) = false

namespace SummaryLog

/-- The bytes of the log. -/
def bytes (log : SummaryLog) : List UInt8 :=
  log.before.flatMap ProseLine.bytes ++ (Utf8.encode log.row ++ log.tail)

variable {path : Path} {columns : Columns}

/-- A line of prose is passed over with its line end, of which a second byte is an empty line. -/
lemma found_proseLine (line : ProseLine) {rest : List UInt8}
    {result : Except SampleError (Option Sample)} (found : Found path columns rest result) :
    Found path columns (line.bytes ++ rest) result := by
  obtain ⟨text, ending, plain, prose⟩ := line
  have hfeed : Record.isEnd Record.lineFeed = true := by decide
  have hreturn : Record.isEnd Record.carriageReturn = true := by decide
  cases ending with
  | feed => simpa [ProseLine.bytes, LineEnd.bytes] using found.line plain prose hfeed
  | carriageReturn => simpa [ProseLine.bytes, LineEnd.bytes] using found.line plain prose hreturn
  | both =>
    simpa [ProseLine.bytes, LineEnd.bytes] using (found.lineEnd hfeed).line plain prose hreturn

lemma found_proseLines (lines : List ProseLine) {rest : List UInt8}
    {result : Except SampleError (Option Sample)} (found : Found path columns rest result) :
    Found path columns (lines.flatMap ProseLine.bytes ++ rest) result := by
  induction lines with
  | nil => exact found
  | cons line lines ih =>
    rw [List.flatMap_cons, List.append_assoc]
    exact found_proseLine line ih

lemma sample_bytes (log : SummaryLog) :
    sample path columns log.bytes = summary path columns log.row :=
  Found.unmarked (found_proseLines log.before (Found.summary log.plain log.sentinel log.ends))
    log.unmarked

end SummaryLog

/-! ## Logs of text -/

/-- Whether a character ends a line. -/
def isLineEnd (c : Char) : Bool := c == '\n' || c == '\r'

/-- The byte order mark as a character. -/
def markChar : Char := '\uFEFF'

/-- The lines of a log of text, without the byte order mark ahead of them. -/
def lines (text : List Char) : List (List Char) :=
  (if text.head? = some markChar then text.tail else text).splitOnP isLineEnd

/-- What the first summary row among some lines gives. -/
def ofLines (path : Path) (columns : Columns) (lines : List (List Char)) :
    Except SampleError (Option Sample) :=
  match lines.find? fun line => IsSentinel line with
  | none => .ok none
  | some row => summary path columns row

lemma ofLines_eq_none {path : Path} {columns : Columns} {lines : List (List Char)} :
    ofLines path columns lines = .ok none ↔ ∀ line ∈ lines, ¬ IsSentinel line := by
  rw [ofLines]
  cases hfind : lines.find? fun line => IsSentinel line with
  | none => simpa using hfind
  | some row =>
    have hmem := List.mem_of_find?_eq_some hfind
    have hrow := List.find?_some hfind
    simp only [summary_ne_none, false_iff, not_forall]
    exact ⟨row, hmem, not_not.mpr (by simpa using hrow)⟩

lemma isEnd_of_isLineEnd {c : Char} (h : isLineEnd c = true) :
    ∃ byte, String.utf8EncodeChar c = [byte] ∧ Record.isEnd byte = true := by
  simp only [isLineEnd, Bool.or_eq_true, beq_iff_eq] at h
  rcases h with rfl | rfl
  · exact ⟨Record.lineFeed, by decide, by decide⟩
  · exact ⟨Record.carriageReturn, by decide, by decide⟩

/-- A log of text is read line by line.  The induction is on what follows the part of the current
line that was already seen. -/
lemma found_text {path : Path} {columns : Columns} (text seen : List Char) (hseen : IsPlain seen)
    (hquote : '\"' ∉ text) :
    Found path columns (Utf8.encode (seen ++ text))
      (ofLines path columns ((seen ++ text).splitOnP isLineEnd)) := by
  have hends : ∀ c ∈ seen, isLineEnd c = false := by
    intro c hc
    have hfeed : c ≠ '\n' := fun h => hseen.1 (h ▸ hc)
    have hreturn : c ≠ '\r' := fun h => hseen.2.1 (h ▸ hc)
    simp [isLineEnd, hfeed, hreturn]
  induction text generalizing seen with
  | nil =>
    rw [List.append_nil, List.splitOnP_eq_singleton hends, ofLines]
    by_cases hline : IsSentinel seen
    · have hnothing : EndsLine [] := by simp [EndsLine]
      have hfound : Found path columns (Utf8.encode seen ++ []) (summary path columns seen) :=
        Found.summary hseen hline hnothing
      simpa [hline] using hfound
    · simpa [hline] using Found.lastLine hseen hline
  | cons c text ih =>
    rw [List.mem_cons, not_or] at hquote
    cases hc : isLineEnd c with
    | true =>
      obtain ⟨byte, hform, hbyte⟩ := isEnd_of_isLineEnd hc
      rw [List.splitOnP_append_cons_of_forall_mem hends c hc, ofLines, Utf8.encode_append,
        Utf8.encode_cons, hform, List.singleton_append, List.find?_cons]
      by_cases hline : IsSentinel seen
      · have htail : EndsLine (byte :: Utf8.encode text) := by
          intro first hfirst
          obtain rfl := Option.some.inj hfirst
          exact hbyte
        simpa [hline] using Found.summary hseen hline htail
      · have hrest := ih [] (by simp [IsPlain]) hquote.2 (by simp)
        simpa [ofLines, hline] using hrest.line hseen hline hbyte
    | false =>
      have hnext : IsPlain (seen ++ [c]) := by
        obtain ⟨hfeed, hreturn, hno⟩ := hseen
        simp only [isLineEnd, Bool.or_eq_false_iff, beq_eq_false_iff_ne] at hc
        simp only [IsPlain, List.mem_append, List.mem_singleton, not_or]
        exact ⟨⟨hfeed, Ne.symm hc.1⟩, ⟨hreturn, Ne.symm hc.2⟩, hno, hquote.1⟩
      have hrest := ih (seen ++ [c]) hnext hquote.2 (by
        intro d hd
        rcases List.mem_append.mp hd with hd | hd
        · exact hends d hd
        · rw [List.mem_singleton.mp hd, hc])
      simpa using hrest

/-- Only the byte order mark is written like it. -/
lemma isPrefixOf_encode_iff {text : List Char} :
    Record.byteOrderMark.isPrefixOf (Utf8.encode text) = true ↔ text.head? = some markChar := by
  cases text with
  | nil => simp [Record.byteOrderMark]
  | cons c text =>
    have hmark : Utf8.encode [markChar] = Record.byteOrderMark := by decide
    rw [List.isPrefixOf_iff_prefix, List.head?_cons, Option.some.injEq]
    constructor
    · rintro ⟨rest, hrest⟩
      have hcode := congrArg Utf8.codePoint hrest
      rw [Utf8.encode_cons, Utf8.codePoint_encodeChar, ← hmark, Utf8.encode_cons,
        List.append_assoc, Utf8.codePoint_encodeChar] at hcode
      rw [← Char.ofNat_toNat c, ← hcode, Char.ofNat_toNat]
    · rintro rfl
      exact ⟨Utf8.encode text, by rw [← hmark, ← Utf8.encode_append, List.singleton_append]⟩

/-- A log of text gives what its first summary row gives. -/
lemma sample_text {path : Path} {columns : Columns} {text : List Char} (hquote : '\"' ∉ text) :
    sample path columns (Utf8.encode text) = ofLines path columns (lines text) := by
  have hnil : IsPlain [] := by simp [IsPlain]
  by_cases hmark : text.head? = some markChar
  · obtain ⟨rest, rfl⟩ := List.head?_eq_some_iff.mp hmark
    have hbytes : Utf8.encode (markChar :: rest) = Record.byteOrderMark ++ Utf8.encode rest := by
      rw [Utf8.encode_cons]
      rfl
    rw [lines, if_pos hmark, hbytes]
    exact (found_text rest [] hnil (fun h => hquote (List.mem_cons_of_mem _ h))).marked
  · rw [lines, if_neg hmark]
    refine (found_text text [] hnil hquote).unmarked ?_
    rw [Bool.eq_false_iff]
    exact mt isPrefixOf_encode_iff.mp hmark

/-- The sample of a log is that of its summary row: the figures in the wanted columns, or the error of
the first of them that is not good.  Nothing else in the log has any influence.  A log of text has
no sample exactly if none of its lines is a summary row. -/
theorem sample_spec (log : SummaryLog) (path : Path) (columns : Columns) :
    (∀ values, sample path columns log.bytes = .ok (some ⟨values⟩) ↔
      List.Forall₂ (Writes log.row) columns.indices values) ∧
    (∀ error, sample path columns log.bytes = .error error ↔
      ∃ before column after, columns.indices = before ++ column :: after ∧
        (∀ good ∈ before, ∃ value, Writes log.row good value) ∧
        Fault path log.row column error) ∧
    sample path columns log.bytes ≠ .ok none ∧
    (∀ other : SummaryLog,
      (∀ column ∈ columns.indices, (cells other.row)[column]? = (cells log.row)[column]?) →
        sample path columns other.bytes = sample path columns log.bytes) ∧
    (∀ text, '\"' ∉ text →
      (sample path columns (Utf8.encode text) = .ok none ↔
        ∀ line ∈ lines text, ¬ IsSentinel line)) := by
  refine ⟨?_, ?_, ?_, ?_, ?_⟩
  · intro values
    rw [log.sample_bytes, summary_eq_ok]
  · intro error
    rw [log.sample_bytes, summary_eq_error]
  · rw [log.sample_bytes]
    exact summary_ne_none path columns log.row
  · intro other hcells
    have hfigures : figures path (lineRecord other.row) columns.indices =
        figures path (lineRecord log.row) columns.indices := figures_congr hcells
    rw [log.sample_bytes, other.sample_bytes, summary, summary, hfigures]
  · intro text hquote
    rw [sample_text hquote, ofLines_eq_none]

/-- A log with three kinds of line ends and bytes behind its summary row that are no text. -/
def mixedLog : SummaryLog where
  before :=
    [⟨"Algo 0 algo_below 4".toList, .both, by decide, by decide⟩,
      ⟨[], .carriageReturn, by decide, by decide⟩,
      ⟨"\t avg \t avg_stdv".toList, .feed, by decide, by decide⟩]
  row := " ||\t  4321.500\t   6999.999".toList
  tail := [Record.lineFeed, 255, Record.quote]
  plain := by decide
  sentinel := by decide
  ends := by decide +kernel
  unmarked := by decide

/-- The sample of such a log, an error of a column that it does not have, and a log without a summary
row. -/
theorem sample_spec_mixedLog :
    sample ⟨"log"⟩ .agreement mixedLog.bytes = .ok (some ⟨[4, 6]⟩) ∧
      sample ⟨"log"⟩ ⟨[1, 7, 9]⟩ mixedLog.bytes = .error (.missingField ⟨"log"⟩ 7) ∧
      ('\"' ∉ "||| 1\r\n".toList ∧
        sample ⟨"log"⟩ .agreement (Utf8.encode "||| 1\r\n".toList) = .ok none) := by
  have hread : ∀ text, (Numeral.real? text).isSome = true →
      Numeral.real? text = some ((Numeral.real? text).getD 0) := by
    intro text h
    obtain ⟨raw, hraw⟩ := Option.isSome_iff_exists.mp h
    rw [hraw, Option.getD_some]
  have hmean : Writes mixedLog.row 1 4 :=
    ⟨"4321.500", _, by decide +kernel, hread _ (by decide +kernel), by decide +kernel,
      by decide +kernel⟩
  have hspread : Writes mixedLog.row 2 6 :=
    ⟨"6999.999", _, by decide +kernel, hread _ (by decide +kernel), by decide +kernel,
      by decide +kernel⟩
  have hmissing : Fault ⟨"log"⟩ mixedLog.row 7 (.missingField ⟨"log"⟩ 7) :=
    .inl ⟨by decide +kernel, rfl⟩
  have hprose : '\"' ∉ "||| 1\r\n".toList := by decide
  obtain ⟨values, -, -, -, -⟩ := sample_spec mixedLog ⟨"log"⟩ .agreement
  obtain ⟨-, errors, -, -, -⟩ := sample_spec mixedLog ⟨"log"⟩ ⟨[1, 7, 9]⟩
  obtain ⟨-, -, -, -, none⟩ := sample_spec mixedLog ⟨"log"⟩ .agreement
  refine ⟨(values [4, 6]).mpr ?_, (errors _).mpr ?_, hprose, (none _ hprose).mpr ?_⟩
  · exact .cons hmean (.cons hspread .nil)
  · refine ⟨[1], 7, [9], rfl, ?_, hmissing⟩
    intro good hgood
    obtain rfl := List.mem_singleton.mp hgood
    exact ⟨4, hmean⟩
  · decide +kernel

end Log
end BenchReport
