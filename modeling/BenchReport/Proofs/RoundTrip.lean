import BenchReport.Proofs.Decimals
import BenchReport.Proofs.Files
import BenchReport.Proofs.Records
import BenchReport.Proofs.Words

/-!
# A report reads back

Writing rows to a path and reading the report at that path gives the rows back, in order and number,
with every figure replaced by what a report can hold of it (`readReport_write`).  `Report.settled`
says what that is: the figure as a signed integer of 64 bits, without its fraction, with the ends of
the range for what lies beyond them and zero for a NaN, and then a double again.  Nothing is assumed
of the rows.  Of the path it is assumed that a file can stand there (`FileTree.accepts`), which is
exactly when writing succeeds.

The writer puts quotes and tabs by hand and the reader knows nothing of it, so both are compared with
a third thing, the texts of the fields (`AgreementRow.texts`, `StoreRow.texts`).  A line is a row of
cells that hold these texts (`AgreementRow.cells`), the scanner takes the cells apart
(`Report.map_fields_split_bytes`), and the typed reader makes the settled row of the texts
(`AgreementRow.ofRecord_texts`).  `Report.rows_bytes` puts this together for any kind of row.
-/

namespace BenchReport

namespace Report

/-- What a report keeps of a figure. -/
def settled (figure : Float) : Float := Float.ofInt figure.toModel.toInt64.toInt

lemma ofInt_whole (figure : Float) : Float.ofInt (whole figure) = settled figure := by
  rw [settled, whole, Binary64.toWord_eq_toInt64]

/-! ## Fields as cells -/

lemma unquoted_of_forall {text : List Char}
    (h : ∀ c ∈ text, c.isDigit = true ∨ c = '-') : Record.Unquoted text := by
  refine ⟨?_, ?_, ?_, ?_⟩
  · intro hc
    exact absurd (h _ hc) (by decide)
  · intro hc
    exact absurd (h _ hc) (by decide)
  · intro hc
    exact absurd (h _ hc) (by decide)
  · intro hc
    exact absurd (h _ (List.mem_of_mem_head? hc)) (by decide)

/-- A field of a line, and the text that the reader gets of it. -/
def Reads (field text : String) : Prop :=
  Record.Cell (Utf8.ofString field) (Utf8.ofString text)

lemma reads_count (n : UInt32) : Reads (countText n) (countText n) :=
  (unquoted_of_forall fun c hc => .inl (isDigit_of_mem_countText n c hc)).cell

lemma reads_whole (figure : Float) : Reads (toString (whole figure)) (toString (whole figure)) :=
  (unquoted_of_forall fun _ hc => Record.isDigit_of_mem_toString _ hc).cell

lemma reads_protocol (protocol : Protocol) : Reads protocol.label protocol.label := by
  have h : Record.Unquoted protocol.label.toList := by
    unfold Record.Unquoted
    cases protocol <;> decide
  exact h.cell

lemma reads_variant (variant : Variant) : Reads (variantField variant) variant.label := by
  have hquote : Record.quote ∉ Utf8.ofString variant.label := by
    cases variant <;> decide
  have hfield : Utf8.ofString (variantField variant) =
      Record.quote :: Utf8.ofString variant.label ++ [Record.quote] := by
    cases variant <;> decide
  rw [Reads, hfield]
  exact .quoted hquote

/-! ## Lines as records -/

/-- A line in bytes is its fields in bytes between tabs. -/
lemma ofString_line (fields : List String) :
    Utf8.ofString (line fields) = Record.joinTabs (fields.map Utf8.ofString) := by
  have htab : Utf8.encode "\t".toList = [Record.tab] := by decide
  rw [line, Utf8.ofString, String.toList_intercalate, Utf8.encode_intercalate, htab, List.map_map]
  rfl

lemma bytes_eq_flatMap (lines : List String) :
    bytes lines = lines.flatMap fun line => Utf8.ofString line ++ [Record.lineFeed] := by
  have hend : Utf8.encode "\n".toList = [Record.lineFeed] := by decide
  rw [bytes, Utf8.ofString, String.toList_join]
  induction lines with
  | nil => rfl
  | cons line lines ih =>
    simp only [List.map_cons, List.flatMap_cons, Utf8.encode_append, String.toList_append] at ih ⊢
    rw [ih, hend]
    rfl

/-- A row starts with a count, so its line starts with a digit. -/
lemma exists_digit_line (n : UInt32) (others : List String) :
    ∃ digit rest, digit.isDigit = true ∧
      (line (countText n :: others)).toList = digit :: rest := by
  obtain ⟨digit, digits, hcount⟩ : ∃ digit digits, (countText n).toList = digit :: digits := by
    rw [toList_countText]
    exact List.exists_cons_of_ne_nil Nat.toDigits_ne_nil
  have hdigit := isDigit_of_mem_countText n digit (by simp [hcount])
  rw [line, String.toList_intercalate, List.map_cons, hcount]
  cases others with
  | nil => exact ⟨digit, digits, hdigit, by simp⟩
  | cons other others =>
    exact ⟨digit, _, hdigit, by rw [List.map_cons, List.intercalate_cons_cons_left]⟩

section

variable {α : Type} {count : α → UInt32} {fields texts : α → List String}

/-- A report does not start with a byte order mark. -/
lemma isPrefixOf_byteOrderMark (rows : List α) :
    Record.byteOrderMark.isPrefixOf
      (bytes (rows.map fun row => line (countText (count row) :: fields row))) = false := by
  rw [bytes_eq_flatMap]
  cases rows with
  | nil => rfl
  | cons row rows =>
    obtain ⟨digit, rest, hdigit, hline⟩ := exists_digit_line (count row) (fields row)
    have hlt : digit.toNat < 128 := by
      have := Char.isDigit_iff_toNat.mp hdigit
      simp only [Char.reduceToNat] at this
      omega
    have hne : (0xEF : UInt8) ≠ UInt8.ofNat digit.toNat := by
      intro h
      have hbyte := congrArg UInt8.toNat h
      rw [UInt8.toNat_ofNat'] at hbyte
      simp only [UInt8.reduceToNat] at hbyte
      omega
    rw [List.map_cons, List.flatMap_cons, Utf8.ofString, hline, Utf8.encode_cons,
      Utf8.encodeChar_of_lt hlt]
    simp [Record.byteOrderMark, List.isPrefixOf, hne]

/-- The records of a report hold the texts of its rows. -/
lemma map_fields_split_bytes (hreads : ∀ row, List.Forall₂ Reads (fields row) (texts row))
    (rows : List α) :
    (Record.split (bytes (rows.map fun row => line (countText (count row) :: fields row)))).map
        Record.Raw.fields =
      rows.map fun row => (countText (count row) :: texts row).map Utf8.ofString := by
  rw [Record.split, isPrefixOf_byteOrderMark, if_neg (by simp), bytes_eq_flatMap,
    List.flatMap_map]
  simp only [ofString_line]
  apply Record.Scanner.map_fields_run_lines
  · intro row _
    rw [List.forall₂_map_left_iff, List.forall₂_map_right_iff]
    exact .cons (reads_count _) (hreads row)
  · intro row _ hnil
    obtain ⟨digit, rest, -, hline⟩ := exists_digit_line (count row) (fields row)
    rw [← ofString_line, Utf8.ofString, hline] at hnil
    exact absurd (Utf8.encode_eq_nil.mp hnil) (by simp)

/-- Fields that are texts are read as these texts. -/
lemma fieldTexts_ofString (start : Mark) (index : ℕ) (texts : List String) :
    Record.fieldTexts .kept start index (texts.map Utf8.ofString) = .ok texts := by
  induction texts generalizing index with
  | nil => rfl
  | cons text texts ih =>
    rw [List.map_cons, Record.fieldTexts, Record.fieldText, Utf8.ofString, Utf8.decode_encode]
    simp [Except.map, ih]

/-- Records of one length whose texts are rows are read as these rows. -/
lemma rowsFrom_texts {toRow : Record → Except RowError α} {value : α → α} {size : ℕ}
    (hsize : ∀ row, (texts row).length = size)
    (htexts : ∀ start row, toRow ⟨start, texts row⟩ = .ok (value row)) (rows : List α)
    {raws : List Record.Raw}
    (hraws : raws.map Record.Raw.fields = rows.map fun row => (texts row).map Utf8.ofString)
    {expected : Option ℕ} (hexpected : ∀ n ∈ expected, n = size) :
    rowsFrom toRow expected raws = .ok (rows.map value) := by
  induction rows generalizing raws expected with
  | nil =>
    rw [List.map_nil, List.map_eq_nil_iff] at hraws
    subst hraws
    rfl
  | cons row rows ih =>
    obtain ⟨raw, rest, rfl, hraw, hrest⟩ := List.map_eq_cons_iff.mp hraws
    have hlength : checkLength expected raw = .ok raw := by
      cases expected with
      | none => rfl
      | some n =>
        rw [hexpected n rfl, checkLength, hraw, List.length_map, hsize]
        simp
    have hdecode : raw.decode .kept = .ok ⟨raw.start, texts row⟩ := by
      rw [Record.Raw.decode, hraw, fieldTexts_ofString]
      rfl
    rw [rowsFrom, hlength]
    simp only [Except.bind, hdecode, htexts, hsize]
    rw [ih hrest (by simp)]
    rfl

/-- The bytes of a report are read as the rows whose texts stand in it. -/
theorem rows_bytes {toRow : Record → Except RowError α} {value : α → α} (size : ℕ)
    (hreads : ∀ row, List.Forall₂ Reads (fields row) (texts row))
    (hsize : ∀ row, (countText (count row) :: texts row).length = size)
    (htexts : ∀ start row,
      toRow ⟨start, countText (count row) :: texts row⟩ = .ok (value row)) (rows : List α) :
    Report.rows toRow
        (bytes (rows.map fun row => line (countText (count row) :: fields row))) =
      .ok (rows.map value) :=
  rowsFrom_texts hsize htexts rows (map_fields_split_bytes hreads rows) (by simp)

end

end Report

/-! ## Typed fields -/

namespace Record

lemma field_eq {record : Record} {index : ℕ} (text : String) (size : ℕ)
    (h : record.fields[index]? = some text) : record.field size index = .ok text := by
  rw [field, h]

lemma countField_eq {record : Record} {index : ℕ} (n : UInt32) (size : ℕ)
    (h : record.fields[index]? = some (countText n)) : record.countField size index = .ok n := by
  rw [countField, integerField, field_eq _ size h]
  simp only [integer_countText]
  simp [Except.mapError, Except.map]

lemma figureField_eq {record : Record} {index : ℕ} (figure : Float) (size : ℕ)
    (h : record.fields[index]? = some (toString (Report.whole figure))) :
    record.figureField size index = .ok (Report.settled figure) := by
  have hread := integer_toString (Binary64.minWord_le_toWord figure)
    (Binary64.toWord_le_maxWord figure)
  rw [figureField, integerField, field_eq _ size h]
  simp only [Report.whole, hread]
  rw [← Report.ofInt_whole]
  rfl

end Record

lemma Variant.ofLabel_label (variant : Variant) : ofLabel variant.label = .ok variant := by
  cases variant <;> decide

/-- What a report keeps of a mean and its spread. -/
def MeanSpread.settled (stats : MeanSpread) : MeanSpread :=
  ⟨Report.settled stats.mean, Report.settled stats.spread⟩

/-! ## Agreement reports -/

namespace AgreementRow

/-- What a report keeps of a row. -/
def settled (row : AgreementRow) : AgreementRow := { row with stats := row.stats.settled }

/-- The fields of a row behind its count, as they are written. -/
def fields (row : AgreementRow) : List String :=
  [row.protocol.label, Report.variantField row.variant] ++ Report.statsFields row.stats

/-- The fields of a row behind its count, as they are read. -/
def texts (row : AgreementRow) : List String :=
  [row.protocol.label, row.variant.label] ++ Report.statsFields row.stats

lemma reads_fields (row : AgreementRow) : List.Forall₂ Report.Reads row.fields row.texts := by
  refine .cons (Report.reads_protocol _) (.cons (Report.reads_variant _) ?_)
  exact .cons (Report.reads_whole _) (.cons (Report.reads_whole _) .nil)

lemma ofRecord_texts (start : Mark) (row : AgreementRow) :
    ofRecord ⟨start, countText row.replicas :: row.texts⟩ = .ok row.settled := by
  unfold ofRecord
  rw [Record.countField_eq row.replicas 5 rfl,
    Record.field_eq row.protocol.label 5 rfl,
    Record.field_eq row.variant.label 5 rfl,
    Record.figureField_eq row.stats.mean 5 rfl,
    Record.figureField_eq row.stats.spread 5 rfl]
  simp only [Except.mapError, bind, Except.bind, Protocol.ofLabel_label, Variant.ofLabel_label]
  rfl

end AgreementRow

/-! ## Store reports -/

namespace StoreRow

/-- What a report keeps of a row. -/
def settled (row : StoreRow) : StoreRow :=
  { row with write := row.write.settled, read := row.read.settled }

/-- The fields of a row behind its count, as they are written. -/
def fields (row : StoreRow) : List String :=
  [Report.variantField row.variant] ++ Report.statsFields row.write ++
    Report.statsFields row.read

/-- The fields of a row behind its count, as they are read. -/
def texts (row : StoreRow) : List String :=
  [row.variant.label] ++ Report.statsFields row.write ++ Report.statsFields row.read

lemma reads_fields (row : StoreRow) : List.Forall₂ Report.Reads row.fields row.texts := by
  refine .cons (Report.reads_variant _) ?_
  refine .cons (Report.reads_whole _) (.cons (Report.reads_whole _) ?_)
  exact .cons (Report.reads_whole _) (.cons (Report.reads_whole _) .nil)

lemma ofRecord_texts (start : Mark) (row : StoreRow) :
    ofRecord ⟨start, countText row.clients :: row.texts⟩ = .ok row.settled := by
  unfold ofRecord
  rw [Record.countField_eq row.clients 6 rfl,
    Record.field_eq row.variant.label 6 rfl,
    Record.figureField_eq row.write.mean 6 rfl,
    Record.figureField_eq row.write.spread 6 rfl,
    Record.figureField_eq row.read.mean 6 rfl,
    Record.figureField_eq row.read.spread 6 rfl]
  simp only [Except.mapError, bind, Except.bind, Variant.ofLabel_label]
  rfl

end StoreRow

/-! ## Writing a report and reading it -/

namespace Report

/-- Where a file can stand, a report is written and its bytes are read. -/
lemma write_ok {tree : FileTree} {path : Path} (h : tree.accepts path = true)
    (lines : List String) :
    ∃ changed, changed.read path = .ok (bytes lines) ∧
      Report.write path lines tree =
        (changed, ⟨.ok (), [⟨.info, .reportFile, "Printing output to " ++ path.text⟩]⟩) := by
  obtain ⟨changed, hwrite⟩ :=
    (FileTree.exists_write_iff tree path (.bytes (bytes lines))).mpr h
  refine ⟨changed, FileTree.read_write hwrite, ?_⟩
  simp only [write, bind, Run.andThen, Run.change, hwrite, Except.mapError]
  rfl

/-- **A report reads back.**  Where a file can stand, and whatever file stands there, writing rows
succeeds, and reading the report succeeds with the same rows in the same order, each figure being what
a report keeps of it. -/
theorem readReport_write (tree : FileTree) (path : Path) (h : tree.accepts path = true) :
    (∀ rows : List AgreementRow, ∃ changed notes,
      Report.write path (rows.map AgreementRow.toLine) tree = (changed, ⟨.ok (), notes⟩) ∧
        AgreementRow.readReport changed path = .ok (rows.map AgreementRow.settled)) ∧
    (∀ rows : List StoreRow, ∃ changed notes,
      Report.write path (rows.map StoreRow.toLine) tree = (changed, ⟨.ok (), notes⟩) ∧
        StoreRow.readReport changed path = .ok (rows.map StoreRow.settled)) := by
  constructor
  · intro rows
    obtain ⟨changed, hread, hwrite⟩ := write_ok h (rows.map AgreementRow.toLine)
    have hrows : Report.rows AgreementRow.ofRecord (bytes (rows.map AgreementRow.toLine)) =
        .ok (rows.map AgreementRow.settled) :=
      rows_bytes 5 AgreementRow.reads_fields (fun _ => rfl) AgreementRow.ofRecord_texts rows
    refine ⟨changed, _, hwrite, ?_⟩
    rw [AgreementRow.readReport, readRows, hread]
    simp only [hrows, Except.mapError]
  · intro rows
    obtain ⟨changed, hread, hwrite⟩ := write_ok h (rows.map StoreRow.toLine)
    have hrows : Report.rows StoreRow.ofRecord (bytes (rows.map StoreRow.toLine)) =
        .ok (rows.map StoreRow.settled) :=
      rows_bytes 6 StoreRow.reads_fields (fun _ => rfl) StoreRow.ofRecord_texts rows
    refine ⟨changed, _, hwrite, ?_⟩
    rw [StoreRow.readReport, readRows, hread]
    simp only [hrows, Except.mapError]

/-- A longer file stands at the path already; a NaN is kept as zero, a negative figure loses its
fraction, and a large one is cut to 64 bits. -/
theorem readReport_write_over_longer_file :
    let tree : FileTree := ⟨["w"], [(["w"], .directory),
      (["w", "rt_r2"], .file (.bytes (List.replicate 99 65)))]⟩
    let rows : List AgreementRow :=
      [⟨0, .chain, .hybrid, ⟨Binary64.nan, -2.5⟩⟩, ⟨4294967295, .onePaxos, .smelt, ⟨1e300, 7⟩⟩]
    tree.accepts ⟨"rt_r2"⟩ = true ∧ ∃ changed notes,
      Report.write ⟨"rt_r2"⟩ (rows.map AgreementRow.toLine) tree =
        (changed, ⟨.ok (), notes⟩) ∧
      AgreementRow.readReport changed ⟨"rt_r2"⟩ =
        .ok [⟨0, .chain, .hybrid, ⟨0, -2⟩⟩,
          ⟨4294967295, .onePaxos, .smelt, ⟨9223372036854775807, 7⟩⟩] := by
  intro tree rows
  have h : tree.accepts ⟨"rt_r2"⟩ = true := by decide
  refine ⟨h, ?_⟩
  obtain ⟨changed, notes, hwrite, hread⟩ := (readReport_write tree ⟨"rt_r2"⟩ h).1 rows
  refine ⟨changed, notes, hwrite, hread.trans ?_⟩
  have h1 : settled Binary64.nan = 0 := by decide +kernel
  have h2 : settled (-2.5) = -2 := by decide +kernel
  have h3 : settled 1e300 = 9223372036854775807 := by decide +kernel
  have h4 : settled 7 = 7 := by decide +kernel
  simp only [rows, List.map_cons, List.map_nil, AgreementRow.settled, MeanSpread.settled, h1, h2,
    h3, h4]

/-- Where the bytes of rows stand, these rows are read. -/
lemma readRows_of_read {α : Type} {toRow : Record → Except RowError α} {files : FileTree} {path : Path}
    {lines : List String} {kept : List α} (hrows : rows toRow (bytes lines) = .ok kept)
    (h : files.read path = .ok (bytes lines)) : readRows toRow files path = .ok kept := by
  rw [readRows, h]
  simp only [hrows, Except.mapError]

end Report

/-- What is read back is what the report keeps of the rows. -/
lemma AgreementRow.readReport_of_read {files : FileTree} {path : Path} {rows : List AgreementRow}
    (h : files.read path = .ok (Report.bytes (rows.map AgreementRow.toLine))) :
    readReport files path = .ok (rows.map settled) :=
  Report.readRows_of_read (Report.rows_bytes 5 reads_fields (fun _ => rfl) ofRecord_texts rows) h

/-- What is read back is what the report keeps of the rows. -/
lemma StoreRow.readReport_of_read {files : FileTree} {path : Path} {rows : List StoreRow}
    (h : files.read path = .ok (Report.bytes (rows.map StoreRow.toLine))) :
    readReport files path = .ok (rows.map settled) :=
  Report.readRows_of_read (Report.rows_bytes 6 reads_fields (fun _ => rfl) ofRecord_texts rows) h

end BenchReport
