import BenchReport.Proofs.QuotedRows
import BenchReport.Proofs.ReportGrammar

/-!
# The line of an unknown label

A row with an unknown label is reported with a line, which is meant to be the line that the row stands
in.  It is the line of the row's mark, and a mark is set where the row before ended, ahead of the empty
lines that are skipped on the way to the row.  So the line is too small by the number of these empty
lines: it is the right one if the row follows another row directly, and if it is in the first line.

`Report.readReport_label_line` says this for all texts, with quoted fields that may run over lines.
The rows of a text are those that it spells (`Record.SpellsTable`), and each of them is told with its own
line and the number of empty lines directly ahead of it.  Both kinds of reports are read alike: a reader
of records does not look at where a record stands, but to name its line (`Report.IsPlaceless`).
-/

namespace BenchReport

open Record (TableRow)

namespace Report

variable {α : Type}

/-! ## What a reader makes of fields -/

/-- Some fields make a row, wherever they stand. -/
def Accepts (toRow : Record → Except RowError α) (fields : List (List Char)) : Prop :=
  ∃ row, ∀ start, toRow (.ofFields start fields) = .ok row

/-- Some fields make no row, wherever they stand, for nothing but a label. -/
def Mislabels (toRow : Record → Except RowError α) (fields : List (List Char)) (cause : LabelError) :
    Prop :=
  ∀ start : Mark, toRow (.ofFields start fields) = .error (.label start.line cause)

/-- A reader of records does not look at where a record stands, but to name its line. -/
def IsPlaceless (toRow : Record → Except RowError α) : Prop :=
  ∀ fields, (∀ start, ∃ cause, toRow (.ofFields start fields) = .error (.record cause)) ∨
    Accepts toRow fields ∨ ∃ cause, Mislabels toRow fields cause

end Report

open Report (Accepts Mislabels IsPlaceless RowError)

lemma AgreementRow.isPlaceless_ofRecord : IsPlaceless ofRecord := by
  intro fields
  by_cases hnumbers : grammar.HasNumbers fields
  · obtain ⟨⟨replicas, hreplicas⟩, ⟨mean, hmean⟩, ⟨spread, hspread⟩⟩ := hasNumbers_iff.mp hnumbers
    obtain ⟨first, hfirst⟩ : ∃ field, fields[1]? = some field := hmean.exists_field (by omega)
    obtain ⟨second, hsecond⟩ : ∃ field, fields[2]? = some field := hmean.exists_field (by omega)
    have hread := fun start =>
      @ofRecord_of_hasNumbers start _ _ _ _ _ _ hreplicas hfirst hsecond hmean hspread
    right
    cases hprotocol : Protocol.ofLabel (String.ofList first) with
    | error cause => exact .inr ⟨cause, fun start => by rw [hread, hprotocol]; rfl⟩
    | ok protocol =>
      cases hvariant : Variant.ofLabel (String.ofList second) with
      | error cause => exact .inr ⟨cause, fun start => by rw [hread, hprotocol, hvariant]; rfl⟩
      | ok variant => exact .inl ⟨_, fun start => by rw [hread, hprotocol, hvariant]; rfl⟩
  · exact .inl fun start => exists_record_of_not_hasNumbers start hnumbers

lemma StoreRow.isPlaceless_ofRecord : IsPlaceless ofRecord := by
  intro fields
  by_cases hnumbers : grammar.HasNumbers fields
  · obtain ⟨⟨clients, hclients⟩, ⟨writeMean, hwriteMean⟩, ⟨writeSpread, hwriteSpread⟩,
      ⟨readMean, hreadMean⟩, ⟨readSpread, hreadSpread⟩⟩ := hasNumbers_iff.mp hnumbers
    obtain ⟨field, hfield⟩ : ∃ field, fields[1]? = some field := hwriteMean.exists_field (by omega)
    have hread := fun start => @ofRecord_of_hasNumbers start _ _ _ _ _ _ _ hclients hfield hwriteMean
      hwriteSpread hreadMean hreadSpread
    right
    cases hvariant : Variant.ofLabel (String.ofList field) with
    | error cause => exact .inr ⟨cause, fun start => by rw [hread, hvariant]; rfl⟩
    | ok variant => exact .inl ⟨_, fun start => by rw [hread, hvariant]; rfl⟩
  · exact .inl fun start => exists_record_of_not_hasNumbers start hnumbers

namespace Report

variable {toRow : Record → Except RowError α}

/-! ## Reading rows -/

section Row

variable {width : ℕ} {start : Mark} {fields : List (List Char)}

lemma exists_readLine_eq_ok_iff (h : IsPlaceless toRow) :
    (∃ row, Grammar.readLine toRow width start fields = .ok row) ↔
      fields.length = width ∧ Accepts toRow fields := by
  rw [Grammar.readLine]
  split_ifs with hwidth
  · constructor
    · rintro ⟨row, hrow⟩
      refine ⟨hwidth, ?_⟩
      rcases h fields with hrecord | haccepts | ⟨label, hlabel⟩
      · obtain ⟨fault, hfault⟩ := hrecord start
        rw [hfault] at hrow
        cases hrow
      · exact haccepts
      · rw [hlabel start] at hrow
        cases hrow
    · rintro ⟨-, row, hrow⟩
      exact ⟨row, hrow start⟩
  · simp [hwidth]

lemma readLine_eq_label_iff (h : IsPlaceless toRow) {line : ℕ} {cause : LabelError} :
    Grammar.readLine toRow width start fields = .error (.label line cause) ↔
      fields.length = width ∧ Mislabels toRow fields cause ∧ line = start.line := by
  rw [Grammar.readLine]
  split_ifs with hwidth
  · constructor
    · intro hread
      refine ⟨hwidth, ?_⟩
      rcases h fields with hrecord | ⟨row, hrow⟩ | ⟨label, hlabel⟩
      · obtain ⟨fault, hfault⟩ := hrecord start
        rw [hfault] at hread
        cases hread
      · rw [hrow start] at hread
        cases hread
      · rw [hlabel start] at hread
        cases hread
        exact ⟨hlabel, rfl⟩
    · rintro ⟨-, hlabel, rfl⟩
      exact hlabel start
  · simp [hwidth]

end Row

/-- A row is not taken behind rows of `width` fields. -/
def RejectsFrom (toRow : Record → Except RowError α) (width : ℕ) (row : TableRow) : Prop :=
  row.fields.length ≠ width ∨ ¬ Accepts toRow row.fields

/-- An unknown label is reported for the first row that is not taken, at the line of its mark. -/
lemma rowsFrom_eq_label_iff (h : IsPlaceless toRow) {width : ℕ} {rows : List TableRow}
    {raws : List Record.Raw} (hraws : List.Forall₂ TableRow.Matches rows raws) {line : ℕ}
    {cause : LabelError} : rowsFrom toRow (some width) raws = .error (.label line cause) ↔
      ∃ before row, FirstWith (RejectsFrom toRow width) rows before row ∧ row.fields.length = width ∧
        Mislabels toRow row.fields cause ∧ line + row.skipped = row.line := by
  induction hraws with
  | nil => simp [rowsFrom, not_firstWith_nil]
  | @cons row raw rows raws hraw hraws ih =>
    rw [Grammar.rowsFrom_cons hraw.fields]
    by_cases hreject : RejectsFrom toRow width row
    · have hlabel := @readLine_eq_label_iff _ _ width raw.start row.fields h line cause
      have hplace : line = raw.start.line ↔ line + row.skipped = row.line := by
        rw [← hraw.line, Nat.add_right_cancel_iff]
      simp only [firstWith_cons_of_pos hreject]
      cases hread : Grammar.readLine toRow width raw.start row.fields with
      | ok value =>
        obtain ⟨hwidth, haccepts⟩ := (exists_readLine_eq_ok_iff h).mp ⟨value, hread⟩
        exact absurd haccepts (hreject.resolve_left (not_not.mpr hwidth))
      | error error =>
        rw [hread, hplace] at hlabel
        simpa using hlabel
    · have hgood : row.fields.length = width ∧ Accepts toRow row.fields := by
        simpa [RejectsFrom] using hreject
      obtain ⟨value, hvalue⟩ := (@exists_readLine_eq_ok_iff _ _ _ raw.start _ h).mpr hgood
      simp only [hvalue, Log.map_eq_error, ih, firstWith_cons_of_neg hreject]
      constructor
      · rintro ⟨before, first, hfirst, hrest⟩
        exact ⟨_, first, ⟨before, rfl, hfirst⟩, hrest⟩
      · rintro ⟨_, first, ⟨before, rfl, hfirst⟩, hrest⟩
        exact ⟨before, first, hfirst, hrest⟩

/-! ## Reading texts -/

/-- A row of a text is not taken: it has fewer or more fields than the first one, or they make no row. -/
def Rejects (toRow : Record → Except RowError α) (rows : List TableRow) (row : TableRow) : Prop :=
  Grammar.Differs (rows.map TableRow.fields) row.fields ∨ ¬ Accepts toRow row.fields

/-- An unknown label is what is reported exactly if the first row that is not taken is so for nothing but
that label, and the line is behind the row before: as many lines ahead of the row as are empty. -/
def TellsLabels (toRow : Record → Except RowError α) (rows : List TableRow) (path : Path)
    (outcome : Except ReportError (List α)) : Prop :=
  ∀ line cause, outcome = .error (.unknownLabel path line cause) ↔
    ∃ before row, FirstWith (Rejects toRow rows) rows before row ∧
      ¬ Grammar.Differs (rows.map TableRow.fields) row.fields ∧ Mislabels toRow row.fields cause ∧
        line + row.skipped = row.line

lemma tellsLabels_rowsFrom (h : IsPlaceless toRow) {rows : List TableRow} {raws : List Record.Raw}
    (hraws : List.Forall₂ TableRow.Matches rows raws) (path : Path) :
    TellsLabels toRow rows path ((rowsFrom toRow none raws).mapError (RowError.inReport path)) := by
  intro line cause
  have hlabel : ∀ outcome : Except RowError (List α),
      outcome.mapError (RowError.inReport path) = .error (.unknownLabel path line cause) ↔
        outcome = .error (.label line cause) := by
    intro outcome
    simp only [Grammar.mapError_eq_error, Grammar.inReport_eq_unknownLabel]
    exact ⟨fun ⟨error, hread, h⟩ => h ▸ hread, fun hread => ⟨_, hread, rfl⟩⟩
  rw [hlabel]
  cases hraws with
  | nil => simp [rowsFrom, not_firstWith_nil]
  | @cons first raw rows raws hraw hraws =>
    have hwidth : raw.fields.length = first.fields.length := by rw [hraw.fields, List.length_map]
    have hdiffers : ∀ row : TableRow, Grammar.Differs ((first :: rows).map TableRow.fields) row.fields ↔
        row.fields.length ≠ first.fields.length := by
      simp [Grammar.Differs]
    have hrejects : Rejects toRow (first :: rows) = RejectsFrom toRow first.fields.length := by
      funext row
      rw [Rejects, RejectsFrom, hdiffers]
    rw [Grammar.rowsFrom_none, hwidth, rowsFrom_eq_label_iff h (.cons hraw hraws), hrejects]
    simp only [hdiffers, not_not]

/-- A text without the byte order mark ahead of it. -/
def unmarked (text : List Char) : List Char :=
  if text.head? = some Log.markChar then text.tail else text

lemma exists_split_encode (text : List Char) :
    ∃ byte, Record.split (Utf8.encode text) =
      (Record.Scanner.initial byte).run (Utf8.encode (unmarked text)) := by
  by_cases hmark : text.head? = some Log.markChar
  · refine ⟨3, ?_⟩
    rw [Record.split, if_pos (Log.isPrefixOf_encode_iff.mpr hmark), unmarked, if_pos hmark]
    obtain ⟨rest, rfl⟩ := List.head?_eq_some_iff.mp hmark
    rfl
  · refine ⟨0, ?_⟩
    rw [Record.split, if_neg (mt Log.isPrefixOf_encode_iff.mp hmark), unmarked, if_neg hmark]

/-- **The line of an unknown label** is that of the row, less the number of empty lines directly ahead of
the row.  This is so for all rows that a text can be read as, and every text has rows. -/
theorem readReport_label_line {files : FileTree} {path : Path} {text : List Char}
    (hreturn : '\r' ∉ text) (hread : files.read path = .ok (Utf8.encode text)) :
    (∃ rows, Record.SpellsTable (unmarked text) rows) ∧
    ∀ rows, Record.SpellsTable (unmarked text) rows →
      TellsLabels AgreementRow.ofRecord rows path (AgreementRow.readReport files path) ∧
        TellsLabels StoreRow.ofRecord rows path (StoreRow.readReport files path) := by
  have hunmarked : '\r' ∉ unmarked text := by
    rw [unmarked]
    split_ifs
    · exact fun hmem => hreturn (List.mem_of_mem_tail hmem)
    · exact hreturn
  refine ⟨Record.exists_spellsTable hunmarked, fun rows hrows => ?_⟩
  obtain ⟨byte, hsplit⟩ := exists_split_encode text
  have hraws := hrows.matches byte
  rw [← hsplit] at hraws
  have houtcome : ∀ {α : Type} (toRow : Record → Except RowError α), readRows toRow files path =
      (rowsFrom toRow none (Record.split (Utf8.encode text))).mapError (RowError.inReport path) := by
    intro α toRow
    rw [readRows, hread]
    rfl
  rw [AgreementRow.readReport, StoreRow.readReport, houtcome, houtcome]
  exact ⟨tellsLabels_rowsFrom AgreementRow.isPlaceless_ofRecord hraws path,
    tellsLabels_rowsFrom StoreRow.isPlaceless_ofRecord hraws path⟩

/-- A line of an agreement report, with its variant in quotes. -/
lemma spellsRow_quotedVariant {count protocol variant mean spread : List Char}
    (h : ∀ cell ∈ [count, protocol, mean, spread],
      cell ≠ [] ∧ (∀ c ∈ cell, Record.IsInner c) ∧ cell.head? ≠ some '\"') :
    Record.SpellsRow .bare
      (['\t'].intercalate [count, protocol, '\"' :: Record.doubled variant ++ ['\"'], mean, spread])
      [count, protocol, variant, mean] spread := by
  have hbare : ∀ cell ∈ [count, protocol, mean, spread], Record.Spells .bare cell cell :=
    fun cell hcell => .bare (h cell hcell).1 (h cell hcell).2.1 (h cell hcell).2.2
  simp only [List.forall_mem_cons] at hbare
  obtain ⟨hcount, hprotocol, hmean, hspread, -⟩ := hbare
  have hrow := ((((Record.SpellsRow.first hcount).next (by simp) hprotocol).next (by simp)
    (.closed variant)).next (by simp) hmean).next (by simp) hspread
  simpa [List.intercalate_cons_cons] using hrow

/-- A row in line 4, behind two empty lines, which is reported in line 2. -/
theorem readReport_label_line_empty_lines :
    let text := "2\tTPC\t\"smelt\"\t1\t2\n\n\n2\tRaft\t\"smelt\"\t3\t4\n".toList
    let files : FileTree := ⟨["w"], [(["w"], .directory),
      (["w", "rt_r2"], .file (.bytes (Utf8.encode text)))]⟩
    let good : TableRow := ⟨["2", "TPC", "smelt", "1", "2"].map String.toList, 1, 0⟩
    let bad : TableRow := ⟨["2", "Raft", "smelt", "3", "4"].map String.toList, 4, 2⟩
    '\r' ∉ text ∧ files.read ⟨"rt_r2"⟩ = .ok (Utf8.encode text) ∧
      Record.SpellsTable (unmarked text) [good, bad] ∧
      AgreementRow.readReport files ⟨"rt_r2"⟩ =
        .error (.unknownLabel ⟨"rt_r2"⟩ 2 (.unknownProtocol "Raft")) := by
  intro text files good bad
  have hreturn : '\r' ∉ text := by decide
  have hread : files.read ⟨"rt_r2"⟩ = .ok (Utf8.encode text) := by decide +kernel
  have hgoodRow := @spellsRow_quotedVariant "2".toList "TPC".toList "smelt".toList "1".toList "2".toList
    (by simp [Record.IsInner])
  have hbadRow := @spellsRow_quotedVariant "2".toList "Raft".toList "smelt".toList "3".toList "4".toList
    (by simp [Record.IsInner])
  have hrows : Record.SpellsTable (unmarked text) [good, bad] :=
    .complete (((Record.SpellsRows.nil.row hgoodRow (by simp) (by simp)).blank.blank).row hbadRow
      (by simp) (by simp))
  have haccepts : Accepts AgreementRow.ofRecord good.fields :=
    ⟨⟨2, .twoPhaseCommit, .smelt, ⟨Float.ofInt 1, Float.ofInt 2⟩⟩, fun _ => rfl⟩
  have hlabel : Mislabels AgreementRow.ofRecord bad.fields (.unknownProtocol "Raft") := fun _ => rfl
  have hfirst : FirstWith (Rejects AgreementRow.ofRecord [good, bad]) [good, bad] [good] bad := by
    refine ⟨.inr fun ⟨row, hrow⟩ => ?_, ?_, [], rfl⟩
    · have hboth := (hrow ⟨0, 1, 0⟩).symm.trans (hlabel ⟨0, 1, 0⟩)
      cases hboth
    · intro earlier hmem
      obtain rfl := List.mem_singleton.mp hmem
      simp [Rejects, Grammar.Differs, haccepts]
  obtain ⟨-, htells⟩ := readReport_label_line hreturn hread
  exact ⟨hreturn, hread, hrows, ((htells _ hrows).1 2 _).mpr
    ⟨[good], bad, hfirst, by simp [Grammar.Differs, good, bad], hlabel, rfl⟩⟩

/-- A row in line 2, behind an empty line, which is reported in line 1. -/
theorem readReport_label_line_ne :
    let text := "\n2\tRaft\t\"smelt\"\t3\t4\n".toList
    let files : FileTree := ⟨["w"], [(["w"], .directory),
      (["w", "rt_r2"], .file (.bytes (Utf8.encode text)))]⟩
    let bad : TableRow := ⟨["2", "Raft", "smelt", "3", "4"].map String.toList, 2, 1⟩
    files.read ⟨"rt_r2"⟩ = .ok (Utf8.encode text) ∧ Record.SpellsTable text [bad] ∧
      Mislabels AgreementRow.ofRecord bad.fields (.unknownProtocol "Raft") ∧
      AgreementRow.readReport files ⟨"rt_r2"⟩ =
        .error (.unknownLabel ⟨"rt_r2"⟩ 1 (.unknownProtocol "Raft")) := by
  have hbadRow := @spellsRow_quotedVariant "2".toList "Raft".toList "smelt".toList "3".toList "4".toList
    (by simp [Record.IsInner])
  exact ⟨by decide +kernel, .complete (Record.SpellsRows.nil.blank.row hbadRow (by simp) (by simp)),
    fun _ => rfl, rfl⟩

end Report
end BenchReport
