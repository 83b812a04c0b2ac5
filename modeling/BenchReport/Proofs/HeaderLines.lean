import BenchReport.Proofs.QuotedRows
import BenchReport.Proofs.SummaryRow

/-!
# Lines ahead of the summary row

A log opens with lines for its reader, and the summary row stands somewhere behind them.  Whether it is
found there is a matter of the quotes in these lines (`Log.HidesNone`): a field that starts with a quote
runs over line ends, so a quote that is not closed takes in the summary row with everything else, and
the log has no sample.  A quoted field can also be the sentinel without looking like it.

`Log.hidesNone_iff` says exactly which lines do no harm: those that are complete rows, none of which
starts with the sentinel.  Lines in which no field starts with a quote are such lines if none of them
is a summary row itself.

For the converse, two different rows are put behind the lines.  Complete rows with the sentinel among
them settle the sample whatever follows.  An open quote swallows the row, as the last field of a
record, and of two columns of that record the first one lies ahead of that field.
-/

namespace BenchReport
namespace Log

variable {path : Path} {columns : Columns}

/-! ## Rows ahead of other records -/

lemma firstSample_append_of_eq_none {raws : List Record.Raw}
    (h : firstSample path columns raws = .ok none) (rest : List Record.Raw) :
    firstSample path columns (raws ++ rest) = firstSample path columns rest := by
  induction raws with
  | nil => rfl
  | cons raw raws ih =>
    rw [firstSample] at h
    rw [List.cons_append, firstSample]
    split at h
    · cases h
    · split_ifs at h ⊢
      · obtain ⟨values, -, hnone⟩ := map_eq_ok.mp h
        cases hnone
      · exact ih h

lemma firstSample_append_of_ne_none {raws : List Record.Raw}
    (h : firstSample path columns raws ≠ .ok none) (rest : List Record.Raw) :
    firstSample path columns (raws ++ rest) = firstSample path columns raws := by
  induction raws with
  | nil => exact absurd rfl h
  | cons raw raws ih =>
    rw [firstSample] at h
    rw [List.cons_append, firstSample, firstSample]
    split at h
    · rfl
    · split_ifs at h ⊢
      · rfl
      · exact ih h

/-- Rows give a sample, or an error, if one of them is a summary row. -/
lemma firstSample_eq_none_iff {rows : List Record.TableRow} {raws : List Record.Raw}
    (h : List.Forall₂ Record.TableRow.Matches rows raws) :
    firstSample path columns raws = .ok none ↔ ∀ row ∈ rows, ¬ IsSentinelRow row.fields := by
  induction h with
  | nil => simp [firstSample]
  | @cons row raw rows raws hrow hrows ih =>
    obtain ⟨start, fields⟩ := raw
    obtain rfl : fields = row.fields.map Utf8.encode := hrow.fields
    obtain ⟨hpos, hneg⟩ := @firstSample_fields path columns start row.fields raws
    rw [List.forall_mem_cons]
    by_cases hsentinel : IsSentinelRow row.fields
    · rw [hpos hsentinel]
      simp only [hsentinel, not_true_eq_false, false_and, iff_false]
      intro hnone
      obtain ⟨values, -, hsome⟩ := map_eq_ok.mp hnone
      cases hsome
    · rw [hneg hsentinel, ih]
      simp [hsentinel]

/-! ## A row behind other text -/

/-- The text of some lines, with a line feed behind each. -/
def linesText (lines : List (List Char)) : List Char := lines.flatMap (· ++ ['\n'])

lemma linesText_append (a b : List (List Char)) : linesText (a ++ b) = linesText a ++ linesText b :=
  List.flatMap_append

lemma linesText_singleton (line : List Char) : linesText [line] = line ++ ['\n'] := by
  simp [linesText]

/-- Without a byte order mark, a text is read from its beginning. -/
lemma sample_encode {text : List Char} (hmark : text.head? ≠ some markChar) :
    sample path columns (Utf8.encode text) =
      firstSample path columns ((Record.Scanner.initial 0).run (Utf8.encode text)) := by
  rw [sample, Record.split, if_neg (mt isPrefixOf_encode_iff.mp hmark)]

/-- The sentinel is no byte order mark. -/
lemma IsSentinel.head?_ne {row : List Char} (h : IsSentinel row) : row.head? ≠ some markChar := by
  intro hhead
  obtain ⟨rest, rfl⟩ := List.head?_eq_some_iff.mp hhead
  have hblank : Text.isBlank markChar = false := by decide
  have htab : (markChar == '\t') = false := by decide
  obtain ⟨piece, pieces, hpieces⟩ := List.exists_cons_of_ne_nil (List.splitOn_ne_nil '\t' rest)
  have hcells : (markChar :: rest).splitOn '\t' = (markChar :: piece) :: pieces := by
    rw [List.splitOn_eq_splitOnP] at hpieces ⊢
    rw [List.splitOnP_cons_eq_if_modifyHead, htab, hpieces]
    rfl
  rw [IsSentinel, cells, hcells, List.map_cons, List.head?_cons, Option.some.injEq,
    ← String.toList_inj, String.toList_ofList, Text.trimBy,
    List.dropWhile_cons_of_neg (by simp [hblank])] at h
  have hfront : sentinel.toList <+: markChar :: piece := h ▸ List.rdropWhile_prefix _ _
  exact absurd hfront (by simp [sentinel, markChar])

variable {row : List Char}

/-- A summary row that is the whole log. -/
lemma sample_row (plain : IsPlain row) (hrow : IsSentinel row) :
    sample path columns (Utf8.encode (linesText [row])) = summary path columns row := by
  have hne : row ≠ [] := by
    rintro rfl
    exact absurd hrow (by decide)
  have hends : EndsLine (Utf8.encode ['\n']) := by decide +kernel
  have hfound : Found path columns (Utf8.encode row ++ Utf8.encode ['\n']) (summary path columns row) :=
    Found.summary plain hrow hends
  rw [linesText_singleton, sample_encode, Utf8.encode_append]
  · exact hfound _ _
  · rw [List.head?_append_of_ne_nil _ hne]
    exact hrow.head?_ne

/-- The text of lines with a summary row behind them has no byte order mark, if the lines have none. -/
lemma head?_linesText_ne {header : List (List Char)} (hmark : (linesText header).head? ≠ some markChar)
    (hrow : IsSentinel row) : (linesText (header ++ [row])).head? ≠ some markChar := by
  rw [linesText_append, linesText_singleton]
  by_cases hheader : linesText header = []
  · have hne : row ≠ [] := by
      rintro rfl
      exact absurd hrow (by decide)
    rw [hheader, List.nil_append, List.head?_append_of_ne_nil _ hne]
    exact hrow.head?_ne
  · rwa [List.head?_append_of_ne_nil _ hheader]

/-- Complete rows ahead of a summary row are passed over, if none of them is a summary row. -/
lemma sample_linesText {header : List (List Char)} {skipped : ℕ} {rows : List Record.TableRow}
    (hmark : (linesText header).head? ≠ some markChar)
    (h : Record.SpellsRows (linesText header) skipped rows)
    (hrows : ∀ row ∈ rows, ¬ IsSentinelRow row.fields) (plain : IsPlain row) (hrow : IsSentinel row) :
    sample path columns (Utf8.encode (linesText (header ++ [row]))) = summary path columns row := by
  obtain ⟨raws, start, here, hraws, -, -, hrun⟩ := h.exists_run 0
  have hends : EndsLine (Utf8.encode ['\n']) := by decide +kernel
  have hfound : Found path columns (Utf8.encode row ++ Utf8.encode ['\n']) (summary path columns row) :=
    Found.summary plain hrow hends
  rw [sample_encode (head?_linesText_ne hmark hrow), linesText_append, linesText_singleton,
    Utf8.encode_append, hrun, firstSample_append_of_eq_none ((firstSample_eq_none_iff hraws).mpr hrows),
    Utf8.encode_append]
  exact hfound start here

/-! ## Lines that hide no row -/

/-- Whether a summary row behind some lines gives what it gives alone. -/
def HidesNone (header : List (List Char)) : Prop :=
  ∀ row, IsPlain row → IsSentinel row → ∀ path columns,
    sample path columns (Utf8.encode (linesText (header ++ [row]))) =
      sample path columns (Utf8.encode (linesText [row]))

/-- Of two rows that are not the same, the one. -/
def lowRow : List Char := "||\t1000\t2000".toList

/-- Of two rows that are not the same, the other. -/
def highRow : List Char := "||\t3000\t4000".toList

lemma summary_lowRow : summary ⟨"log"⟩ .agreement lowRow = .ok (some ⟨[1, 2]⟩) := by decide +kernel

lemma summary_highRow : summary ⟨"log"⟩ .agreement highRow = .ok (some ⟨[3, 4]⟩) := by decide +kernel

/-- What lines that hide no row make of the two rows. -/
lemma HidesNone.samples {header : List (List Char)} (h : HidesNone header) :
    sample ⟨"log"⟩ .agreement (Utf8.encode (linesText (header ++ [lowRow]))) =
        .ok (some ⟨[1, 2]⟩) ∧
      sample ⟨"log"⟩ .agreement (Utf8.encode (linesText (header ++ [highRow]))) =
        .ok (some ⟨[3, 4]⟩) := by
  have hlow : IsPlain lowRow ∧ IsSentinel lowRow := by decide
  have hhigh : IsPlain highRow ∧ IsSentinel highRow := by decide
  rw [h lowRow hlow.1 hlow.2, h highRow hhigh.1 hhigh.2, sample_row hlow.1 hlow.2,
    sample_row hhigh.1 hhigh.2]
  exact ⟨summary_lowRow, summary_highRow⟩

/-- Of a record of which only the last field is swallowed text, two columns do not depend on that. -/
lemma gives_of_firstSample {start : Mark} {before : List (List Char)} {last : List Char} {a b : ℤ}
    (h : firstSample ⟨"log"⟩ .agreement [⟨start, (before ++ [last]).map Utf8.encode⟩] =
      .ok (some ⟨[a, b]⟩)) : Gives ⟨⟨0, 1, 0⟩, texts before⟩ 1 a := by
  obtain ⟨hpos, hneg⟩ := @firstSample_fields ⟨"log"⟩ .agreement start (before ++ [last]) []
  by_cases hsentinel : IsSentinelRow (before ++ [last])
  · rw [hpos hsentinel] at h
    obtain ⟨values, hvalues, hsome⟩ := map_eq_ok.mp h
    obtain rfl : values = [a, b] := by simpa using hsome
    obtain ⟨ha, hb⟩ : Gives ⟨⟨0, 1, 0⟩, texts (before ++ [last])⟩ 1 a ∧
        Gives ⟨⟨0, 1, 0⟩, texts (before ++ [last])⟩ 2 b := by
      simpa [Columns.agreement] using figures_eq_ok.mp hvalues
    -- the record has a column 2, so column 1 is not the last one
    obtain ⟨_, _, hcolumn, -⟩ := hb
    have hlength : 2 < (texts (before ++ [last])).length := (List.getElem?_eq_some_iff.mp hcolumn).1
    obtain ⟨text, raw, htext, hraw⟩ := ha
    refine ⟨text, raw, ?_, hraw⟩
    rw [← htext]
    have hbefore : 1 < (texts before).length := by
      simp [texts] at hlength ⊢
      omega
    simp only [texts, List.map_append]
    exact (List.getElem?_append_left hbefore).symm
  · rw [hneg hsentinel] at h
    cases h

/-- An open quote swallows a row without quotes, and the log ends with the record that it is in. -/
lemma run_swallowed {written last : List Char} {before : List (List Char)}
    (h : Record.SpellsRow .quoted written before last) (ne : written ≠ []) (plain : IsPlain row)
    (start here : Mark) :
    (Record.Scanner.fresh start here).run (Utf8.encode (written ++ linesText [row])) =
      [⟨start, (before ++ [last ++ linesText [row]]).map Utf8.encode⟩] := by
  have hfree : Record.quote ∉ Utf8.encode (linesText [row]) := by
    refine Utf8.not_mem_encode (c := '\"') (by decide) ?_
    simpa [linesText] using plain.2.2
  have hrest := Record.Scanner.run_quoted start (here.past (Utf8.encode written))
    (Utf8.encode last).reverse (before.map Utf8.encode).reverse hfree []
  rw [List.append_nil] at hrest
  rw [Utf8.encode_append, Record.Scanner.run_fresh_spellsRow h ne, hrest]
  simp [Record.Scanner.run, Record.Scanner.finish, Record.Scanner.raw]

/-- Behind complete rows with a summary row the sample is settled, so lines that hide no row have none
such among the rows that they complete. -/
lemma HidesNone.firstSample_eq_none {header : List (List Char)} (h : HidesNone header)
    {raws : List Record.Raw} {rest : List Char → List Record.Raw}
    (hsample : ∀ row, IsPlain row → IsSentinel row →
      sample ⟨"log"⟩ .agreement (Utf8.encode (linesText (header ++ [row]))) =
        firstSample ⟨"log"⟩ .agreement (raws ++ rest row)) :
    firstSample ⟨"log"⟩ .agreement raws = .ok none := by
  by_contra hnone
  obtain ⟨hlow, hhigh⟩ := h.samples
  rw [hsample _ (by decide) (by decide), firstSample_append_of_ne_none hnone] at hlow hhigh
  rw [hlow] at hhigh
  exact absurd hhigh (by decide)

/-- Lines that hide no row do not leave a quote open. -/
lemma HidesNone.not_swallowed {header : List (List Char)} (h : HidesNone header)
    (hmark : (linesText header).head? ≠ some markChar) {front written last : List Char} {skipped : ℕ}
    {rows : List Record.TableRow} {before : List (List Char)}
    (htext : linesText header = front ++ written) (hrows : Record.SpellsRows front skipped rows)
    (hrow : Record.SpellsRow .quoted written before last) : written = [] := by
  by_contra ne
  obtain ⟨raws, start, here, -, -, -, hrun⟩ := hrows.exists_run 0
  have hsample : ∀ row, IsPlain row → IsSentinel row →
      sample ⟨"log"⟩ .agreement (Utf8.encode (linesText (header ++ [row]))) =
        firstSample ⟨"log"⟩ .agreement
          (raws ++ [⟨start, (before ++ [last ++ linesText [row]]).map Utf8.encode⟩]) := by
    intro row plain hsentinel
    rw [sample_encode (head?_linesText_ne hmark hsentinel), linesText_append, htext,
      List.append_assoc, Utf8.encode_append, hrun, run_swallowed hrow ne plain]
  have hnone := h.firstSample_eq_none hsample
  obtain ⟨hlow, hhigh⟩ := h.samples
  rw [hsample _ (by decide) (by decide), firstSample_append_of_eq_none hnone] at hlow hhigh
  have hone : figure ⟨"log"⟩ ⟨⟨0, 1, 0⟩, texts before⟩ 1 = .ok 1 :=
    figure_eq_ok.mpr (gives_of_firstSample hlow)
  rw [figure_eq_ok.mpr (gives_of_firstSample hhigh)] at hone
  exact absurd hone (by decide)

lemma getLast?_linesText {header : List (List Char)} (h : header ≠ []) :
    (linesText header).getLast? = some '\n' := by
  obtain ⟨front, line, rfl⟩ := (List.eq_nil_or_concat' header).resolve_left h
  rw [linesText_append, linesText_singleton, ← List.append_assoc, List.getLast?_concat]

/-- Lines without quotes ahead of their fields are complete rows. -/
lemma exists_spellsRows {header : List (List Char)}
    (hlines : ∀ line ∈ header, '\n' ∉ line ∧ '\r' ∉ line)
    (h : ∀ line ∈ header, ¬ IsSentinel line ∧ ∀ cell ∈ line.splitOn '\t', cell.head? ≠ some '\"') :
    ∃ skipped rows, Record.SpellsRows (linesText header) skipped rows ∧
      ∀ row ∈ rows, ¬ IsSentinelRow row.fields := by
  induction header using List.reverseRecOn with
  | nil => exact ⟨0, [], .nil, by simp⟩
  | append_singleton header line ih =>
    simp only [List.forall_mem_append, List.forall_mem_singleton] at hlines h
    obtain ⟨skipped, rows, hrows, hsentinels⟩ := ih hlines.1 h.1
    obtain ⟨⟨hfeed, hreturn⟩, hsentinel, unquoted⟩ := And.intro hlines.2 h.2
    rw [linesText_append, linesText_singleton]
    by_cases hne : line = []
    · subst hne
      exact ⟨_, rows, hrows.blank, hsentinels⟩
    · obtain ⟨before, last, hcells⟩ :=
        (List.eq_nil_or_concat' (line.splitOn '\t')).resolve_left (List.splitOn_ne_nil '\t' line)
      have inner : ∀ cell ∈ before ++ [last], ∀ c ∈ cell, Record.IsInner c := by
        intro cell hcell c hc
        rw [← hcells, List.splitOn_eq_splitOnP] at hcell
        obtain ⟨hmem, htab⟩ := mem_of_mem_splitOnP hcell c hc
        exact ⟨by simpa using htab, fun h => hfeed (h ▸ hmem), fun h => hreturn (h ▸ hmem)⟩
      rw [hcells] at unquoted
      obtain ⟨mode, hmode, hrow⟩ := Record.exists_spellsRow inner unquoted
      rw [← hcells, List.intercalate_splitOn] at hrow
      refine ⟨_, _, hrows.row hrow hne hmode, ?_⟩
      simp only [List.forall_mem_append, List.forall_mem_singleton, ← hcells]
      exact ⟨hsentinels, hsentinel⟩

/-- **Which lines hide no row.**  A summary row behind some lines gives what it gives alone, for all such
rows and all columns, exactly if the lines are complete rows and none of these starts with the
sentinel.  Lines in which no field starts with a quote are so, if none of them is a summary row. -/
theorem hidesNone_iff {header : List (List Char)} (hlines : ∀ line ∈ header, '\n' ∉ line ∧ '\r' ∉ line)
    (hmark : (linesText header).head? ≠ some markChar) :
    (HidesNone header ↔ ∃ skipped rows, Record.SpellsRows (linesText header) skipped rows ∧
      ∀ row ∈ rows, ¬ IsSentinelRow row.fields) ∧
    ((∀ line ∈ header, ¬ IsSentinel line ∧ ∀ cell ∈ line.splitOn '\t', cell.head? ≠ some '\"') →
      HidesNone header) := by
  have hreturn : '\r' ∉ linesText header := by
    simp only [linesText, List.mem_flatMap, not_exists, not_and, List.mem_append]
    intro line hline hmem
    rcases hmem with hmem | hmem
    · exact (hlines line hline).2 hmem
    · exact absurd hmem (by decide)
  have hback : ∀ {skipped rows}, Record.SpellsRows (linesText header) skipped rows →
      (∀ row ∈ rows, ¬ IsSentinelRow row.fields) → HidesNone header := by
    intro skipped rows hspells hrows row plain hrow path columns
    rw [sample_linesText hmark hspells hrows plain hrow, sample_row plain hrow]
  refine ⟨⟨fun h => ?_, fun ⟨skipped, rows, hspells, hrows⟩ => hback hspells hrows⟩, fun h => ?_⟩
  · rcases Record.spelled hreturn with ⟨skipped, rows, hspells⟩ |
      ⟨front, written, skipped, rows, mode, before, last, htext, hne, hspells, hrow⟩
    · refine ⟨skipped, rows, hspells, ?_⟩
      obtain ⟨raws, start, here, hraws, -, -, hrun⟩ := hspells.exists_run 0
      have hsample : ∀ row, IsPlain row → IsSentinel row →
          sample ⟨"log"⟩ .agreement (Utf8.encode (linesText (header ++ [row]))) =
            firstSample ⟨"log"⟩ .agreement
              (raws ++ (Record.Scanner.fresh start here).run (Utf8.encode (linesText [row]))) := by
        intro row _ hsentinel
        rw [sample_encode (head?_linesText_ne hmark hsentinel), linesText_append,
          Utf8.encode_append, hrun]
      exact (firstSample_eq_none_iff hraws).mp (h.firstSample_eq_none hsample)
    · -- the lines end with a line feed, so the row that they break off in is in an open quote
      have hmode : mode = .quoted := by
        by_contra hmode
        have hheader : header ≠ [] := by
          rintro rfl
          exact hne (List.append_eq_nil_iff.mp htext.symm).2
        have hlast := getLast?_linesText hheader
        rw [htext, List.getLast?_append_of_ne_nil _ hne] at hlast
        exact hrow.getLast?_ne hmode hlast
      subst hmode
      exact absurd (h.not_swallowed hmark htext hspells hrow) hne
  · obtain ⟨skipped, rows, hspells, hrows⟩ := exists_spellsRows hlines h
    exact hback hspells hrows

/-- A quoted field that runs over a line end hides no row if it is closed, and neither do quotes inside
other fields. -/
theorem hidesNone_iff_closed_quote :
    let header : List (List Char) := [['\"', 'a'], ['b', '\"', 'c', '\t', 'd', '\"']]
    (∀ line ∈ header, '\n' ∉ line ∧ '\r' ∉ line) ∧ (linesText header).head? ≠ some markChar ∧
      HidesNone header := by
  intro header
  have hlines : ∀ line ∈ header, '\n' ∉ line ∧ '\r' ∉ line := by decide
  have hmark : (linesText header).head? ≠ some markChar := by decide
  refine ⟨hlines, hmark, (hidesNone_iff hlines hmark).1.mpr ?_⟩
  have hfirst : Record.Spells .bare ['\"', 'a', '\n', 'b', '\"', 'c'] ['a', '\n', 'b', 'c'] :=
    .followed ['a', '\n', 'b'] (by simp) (by simp [Record.IsInner]) (by simp)
  have hlast : Record.Spells .bare ['d', '\"'] ['d', '\"'] :=
    .bare (by simp) (by simp [Record.IsInner]) (by simp)
  have hrow := (Record.SpellsRow.first hfirst).next (by simp) hlast
  refine ⟨_, _, Record.SpellsRows.row .nil hrow (by simp) (by simp), fun row hmem => ?_⟩
  obtain rfl := List.mem_singleton.mp hmem
  decide +kernel

/-- A quote that is not closed hides the row behind it. -/
theorem not_hidesNone_open_quote :
    let header := ["\"Algo 0".toList]
    (∀ line ∈ header, '\n' ∉ line ∧ '\r' ∉ line ∧ ¬ IsSentinel line) ∧
      (linesText header).head? ≠ some markChar ∧ IsPlain lowRow ∧ IsSentinel lowRow ∧
      sample ⟨"log"⟩ .agreement (Utf8.encode (linesText (header ++ [lowRow]))) = .ok none ∧
      sample ⟨"log"⟩ .agreement (Utf8.encode (linesText [lowRow])) = .ok (some ⟨[1, 2]⟩) := by
  decide +kernel

end Log
end BenchReport
