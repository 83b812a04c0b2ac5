import BenchReport.Proofs.CollectedLogs
import BenchReport.Proofs.SummaryRow

/-!
# Fields that a metric does not read

A metric reads four columns of a summary row, and none of those of the other metric.  So it cannot
matter to it what stands in the other columns, a number or not, or whether the last of them are there.

`Log.Edit free bytes others` is one change of a log: the text of one field of a summary row, whose
place in the row is a free one, is replaced by another text, or such a field is taken away from the
end of the row.  Where the fields of a log are, is told by the scanner (`Log.AtField`), so the rest of
the log may be any bytes.  Logs that differ in several fields, or in several summary rows, are
connected by several changes (`Log.SameBut`).

The scanner takes one byte at a time, so behind the same bytes it is in the same place
(`Record.exists_split_append`), and what it finds in the rest of a record is independent of the fields
before that (`Record.Scanner.exists_run_eq_cons`).  Hence a change keeps the records before the row,
and the other fields of the row, and whatever comes behind a summary row is never looked at
(`Log.sample_eq_of_edit`).

`StoreScan.collect_unread_fields` concludes that the two metrics do not interfere.
-/

namespace BenchReport

namespace Record

/-! ## Reading on from some place in a file -/

namespace Scanner

/-- The scanner behind some bytes. -/
def after (s : Scanner) : List UInt8 → Scanner
  | [] => s
  | byte :: rest => (s.step byte).1.after rest

/-- The records that have an end in some bytes. -/
def ended (s : Scanner) : List UInt8 → List Raw
  | [] => []
  | byte :: rest => (s.step byte).2.toList ++ (s.step byte).1.ended rest

lemma after_append (s : Scanner) (front back : List UInt8) :
    s.after (front ++ back) = (s.after front).after back := by
  induction front generalizing s with
  | nil => rfl
  | cons byte front ih => exact ih _

/-- What is found in a file are the records that end in its front, and what is found from there. -/
lemma run_append (s : Scanner) (front back : List UInt8) :
    s.run (front ++ back) = s.ended front ++ (s.after front).run back := by
  induction front generalizing s with
  | nil => rfl
  | cons byte front ih =>
    rw [List.cons_append, run, ended, after]
    obtain ⟨next, record⟩ := s.step byte
    cases record with
    | none => exact ih next
    | some record => exact congrArg (record :: ·) (ih next)

/-- Whether the scanner holds no bytes ahead of a field, and no fields ahead of a record. -/
structure Clear (s : Scanner) : Prop where
  field : s.mode = .fieldStart ∨ s.mode = .between → s.field = []
  fields : s.mode = .between → s.fields = []

lemma clear_initial (byte : ℕ) : (initial byte).Clear := ⟨fun _ => rfl, fun _ => rfl⟩

lemma Clear.step {s : Scanner} (h : s.Clear) (byte : UInt8) : (s.step byte).1.Clear := by
  obtain ⟨mode, start, here, field, fields⟩ := s
  obtain ⟨hfield, hfields⟩ := h
  cases mode <;> simp only [Scanner.step, advance_eq, startField, endField, take, endRecord] <;>
    split_ifs <;> constructor <;> simp_all

lemma Clear.after {s : Scanner} (h : s.Clear) (bytes : List UInt8) : (s.after bytes).Clear := by
  induction bytes generalizing s with
  | nil => exact h
  | cons byte bytes ih => exact ih (h.step byte)

/-! ## The rest of a record -/

/-- A byte does the same whatever fields come before, and wherever the record starts. -/
lemma step_behind {s : Scanner} (hmode : s.mode ≠ .between) (byte : UInt8) (start here : Mark)
    (fields : List (List UInt8)) :
    (Scanner.mk s.mode start here s.field (s.fields ++ fields)).step byte =
      match s.step byte with
      | (next, none) =>
        (⟨next.mode, start, here.past [byte], next.field, next.fields ++ fields⟩, none)
      | (_, some record) =>
        (fresh (here.past [byte]).next (here.past [byte]).next,
          some ⟨start, fields.reverse ++ record.fields⟩) := by
  obtain ⟨mode, start', here', field, fields'⟩ := s
  cases mode with
  | between => contradiction
  | _ =>
    simp only [step, advance_eq, startField, endField, take, endRecord, raw, fresh, Mark.next]
    split_ifs <;> simp

/-- A byte that does not end a record does not lead out of it. -/
lemma mode_step_ne_between {s : Scanner} (hmode : s.mode ≠ .between) {byte : UInt8}
    (hstep : (s.step byte).2 = none) : (s.step byte).1.mode ≠ .between := by
  obtain ⟨mode, start, here, field, fields⟩ := s
  revert hstep
  cases mode with
  | between => contradiction
  | _ =>
    simp only [step, advance_eq, startField, endField, take, endRecord]
    split_ifs <;> simp

/-- In a record, what the scanner finds first is the record, with the same fields at its end whatever
fields come before. -/
lemma exists_run_eq_cons {s : Scanner} (hmode : s.mode ≠ .between) (bytes : List UInt8) :
    ∃ more, ∀ start here fields, ∃ rest,
      (Scanner.mk s.mode start here s.field (s.fields ++ fields)).run bytes =
        ⟨start, fields.reverse ++ more⟩ :: rest := by
  induction bytes generalizing s with
  | nil =>
    refine ⟨s.raw.fields, fun start here fields => ⟨[], ?_⟩⟩
    rw [run, finish]
    split
    · contradiction
    · simp [raw]
  | cons byte bytes ih =>
    cases hstep : s.step byte with
    | mk next record =>
      cases record with
      | none =>
        have hnext : next.mode ≠ .between := by
          have h : (s.step byte).2 = none → (s.step byte).1.mode ≠ .between :=
            mode_step_ne_between hmode
          rw [hstep] at h
          exact h rfl
        obtain ⟨more, hmore⟩ := ih hnext
        refine ⟨more, fun start here fields => ?_⟩
        rw [run, step_behind hmode, hstep]
        exact hmore start _ fields
      | some record =>
        refine ⟨record.fields, fun start here fields => ?_⟩
        rw [run, step_behind hmode, hstep]
        exact ⟨_, rfl⟩

/-- Where a record may end, it ends with the cell that was read. -/
lemma Held.exists_run_of_endsLine {mode : Mode} {content : List UInt8} (held : Held mode content)
    {back : List UInt8} (hback : Log.EndsLine back) (start here : Mark) (fields : List (List UInt8)) :
    ∃ rest, (Scanner.mk mode start here content.reverse fields).run back =
      ⟨start, fields.reverse ++ [content]⟩ :: rest := by
  cases back with
  | nil => exact ⟨[], (held.ending start here fields).run_nil⟩
  | cons byte back =>
    exact ⟨_, (held.ending start here fields).run_end (hback byte rfl) back⟩

/-- Where a field may end, it ends with the cell that was read, and what follows in the record is
independent of that. -/
lemma exists_run_held {back : List UInt8} (hback : ∀ byte ∈ back.head?, isPlain byte = false) :
    ∃ more, ∀ mode content, Held mode content → ∀ start here fields, ∃ rest,
      (Scanner.mk mode start here content.reverse fields).run back =
        ⟨start, fields.reverse ++ content :: more⟩ :: rest := by
  by_cases hends : Log.EndsLine back
  · exact ⟨[], fun mode content held start here fields =>
      held.exists_run_of_endsLine hends start here fields⟩
  · cases back with
    | nil => exact absurd (by simp [Log.EndsLine]) hends
    | cons byte back =>
      have htab : byte = tab := by
        have hplain := hback byte rfl
        have hend : isEnd byte = false := by simpa [Log.EndsLine] using hends
        simpa [isPlain, hend] using hplain
      subst htab
      obtain ⟨more, hmore⟩ := exists_run_eq_cons (s := ⟨.fieldStart, ⟨0, 0, 0⟩, ⟨0, 0, 0⟩, [], []⟩)
        (by simp) back
      refine ⟨more, fun mode content held start here fields => ?_⟩
      obtain ⟨rest, hrest⟩ := hmore start (here.past [tab]) (content :: fields)
      exact ⟨rest, by rw [run_tab held]; simpa using hrest⟩

/-- A tab that ends a field ends a cell that was read. -/
lemma Clear.exists_held_of_step_tab {s : Scanner} (h : s.Clear) (hopen : s.mode ≠ .between)
    (hmode : (s.step tab).1.mode = .fieldStart) :
    ∃ content, Held s.mode content ∧ s.field = content.reverse ∧
      (s.step tab).1 = ⟨.fieldStart, s.start, s.here.past [tab], [], content :: s.fields⟩ := by
  obtain ⟨mode, start, here, field, fields⟩ := s
  have hend : isEnd tab = false := by decide
  have hquote : (tab == quote) = false := by decide
  refine ⟨field.reverse, ?_, field.reverse_reverse.symm, ?_⟩
  · cases mode with
    | between => contradiction
    | fieldStart => exact .inr (.inr ⟨rfl, by simpa using h.field (.inl rfl)⟩)
    | bare => exact .inl rfl
    | quoted => simp [Scanner.step, advance_eq, take, hquote] at hmode
    | closing => exact .inr (.inl rfl)
  · cases mode with
    | between => contradiction
    | quoted => simp [Scanner.step, advance_eq, take, hquote] at hmode
    | _ => simp [Scanner.step, advance_eq, startField, endField, hend, hquote]

end Scanner

/-! ## Places in a file -/

/-- The scanner ahead of a file and the bytes that it reads, which are all but a byte order mark. -/
def opening (bytes : List UInt8) : Scanner × List UInt8 :=
  if byteOrderMark.isPrefixOf bytes then (Scanner.initial 3, bytes.drop 3)
  else (Scanner.initial 0, bytes)

/-- The scanner behind some bytes at the front of a file. -/
def reached (front : List UInt8) : Scanner := (opening front).1.after (opening front).2

lemma split_eq (bytes : List UInt8) : split bytes = (opening bytes).1.run (opening bytes).2 := by
  rw [split, opening]
  split_ifs <;> rfl

lemma clear_reached (front : List UInt8) : (reached front).Clear := by
  rw [reached, opening]
  split_ifs
  · exact (Scanner.clear_initial 3).after _
  · exact (Scanner.clear_initial 0).after _

/-- A file opens like its front, if the front tells whether there is a byte order mark. -/
lemma opening_append {front : List UInt8} (hfront : ¬ front <+: byteOrderMark) (back : List UInt8) :
    opening (front ++ back) = ((opening front).1, (opening front).2 ++ back) := by
  have hmark : byteOrderMark.isPrefixOf (front ++ back) = byteOrderMark.isPrefixOf front := by
    rw [Bool.eq_iff_iff, List.isPrefixOf_iff_prefix, List.isPrefixOf_iff_prefix]
    constructor
    · intro h
      exact (List.prefix_or_prefix_of_prefix h (List.prefix_append front back)).resolve_right hfront
    · exact fun h => h.trans (List.prefix_append front back)
  rw [opening, opening, hmark]
  split_ifs with hmarked
  · have hlength : 3 ≤ front.length := (List.isPrefixOf_iff_prefix.mp hmarked).length_le
    rw [List.drop_append_of_le_length hlength]
  · rfl

lemma reached_append {front : List UInt8} (hfront : ¬ front <+: byteOrderMark) (back : List UInt8) :
    reached (front ++ back) = (reached front).after back := by
  rw [reached, opening_append hfront, Scanner.after_append, reached]

/-- The records of a file are those that end in its front, and those that are found from there. -/
lemma exists_split_append {front : List UInt8} (hfront : ¬ front <+: byteOrderMark) :
    ∃ before, ∀ back, split (front ++ back) = before ++ (reached front).run back := by
  refine ⟨(opening front).1.ended (opening front).2, fun back => ?_⟩
  rw [split_eq, opening_append hfront, Scanner.run_append, reached]

/-! ## Texts of fields -/

lemma fieldTexts_append (padding : Padding) (start : Mark) (index : ℕ) (front back : List (List UInt8)) :
    fieldTexts padding start index (front ++ back) =
      (fieldTexts padding start index front).bind fun texts =>
        (fieldTexts padding start (index + front.length) back).map (texts ++ ·) := by
  induction front generalizing index with
  | nil =>
    rw [List.nil_append, List.length_nil, Nat.add_zero, fieldTexts]
    cases fieldTexts padding start index back <;> rfl
  | cons field front ih =>
    have hindex : index + (field :: front).length = index + 1 + front.length := by
      rw [List.length_cons]
      omega
    rw [List.cons_append, fieldTexts, fieldTexts, ih, hindex]
    cases fieldText padding field with
    | error offset => rfl
    | ok text =>
      cases fieldTexts padding start (index + 1) front with
      | error cause => rfl
      | ok texts => cases fieldTexts padding start (index + 1 + front.length) back <;> rfl

lemma length_of_fieldTexts {padding : Padding} {start : Mark} {index : ℕ}
    {fields : List (List UInt8)} {texts : List String}
    (h : fieldTexts padding start index fields = .ok texts) : texts.length = fields.length := by
  induction fields generalizing index texts with
  | nil =>
    obtain rfl := Except.ok.inj h
    rfl
  | cons field fields ih =>
    rw [fieldTexts] at h
    split at h
    · cases h
    · obtain ⟨rest, hrest, rfl⟩ := Log.map_eq_ok.mp h
      rw [List.length_cons, List.length_cons, ih hrest]

end Record

namespace Log

open Record (Cell Padding fieldText fieldTexts reached)

/-! ## Changes of summary rows -/

/-- Whether some bytes at the front of a log lead to a field of a summary row, which has the given
number of fields before that. -/
structure AtField (front : List UInt8) (index : ℕ) : Prop where
  mode : (reached front).mode = .fieldStart
  index : (reached front).fields.length = index
  sentinel : ∃ first, (reached front).fields.getLast? = some first ∧
    fieldText .dropped first = .ok sentinel

/-- A change of one field of a summary row that is a free one. -/
inductive Edit (free : ℕ → Prop) : List UInt8 → List UInt8 → Prop where
  /-- The field has another text. -/
  | replaced {front back written written' : List UInt8} {text text' : List Char} {index : ℕ}
      (place : AtField front index) (unread : free index) (cell : Cell written (Utf8.encode text))
      (cell' : Cell written' (Utf8.encode text'))
      (ends : ∀ byte ∈ back.head?, Record.isPlain byte = false) :
      Edit free (front ++ (written ++ back)) (front ++ (written' ++ back))
  /-- The field was the last one of its row, and is taken away. -/
  | dropped {front back written : List UInt8} {text : List Char} {index : ℕ}
      (place : AtField (front ++ [Record.tab]) index) (unread : ∀ other ≥ index, free other)
      (cell : Cell written (Utf8.encode text)) (ends : EndsLine back) :
      Edit free (front ++ Record.tab :: (written ++ back)) (front ++ back)

/-- Whether two logs are the same but for some free fields of their summary rows. -/
def SameBut (free : ℕ → Prop) : List UInt8 → List UInt8 → Prop := Relation.EqvGen (Edit free)

variable {path : Path} {columns : Columns} {free : ℕ → Prop}

/-- A place in a summary row is behind everything that could belong to a byte order mark. -/
lemma AtField.not_prefix {front : List UInt8} {index : ℕ} (h : AtField front index) :
    ¬ front <+: Record.byteOrderMark := by
  have hall : ∀ front ∈ Record.byteOrderMark.inits, (reached front).mode ≠ .fieldStart := by decide
  exact fun hfront => hall front ((List.mem_inits _ _).mpr hfront) h.mode

lemma AtField.not_prefix_of_tab {front : List UInt8} {index : ℕ}
    (h : AtField (front ++ [Record.tab]) index) : ¬ front <+: Record.byteOrderMark := by
  have hall : ∀ front ∈ Record.byteOrderMark.inits,
      ∀ first ∈ (reached (front ++ [Record.tab])).fields.getLast?,
        fieldText .dropped first ≠ .ok Log.sentinel := by
    decide +kernel
  intro hfront
  obtain ⟨first, hfirst, htext⟩ := h.sentinel
  exact hall front ((List.mem_inits _ _).mpr hfront) first hfirst htext

/-- What is found first in a summary row decides, whatever is found behind it. -/
lemma firstSample_append_congr {before rest rest' : List Record.Raw}
    (h : firstSample path columns rest = firstSample path columns rest') :
    firstSample path columns (before ++ rest) = firstSample path columns (before ++ rest') := by
  induction before with
  | nil => exact h
  | cons raw before ih =>
    rw [List.cons_append, List.cons_append, firstSample, firstSample, ih]

/-! ## What a change of a row changes -/

/-- What a summary row gives is told by its own fields. -/
lemma firstSample_cons_of_sentinel {start : Mark} {first : List UInt8}
    {fields : List (List UInt8)} (hfirst : fieldText .dropped first = .ok sentinel)
    (rest : List Record.Raw) :
    firstSample path columns (⟨start, first :: fields⟩ :: rest) =
      match fieldTexts .dropped start 0 (first :: fields) with
      | .error cause => .error (.badRecord path cause)
      | .ok texts =>
        (figures path ⟨start, texts⟩ columns.indices).map fun values => some ⟨values⟩ := by
  rw [firstSample, Record.Raw.decode, fieldTexts, hfirst]
  dsimp only
  cases fieldTexts .dropped start (0 + 1) fields with
  | error cause => rfl
  | ok texts => rfl

/-- Whether what stands in a row from some field on gives the same to the columns of a metric: the same
error, or texts that agree in the columns. -/
def SameColumns (columns : Columns) (start : Mark) (index : ℕ) (back back' : List (List UInt8)) :
    Prop :=
  (∃ cause, fieldTexts .dropped start index back = .error cause ∧
    fieldTexts .dropped start index back' = .error cause) ∨
  ∃ texts texts', fieldTexts .dropped start index back = .ok texts ∧
    fieldTexts .dropped start index back' = .ok texts' ∧
    ∀ column ∈ columns.indices, index ≤ column → texts[column - index]? = texts'[column - index]?

/-- Summary rows that begin alike give the same if they go on in the same way for the columns. -/
lemma firstSample_congr_of_sameColumns {start : Mark} {front back back' : List (List UInt8)}
    (hfirst : ∃ first, front.head? = some first ∧ fieldText .dropped first = .ok sentinel)
    (h : SameColumns columns start front.length back back') (rest rest' : List Record.Raw) :
    firstSample path columns (⟨start, front ++ back⟩ :: rest) =
      firstSample path columns (⟨start, front ++ back'⟩ :: rest') := by
  obtain ⟨first, hhead, htext⟩ := hfirst
  obtain ⟨front, rfl⟩ := List.head?_eq_some_iff.mp hhead
  rw [List.cons_append, List.cons_append, firstSample_cons_of_sentinel htext,
    firstSample_cons_of_sentinel htext, ← List.cons_append, ← List.cons_append,
    Record.fieldTexts_append, Record.fieldTexts_append, Nat.zero_add]
  cases hfront : fieldTexts .dropped start 0 (first :: front) with
  | error cause => rfl
  | ok texts =>
    have hlength := Record.length_of_fieldTexts hfront
    obtain ⟨cause, hback, hback'⟩ | ⟨more, more', hback, hback', hcolumns⟩ := h
    · rw [hback, hback']
    · rw [hback, hback']
      have hfigures : figures path ⟨start, texts ++ more⟩ columns.indices =
          figures path ⟨start, texts ++ more'⟩ columns.indices := by
        refine figures_congr fun column hcolumn => ?_
        show (texts ++ more)[column]? = (texts ++ more')[column]?
        rw [List.getElem?_append, List.getElem?_append, hlength]
        split_ifs with hlt
        · rfl
        · exact hcolumns column hcolumn (Nat.le_of_not_lt hlt)
      exact congrArg (Except.map fun values => some (⟨values⟩ : Sample)) hfigures

/-- Another text in a field that is no column is the same for the columns. -/
lemma sameColumns_replaced {start : Mark} {index : ℕ} (hindex : index ∉ columns.indices)
    (text text' : List Char) (more : List (List UInt8)) :
    SameColumns columns start index (Utf8.encode text :: more) (Utf8.encode text' :: more) := by
  rw [SameColumns, fieldTexts, fieldTexts, Record.fieldText_dropped_encode,
    Record.fieldText_dropped_encode]
  dsimp only
  cases fieldTexts .dropped start (index + 1) more with
  | error cause => exact .inl ⟨cause, rfl, rfl⟩
  | ok texts =>
    refine .inr ⟨_, _, rfl, rfl, fun column hcolumn hle => ?_⟩
    obtain ⟨offset, hoffset⟩ : ∃ offset, column - index = offset + 1 := by
      have hne : column ≠ index := fun heq => hindex (heq ▸ hcolumn)
      exact ⟨column - index - 1, by omega⟩
    rw [hoffset, List.getElem?_cons_succ, List.getElem?_cons_succ]

/-- A last field behind all columns is as good as none. -/
lemma sameColumns_dropped {start : Mark} {index : ℕ}
    (hindex : ∀ column ∈ columns.indices, column < index) (text : List Char) :
    SameColumns columns start index [Utf8.encode text] [] := by
  refine .inr ⟨_, [], Record.fieldTexts_dropped_encode start index [text], rfl,
    fun column hcolumn hle => ?_⟩
  exact absurd (hindex column hcolumn) (by omega)

/-- At a field of a summary row the scanner holds the fields before that, of which the first one is the
sentinel. -/
lemma AtField.exists_reached {front : List UInt8} {index : ℕ} (h : AtField front index) :
    ∃ start here fields, reached front = ⟨.fieldStart, start, here, [], fields⟩ ∧
      fields.reverse.length = index ∧
        ∃ first, fields.reverse.head? = some first ∧ fieldText .dropped first = .ok Log.sentinel := by
  have hclear := Record.clear_reached front
  obtain ⟨hmode, hindex, hfirst⟩ := h
  cases hreached : reached front with
  | mk mode start here field fields =>
    rw [hreached] at hclear hmode hindex hfirst
    obtain rfl : mode = .fieldStart := hmode
    obtain rfl : field = [] := hclear.field (.inl rfl)
    refine ⟨start, here, fields, rfl, List.length_reverse.trans hindex, ?_⟩
    rw [List.head?_reverse]
    exact hfirst

/-- A tab that leads to a field of a summary row ends a cell of that row. -/
lemma AtField.exists_held_of_tab {front : List UInt8} {index : ℕ}
    (h : AtField (front ++ [Record.tab]) index) :
    ∃ mode start here content fields, Record.Scanner.Held mode content ∧
      reached front = ⟨mode, start, here, content.reverse, fields⟩ ∧
      reached (front ++ [Record.tab]) =
        ⟨.fieldStart, start, here.past [Record.tab], [], content :: fields⟩ := by
  have hclear := Record.clear_reached front
  have hreached := Record.reached_append h.not_prefix_of_tab [Record.tab]
  rw [Record.Scanner.after, Record.Scanner.after] at hreached
  obtain ⟨hmode, -, first, hfirst, htext⟩ := h
  rw [hreached] at hmode hfirst
  have hopen : (reached front).mode ≠ .between := by
    -- ahead of a record, a tab ends an empty field, which is no sentinel
    intro hbetween
    have hfields := hclear.fields hbetween
    have hfield := hclear.field (.inr hbetween)
    cases hreached' : reached front with
    | mk mode start here field fields =>
      rw [hreached'] at hbetween hfields hfield hfirst
      obtain rfl : mode = .between := hbetween
      obtain rfl : fields = [] := hfields
      obtain rfl : field = [] := hfield
      obtain rfl : [] = first := Option.some.inj hfirst
      exact absurd htext (by decide +kernel)
  obtain ⟨content, held, hfield, hstep⟩ := hclear.exists_held_of_step_tab hopen hmode
  refine ⟨_, _, _, content, _, held, ?_, hreached.trans hstep⟩
  rw [← hfield]

/-- **A change of a field that is no column** changes no sample. -/
theorem sample_eq_of_edit {bytes others : List UInt8} (h : Edit free bytes others)
    (hfree : ∀ column ∈ columns.indices, ¬ free column) :
    sample path columns bytes = sample path columns others := by
  rw [sample, sample]
  cases h with
  | @replaced front back written written' text text' index place unread cell cell' ends =>
    obtain ⟨before, hsplit⟩ := Record.exists_split_append place.not_prefix
    obtain ⟨start, here, fields, hreached, hindex, hfirst⟩ := place.exists_reached
    obtain ⟨mode, held, hrun⟩ := Record.Scanner.exists_run_cell cell start here fields
    obtain ⟨mode', held', hrun'⟩ := Record.Scanner.exists_run_cell cell' start here fields
    obtain ⟨more, hmore⟩ := Record.Scanner.exists_run_held ends
    obtain ⟨rest, hrest⟩ := hmore mode _ held start (here.past written) fields
    obtain ⟨rest', hrest'⟩ := hmore mode' _ held' start (here.past written') fields
    rw [hsplit, hsplit, hreached, hrun, hrun', hrest, hrest']
    refine firstSample_append_congr (firstSample_congr_of_sameColumns hfirst ?_ rest rest')
    rw [hindex]
    exact sameColumns_replaced (fun hcolumn => hfree index hcolumn unread) text text' more
  | @dropped front back written text index place unread cell ends =>
    obtain ⟨before, hsplit⟩ := Record.exists_split_append place.not_prefix_of_tab
    obtain ⟨mode, start, here, content, fields, held, hreached, htab⟩ := place.exists_held_of_tab
    obtain ⟨_, _, row, hrow, hindex, hfirst⟩ := place.exists_reached
    obtain rfl : content :: fields = row := congrArg Record.Scanner.fields (htab.symm.trans hrow)
    obtain ⟨mode', held', hrun⟩ := Record.Scanner.exists_run_cell cell start
      (here.past [Record.tab]) (content :: fields)
    obtain ⟨rest, hrest⟩ := held'.exists_run_of_endsLine ends start
      ((here.past [Record.tab]).past written) (content :: fields)
    obtain ⟨rest', hrest'⟩ := held.exists_run_of_endsLine ends start here fields
    have hshorter : fields.reverse ++ [content] = (content :: fields).reverse ++ [] := by simp
    rw [hsplit, hsplit, hreached, Record.Scanner.run_tab held, hrun, hrest, hrest', hshorter]
    refine firstSample_append_congr (firstSample_congr_of_sameColumns hfirst ?_ rest rest')
    rw [hindex]
    refine sameColumns_dropped (fun column hcolumn => ?_) text
    by_contra hle
    exact hfree column hcolumn (unread column (Nat.le_of_not_lt hle))

/-- Logs that are the same but for fields that are no columns give the same sample. -/
lemma SameBut.sample_eq {bytes others : List UInt8} (h : SameBut free bytes others)
    (hfree : ∀ column ∈ columns.indices, ¬ free column) :
    sample path columns bytes = sample path columns others := by
  induction h with
  | rel bytes others hedit => exact sample_eq_of_edit hedit hfree
  | refl => rfl
  | symm _ _ _ ih => exact ih.symm
  | trans _ _ _ _ _ ih ih' => exact ih.trans ih'

end Log

/-! ## Trees -/

namespace FileTree

/-- Whether a path is found in the same state in two trees, or is in both of them a log and these are
the same but for some free fields of their summary rows. -/
def SameLogBut (free : ℕ → Prop) (files others : FileTree) (path : Path) : Prop :=
  files.lookup path = others.lookup path ∨
    ∃ content content', files.lookup path = .ok (.file content) ∧
      others.lookup path = .ok (.file content') ∧ Log.SameBut free content.data content'.data

variable {free : ℕ → Prop} {files others : FileTree} {path : Path} {columns : Columns}

/-- What is read of a log is the same, with the notes, if it differs in fields that are no columns. -/
lemma SameLogBut.read_eq (h : SameLogBut free files others path)
    (hfree : ∀ column ∈ columns.indices, ¬ free column) :
    Log.read files columns path = Log.read others columns path := by
  obtain hsame | ⟨content, content', hfiles, hothers, hdata⟩ := h
  · rw [Log.read, Log.read, hsame]
  · rw [Log.read, Log.read, hfiles, hothers]
    dsimp only [bytesOf]
    rw [hdata.sample_eq hfree]

end FileTree

namespace StoreScan

variable (scan : StoreScan) {free : ℕ → Prop} {files others : FileTree}

/-- A collection is the same if the logs that are looked for differ in fields that are no columns. -/
lemma collect_congr_of_sameLogBut {metric : Metric}
    (h : ∀ path ∈ scan.logPaths, FileTree.SameLogBut free files others path)
    (hfree : ∀ column ∈ (Columns.store metric).indices, ¬ free column) :
    scan.collect metric files = scan.collect metric others :=
  scan.collect_congr_of_read fun path hpath => (h path hpath).read_eq hfree

/-- **The two metrics do not interfere.**  If the logs that are looked for are the same but for some
fields of their summary rows, which may be no numbers or be missing at the end of a row, and these are
none of those with the figures of response times, then what is collected of response times is the
same.  If they are none of those with the figures of throughput, then what is collected of throughput
is the same, be it the mean over the clients or their total. -/
theorem collect_unread_fields (scan : StoreScan) (files others : FileTree) :
    ((∀ path ∈ scan.logPaths, FileTree.SameLogBut
        (fun index => index = 3 ∨ index = 4 ∨ 6 < index) files others path) →
      scan.collect .responseTime files = scan.collect .responseTime others) ∧
    ((∀ path ∈ scan.logPaths, FileTree.SameLogBut
        (fun index => index = 1 ∨ index = 2 ∨ index = 5 ∨ index = 6 ∨ 8 < index) files others path) →
      scan.collect .throughput files = scan.collect .throughput others) := by
  constructor
  · intro h
    refine scan.collect_congr_of_sameLogBut h fun column hcolumn => ?_
    have hcases : column ∈ [1, 2, 5, 6] := hcolumn
    simp only [List.mem_cons, List.not_mem_nil, or_false] at hcases
    omega
  · intro h
    refine scan.collect_congr_of_sameLogBut h fun column hcolumn => ?_
    have hcases : column ∈ [3, 4, 7, 8] := hcolumn
    simp only [List.mem_cons, List.not_mem_nil, or_false] at hcases
    omega

/-- A log with a word for a throughput and without the last one, and a log without a write time. -/
theorem collect_unread_fields_broken_fields :
    let scan : StoreScan := ⟨⟨"."⟩, 1, "tree", true⟩
    let tree : String → FileTree := fun log => ⟨["w"], [(["w"], .directory),
      (["w", "client_kvs_id_0_num_1"], .file (.bytes (Utf8.ofString log)))]⟩
    let files := tree "run\n||\t1000\t2000\t3000\t4000\t5000\t6000\t7000\t8000\n"
    let broken := tree "run\n||\t1000\t2000\tword\t4000\t5000\t6000\t7000\n"
    let blank := tree "run\n||\t\t2000\t3000\t4000\t5000\t6000\t7000\t8000\n"
    (scan.collect .responseTime files = scan.collect .responseTime broken ∧
      (scan.collect .throughput broken).outcome.isOk = false) ∧
    (scan.collect .throughput files = scan.collect .throughput blank ∧
      (scan.collect .responseTime blank).outcome.isOk = false) := by
  intro scan tree files broken blank
  have hpaths : scan.logPaths = [⟨"./client_kvs_id_0_num_1"⟩, ⟨"./client_kvs_tree_id_0_num_1"⟩] := by
    decide +kernel
  have hfail : (scan.collect .throughput broken).outcome.isOk = false := by decide +kernel
  have hfail' : (scan.collect .responseTime blank).outcome.isOk = false := by decide +kernel
  have hfound : ∀ log, (tree log).lookup ⟨"./client_kvs_id_0_num_1"⟩ =
      .ok (.file (.bytes (Utf8.ofString log))) := fun _ => rfl
  have hmissing : ∀ log, (tree log).lookup ⟨"./client_kvs_tree_id_0_num_1"⟩ = .error .notFound :=
    fun _ => rfl
  have hlogs : ∀ free log log', Log.SameBut free (Utf8.ofString log) (Utf8.ofString log') →
      ∀ path ∈ scan.logPaths, FileTree.SameLogBut free (tree log) (tree log') path := by
    intro free log log' h path hpath
    rw [hpaths, List.mem_cons, List.mem_singleton] at hpath
    obtain rfl | rfl := hpath
    · exact .inr ⟨_, _, hfound log, hfound log', h⟩
    · exact .inl ((hmissing log).trans (hmissing log').symm)
  have hcell : ∀ text ∈ ["3000", "word", "8000", "1000", ""],
      Record.Cell (Utf8.encode text.toList) (Utf8.encode text.toList) := by
    have hunquoted : ∀ text ∈ ["3000", "word", "8000", "1000", ""],
        '\t' ∉ text.toList ∧ '\n' ∉ text.toList ∧ '\r' ∉ text.toList ∧
          text.toList.head? ≠ some '\"' := by
      decide
    exact fun text htext => Record.Unquoted.cell (hunquoted text htext)
  have hplace : ∀ front index, (Record.reached front).mode = .fieldStart →
      (Record.reached front).fields.length = index →
      (Record.reached front).fields.getLast? = some (Utf8.ofString "||") → Log.AtField front index :=
    fun front index hmode hindex hfirst => ⟨hmode, hindex, _, hfirst, by decide +kernel⟩
  refine ⟨⟨(collect_unread_fields scan files broken).1 (hlogs _ _ _ ?_), hfail⟩,
    ⟨(collect_unread_fields scan files blank).2 (hlogs _ _ _ ?_), hfail'⟩⟩
  · have hword : Log.Edit (fun index => index = 3 ∨ index = 4 ∨ 6 < index)
        (Utf8.ofString "run\n||\t1000\t2000\t" ++ (Utf8.encode "3000".toList ++
          Utf8.ofString "\t4000\t5000\t6000\t7000\t8000\n"))
        (Utf8.ofString "run\n||\t1000\t2000\t" ++ (Utf8.encode "word".toList ++
          Utf8.ofString "\t4000\t5000\t6000\t7000\t8000\n")) :=
      .replaced (hplace _ 3 (by decide +kernel) (by decide +kernel) (by decide +kernel)) (.inl rfl)
        (hcell _ (by decide)) (hcell _ (by decide)) (by decide +kernel)
    have hshort : Log.Edit (fun index => index = 3 ∨ index = 4 ∨ 6 < index)
        (Utf8.ofString "run\n||\t1000\t2000\tword\t4000\t5000\t6000\t7000" ++
          Record.tab :: (Utf8.encode "8000".toList ++ [Record.lineFeed]))
        (Utf8.ofString "run\n||\t1000\t2000\tword\t4000\t5000\t6000\t7000" ++
          [Record.lineFeed]) :=
      .dropped (hplace _ 8 (by decide +kernel) (by decide +kernel) (by decide +kernel))
        (fun other hother => .inr (.inr (by omega))) (hcell _ (by decide)) (by decide +kernel)
    exact .trans _ _ _ (.rel _ _ hword) (.rel _ _ hshort)
  · have hblank : Log.Edit
        (fun index => index = 1 ∨ index = 2 ∨ index = 5 ∨ index = 6 ∨ 8 < index)
        (Utf8.ofString "run\n||\t" ++ (Utf8.encode "1000".toList ++
          Utf8.ofString "\t2000\t3000\t4000\t5000\t6000\t7000\t8000\n"))
        (Utf8.ofString "run\n||\t" ++ (Utf8.encode "".toList ++
          Utf8.ofString "\t2000\t3000\t4000\t5000\t6000\t7000\t8000\n")) :=
      .replaced (hplace _ 1 (by decide +kernel) (by decide +kernel) (by decide +kernel)) (.inl rfl)
        (hcell _ (by decide)) (hcell _ (by decide)) (by decide +kernel)
    exact .rel _ _ hblank

end StoreScan
end BenchReport
