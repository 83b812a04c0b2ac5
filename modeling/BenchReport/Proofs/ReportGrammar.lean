import BenchReport.Proofs.ReportFields
import BenchReport.Proofs.Scans

/-!
# Which texts are reports

`Grammar` is the form of one kind of rows: what the fields of a line are to its row, when its numbers
are there, and which of its labels is unknown.  There are two of them, `AgreementRow.grammar` and
`StoreRow.grammar`.  A reader of records that goes from field to field does what its grammar says at
once of the whole line (`Grammar.Describes`).

`Grammar.Tells` is what a grammar says about the outcome of reading a table: the rows of all lines, if
all lines have as many fields as the first one and each is a row, and otherwise the kind of error of
the first line that is not as it should be.  A line with too many or too few fields, or with a number
missing, is no record; only then are its labels looked at.

`Report.readReport_grammar` says that both kinds of reports are read so.  Nothing is skipped: there
is one row for each line of the table, however many lines there are.
-/

namespace BenchReport

open Report (NamesProtocol NamesVariant)

/-! ## The grammar of a row -/

open Report (FieldWrites WritesCount WritesFigure RowError)

/-- The form of the rows of one kind of report, which start with a count. -/
structure Grammar (α : Type) where
  /-- How many fields a row needs. -/
  size : ℕ
  /-- The columns of the figures. -/
  figures : List ℕ
  /-- The fields of a line make a row. -/
  IsRow : List (List Char) → α → Prop
  /-- The first label of a line that is not known. -/
  IsUnknown : List (List Char) → LabelError → Prop

variable {α : Type}

/-- The numbers of a row are there. -/
def Grammar.HasNumbers (grammar : Grammar α) (fields : List (List Char)) : Prop :=
  (∃ count, FieldWrites WritesCount fields 0 count) ∧
    ∀ column ∈ grammar.figures, ∃ figure, FieldWrites WritesFigure fields column figure

/-- Fields without quotes. -/
def AreUnquoted (fields : List (List Char)) : Prop := ∀ field ∈ fields, '\"' ∉ field

/-- A reader of records does what a grammar says, where there are no quotes. -/
structure Grammar.Describes (grammar : Grammar α) (toRow : Record → Except RowError α) : Prop where
  row : ∀ start fields row, AreUnquoted fields → grammar.IsRow fields row →
    toRow (.ofFields start fields) = .ok row
  record : ∀ start fields, ¬ grammar.HasNumbers fields →
    ∃ cause, toRow (.ofFields start fields) = .error (.record cause)
  label : ∀ start fields cause, AreUnquoted fields → grammar.HasNumbers fields →
    grammar.IsUnknown fields cause →
      ∃ line, toRow (.ofFields start fields) = .error (.label line cause)
  /-- Where the numbers are there, only a label can be wrong. -/
  total : ∀ fields, grammar.HasNumbers fields →
    (∃ row, grammar.IsRow fields row) ∨ ∃ cause, grammar.IsUnknown fields cause
  size : ∀ fields row, grammar.IsRow fields row → grammar.size ≤ fields.length

/-- A step that is no fault of the record has a value. -/
lemma exists_of_not_record {β γ : Type} {step : Except RecordError β}
    {next : β → Except RowError γ}
    (h : ¬ ∃ cause, (step.mapError RowError.record >>= next) = .error (.record cause)) :
    ∃ value, step = .ok value ∧ ¬ ∃ cause, next value = .error (.record cause) := by
  cases step with
  | error cause => exact absurd ⟨cause, rfl⟩ h
  | ok value => exact ⟨value, rfl, h⟩

namespace AgreementRow

/-- The fields of a line make a row. -/
structure IsWritten (fields : List (List Char)) (row : AgreementRow) : Prop where
  replicas : FieldWrites WritesCount fields 0 row.replicas
  protocol : FieldWrites NamesProtocol fields 1 row.protocol
  variant : FieldWrites NamesVariant fields 2 row.variant
  mean : FieldWrites WritesFigure fields 3 row.stats.mean
  spread : FieldWrites WritesFigure fields 4 row.stats.spread

/-- The first label of a line that is not known. -/
inductive IsUnknown (fields : List (List Char)) : LabelError → Prop
  | protocol {field : List Char} (hfield : fields[1]? = some field)
    (h : ¬ ∃ protocol, NamesProtocol field protocol) :
    IsUnknown fields (.unknownProtocol (String.ofList field))
  | variant {field : List Char} (hprotocol : ∃ protocol, FieldWrites NamesProtocol fields 1 protocol)
    (hfield : fields[2]? = some field) (h : ¬ ∃ variant, NamesVariant field variant) :
    IsUnknown fields (.invalidVariant (String.ofList field))

/-- The form of the rows of agreement reports. -/
def grammar : Grammar AgreementRow := ⟨5, [3, 4], IsWritten, IsUnknown⟩

variable {start : Mark} {fields : List (List Char)}

/-- Where the numbers are there, the labels are looked at. -/
lemma ofRecord_of_hasNumbers {replicas : UInt32} {protocol variant : List Char} {mean spread : Float}
    (hreplicas : FieldWrites WritesCount fields 0 replicas) (hprotocol : fields[1]? = some protocol)
    (hvariant : fields[2]? = some variant) (hmean : FieldWrites WritesFigure fields 3 mean)
    (hspread : FieldWrites WritesFigure fields 4 spread) :
    ofRecord (.ofFields start fields) = (do
      let protocol ← (Protocol.ofLabel (String.ofList protocol)).mapError (.label start.line)
      let variant ← (Variant.ofLabel (String.ofList variant)).mapError (.label start.line)
      return ⟨replicas, protocol, variant, ⟨mean, spread⟩⟩) := by
  rw [ofRecord, Record.countField_eq_ok.mpr hreplicas, Record.field_ofFields hprotocol,
    Record.field_ofFields hvariant, Record.figureField_eq_ok.mpr hmean,
    Record.figureField_eq_ok.mpr hspread]
  rfl

lemma hasNumbers_iff : grammar.HasNumbers fields ↔
    (∃ count, FieldWrites WritesCount fields 0 count) ∧
      (∃ mean, FieldWrites WritesFigure fields 3 mean) ∧
      ∃ spread, FieldWrites WritesFigure fields 4 spread := by
  simp [Grammar.HasNumbers, grammar]

lemma ofRecord_of_isWritten {row : AgreementRow} (hfields : AreUnquoted fields)
    (h : IsWritten fields row) : ofRecord (.ofFields start fields) = .ok row := by
  obtain ⟨hreplicas, ⟨protocol, hprotocol, hp⟩, ⟨variant, hvariant, hv⟩, hmean, hspread⟩ := h
  rw [ofRecord_of_hasNumbers hreplicas hprotocol hvariant hmean hspread, Protocol.ofLabel_eq_ok.mpr hp,
    (Variant.ofLabel_eq_ok (hfields _ (List.mem_of_getElem? hvariant))).mpr hv]
  rfl

lemma exists_record_of_not_hasNumbers (start : Mark) (h : ¬ grammar.HasNumbers fields) :
    ∃ cause, ofRecord (.ofFields start fields) = .error (.record cause) := by
  by_contra hno
  obtain ⟨replicas, hreplicas, hno⟩ := exists_of_not_record hno
  obtain ⟨protocol, -, hno⟩ := exists_of_not_record hno
  obtain ⟨variant, -, hno⟩ := exists_of_not_record hno
  obtain ⟨mean, hmean, hno⟩ := exists_of_not_record hno
  obtain ⟨spread, hspread, -⟩ := exists_of_not_record hno
  exact h (hasNumbers_iff.mpr ⟨⟨replicas, Record.countField_eq_ok.mp hreplicas⟩,
    ⟨mean, Record.figureField_eq_ok.mp hmean⟩, ⟨spread, Record.figureField_eq_ok.mp hspread⟩⟩)

lemma ofRecord_of_isUnknown {cause : LabelError} (hfields : AreUnquoted fields)
    (hnumbers : grammar.HasNumbers fields) (h : IsUnknown fields cause) :
    ofRecord (.ofFields start fields) = .error (.label start.line cause) := by
  obtain ⟨⟨replicas, hreplicas⟩, ⟨mean, hmean⟩, ⟨spread, hspread⟩⟩ := hasNumbers_iff.mp hnumbers
  cases h with
  | protocol hprotocol hno =>
    obtain ⟨variant, hvariant⟩ : ∃ variant, fields[2]? = some variant :=
      hmean.exists_field (by omega)
    rw [ofRecord_of_hasNumbers hreplicas hprotocol hvariant hmean hspread,
      Protocol.ofLabel_eq_error hno]
    rfl
  | variant hprotocol hvariant hno =>
    obtain ⟨protocol, field, hfield, hp⟩ := hprotocol
    rw [ofRecord_of_hasNumbers hreplicas hfield hvariant hmean hspread, Protocol.ofLabel_eq_ok.mpr hp,
      Variant.ofLabel_eq_error (hfields _ (List.mem_of_getElem? hvariant)) hno]
    rfl

lemma exists_row_or_isUnknown (h : grammar.HasNumbers fields) :
    (∃ row, IsWritten fields row) ∨ ∃ cause, IsUnknown fields cause := by
  obtain ⟨⟨replicas, hreplicas⟩, ⟨mean, hmean⟩, ⟨spread, hspread⟩⟩ := hasNumbers_iff.mp h
  obtain ⟨first, hfirst⟩ : ∃ field, fields[1]? = some field := hmean.exists_field (by omega)
  obtain ⟨second, hsecond⟩ : ∃ field, fields[2]? = some field := hmean.exists_field (by omega)
  by_cases hprotocol : ∃ protocol, NamesProtocol first protocol
  · obtain ⟨protocol, hprotocol⟩ := hprotocol
    by_cases hvariant : ∃ variant, NamesVariant second variant
    · obtain ⟨variant, hvariant⟩ := hvariant
      exact .inl ⟨⟨replicas, protocol, variant, ⟨mean, spread⟩⟩, hreplicas, ⟨first, hfirst, hprotocol⟩,
        ⟨second, hsecond, hvariant⟩, hmean, hspread⟩
    · exact .inr ⟨_, .variant ⟨protocol, first, hfirst, hprotocol⟩ hsecond hvariant⟩
  · exact .inr ⟨_, .protocol hfirst hprotocol⟩

lemma describes : grammar.Describes ofRecord where
  row _ _ _ hfields h := ofRecord_of_isWritten hfields h
  record start _ h := exists_record_of_not_hasNumbers start h
  label _ _ _ hfields hnumbers h := ⟨_, ofRecord_of_isUnknown hfields hnumbers h⟩
  total _ h := exists_row_or_isUnknown h
  size _ _ h := h.spread.lt_length

end AgreementRow

namespace StoreRow

/-- The fields of a line make a row. -/
structure IsWritten (fields : List (List Char)) (row : StoreRow) : Prop where
  clients : FieldWrites WritesCount fields 0 row.clients
  variant : FieldWrites NamesVariant fields 1 row.variant
  writeMean : FieldWrites WritesFigure fields 2 row.write.mean
  writeSpread : FieldWrites WritesFigure fields 3 row.write.spread
  readMean : FieldWrites WritesFigure fields 4 row.read.mean
  readSpread : FieldWrites WritesFigure fields 5 row.read.spread

/-- The label of a line, if it is not known. -/
inductive IsUnknown (fields : List (List Char)) : LabelError → Prop
  | variant {field : List Char} (hfield : fields[1]? = some field)
    (h : ¬ ∃ variant, NamesVariant field variant) :
    IsUnknown fields (.invalidVariant (String.ofList field))

/-- The form of the rows of store reports. -/
def grammar : Grammar StoreRow := ⟨6, [2, 3, 4, 5], IsWritten, IsUnknown⟩

variable {start : Mark} {fields : List (List Char)}

/-- Where the numbers are there, the label is looked at. -/
lemma ofRecord_of_hasNumbers {clients : UInt32} {variant : List Char}
    {writeMean writeSpread readMean readSpread : Float}
    (hclients : FieldWrites WritesCount fields 0 clients) (hvariant : fields[1]? = some variant)
    (hwriteMean : FieldWrites WritesFigure fields 2 writeMean)
    (hwriteSpread : FieldWrites WritesFigure fields 3 writeSpread)
    (hreadMean : FieldWrites WritesFigure fields 4 readMean)
    (hreadSpread : FieldWrites WritesFigure fields 5 readSpread) :
    ofRecord (.ofFields start fields) = (do
      let variant ← (Variant.ofLabel (String.ofList variant)).mapError (.label start.line)
      return ⟨clients, variant, ⟨writeMean, writeSpread⟩, ⟨readMean, readSpread⟩⟩) := by
  rw [ofRecord, Record.countField_eq_ok.mpr hclients, Record.field_ofFields hvariant,
    Record.figureField_eq_ok.mpr hwriteMean, Record.figureField_eq_ok.mpr hwriteSpread,
    Record.figureField_eq_ok.mpr hreadMean, Record.figureField_eq_ok.mpr hreadSpread]
  simp only [Except.mapError, bind, Except.bind, Record.start_ofFields]

lemma hasNumbers_iff : grammar.HasNumbers fields ↔
    (∃ count, FieldWrites WritesCount fields 0 count) ∧
      (∃ writeMean, FieldWrites WritesFigure fields 2 writeMean) ∧
      (∃ writeSpread, FieldWrites WritesFigure fields 3 writeSpread) ∧
      (∃ readMean, FieldWrites WritesFigure fields 4 readMean) ∧
      ∃ readSpread, FieldWrites WritesFigure fields 5 readSpread := by
  simp [Grammar.HasNumbers, grammar]

lemma ofRecord_of_isWritten {row : StoreRow} (hfields : AreUnquoted fields)
    (h : IsWritten fields row) : ofRecord (.ofFields start fields) = .ok row := by
  obtain ⟨hclients, ⟨variant, hvariant, hv⟩, hwriteMean, hwriteSpread, hreadMean, hreadSpread⟩ := h
  rw [ofRecord_of_hasNumbers hclients hvariant hwriteMean hwriteSpread hreadMean hreadSpread,
    (Variant.ofLabel_eq_ok (hfields _ (List.mem_of_getElem? hvariant))).mpr hv]
  rfl

lemma exists_record_of_not_hasNumbers (start : Mark) (h : ¬ grammar.HasNumbers fields) :
    ∃ cause, ofRecord (.ofFields start fields) = .error (.record cause) := by
  by_contra hno
  obtain ⟨clients, hclients, hno⟩ := exists_of_not_record hno
  obtain ⟨variant, -, hno⟩ := exists_of_not_record hno
  obtain ⟨writeMean, hwriteMean, hno⟩ := exists_of_not_record hno
  obtain ⟨writeSpread, hwriteSpread, hno⟩ := exists_of_not_record hno
  obtain ⟨readMean, hreadMean, hno⟩ := exists_of_not_record hno
  obtain ⟨readSpread, hreadSpread, -⟩ := exists_of_not_record hno
  exact h (hasNumbers_iff.mpr ⟨⟨clients, Record.countField_eq_ok.mp hclients⟩,
    ⟨writeMean, Record.figureField_eq_ok.mp hwriteMean⟩,
    ⟨writeSpread, Record.figureField_eq_ok.mp hwriteSpread⟩,
    ⟨readMean, Record.figureField_eq_ok.mp hreadMean⟩,
    ⟨readSpread, Record.figureField_eq_ok.mp hreadSpread⟩⟩)

lemma ofRecord_of_isUnknown {cause : LabelError} (hfields : AreUnquoted fields)
    (hnumbers : grammar.HasNumbers fields) (h : IsUnknown fields cause) :
    ofRecord (.ofFields start fields) = .error (.label start.line cause) := by
  obtain ⟨⟨clients, hclients⟩, ⟨writeMean, hwriteMean⟩, ⟨writeSpread, hwriteSpread⟩,
    ⟨readMean, hreadMean⟩, ⟨readSpread, hreadSpread⟩⟩ := hasNumbers_iff.mp hnumbers
  obtain ⟨hvariant, hno⟩ := h
  rw [ofRecord_of_hasNumbers hclients hvariant hwriteMean hwriteSpread hreadMean hreadSpread,
    Variant.ofLabel_eq_error (hfields _ (List.mem_of_getElem? hvariant)) hno]
  rfl

lemma exists_row_or_isUnknown (h : grammar.HasNumbers fields) :
    (∃ row, IsWritten fields row) ∨ ∃ cause, IsUnknown fields cause := by
  obtain ⟨⟨clients, hclients⟩, ⟨writeMean, hwriteMean⟩, ⟨writeSpread, hwriteSpread⟩,
    ⟨readMean, hreadMean⟩, ⟨readSpread, hreadSpread⟩⟩ := hasNumbers_iff.mp h
  obtain ⟨field, hfield⟩ : ∃ field, fields[1]? = some field := hwriteMean.exists_field (by omega)
  by_cases hvariant : ∃ variant, NamesVariant field variant
  · obtain ⟨variant, hvariant⟩ := hvariant
    exact .inl ⟨⟨clients, variant, ⟨writeMean, writeSpread⟩, ⟨readMean, readSpread⟩⟩, hclients,
      ⟨field, hfield, hvariant⟩, hwriteMean, hwriteSpread, hreadMean, hreadSpread⟩
  · exact .inr ⟨_, .variant hfield hvariant⟩

lemma describes : grammar.Describes ofRecord where
  row _ _ _ hfields h := ofRecord_of_isWritten hfields h
  record start _ h := exists_record_of_not_hasNumbers start h
  label _ _ _ hfields hnumbers h := ⟨_, ofRecord_of_isUnknown hfields hnumbers h⟩
  total _ h := exists_row_or_isUnknown h
  size _ _ h := h.readSpread.lt_length

end StoreRow

/-! ## Reading a table -/

namespace Grammar

/-- A line has fewer or more fields than the first one. -/
def Differs (table : List (List (List Char))) (fields : List (List Char)) : Prop :=
  ∃ first, table.head? = some first ∧ fields.length ≠ first.length

/-- A line of a table is not as it should be. -/
def IsOff (grammar : Grammar α) (table : List (List (List Char))) (fields : List (List Char)) : Prop :=
  Differs table fields ∨ ¬ ∃ row, grammar.IsRow fields row

namespace Describes

variable {grammar : Grammar α} {toRow : Record → Except RowError α} {fields : List (List Char)}

lemma eq_ok_iff (h : grammar.Describes toRow) (start : Mark) (hfields : AreUnquoted fields)
    {row : α} :
    toRow (.ofFields start fields) = .ok row ↔ grammar.IsRow fields row := by
  refine ⟨fun hread => ?_, h.row _ _ _ hfields⟩
  by_cases hnumbers : grammar.HasNumbers fields
  · rcases h.total fields hnumbers with ⟨other, hother⟩ | ⟨cause, hcause⟩
    · rw [h.row _ _ _ hfields hother] at hread
      exact Except.ok.inj hread ▸ hother
    · obtain ⟨line, hline⟩ := h.label start _ _ hfields hnumbers hcause
      rw [hline] at hread
      cases hread
  · obtain ⟨cause, hcause⟩ := h.record start _ hnumbers
    rw [hcause] at hread
    cases hread

lemma exists_record_iff (h : grammar.Describes toRow) (start : Mark) (hfields : AreUnquoted fields) :
    (∃ cause, toRow (.ofFields start fields) = .error (.record cause)) ↔
      ¬ grammar.HasNumbers fields := by
  refine ⟨fun ⟨cause, hread⟩ hnumbers => ?_, h.record start fields⟩
  rcases h.total fields hnumbers with ⟨row, hrow⟩ | ⟨label, hlabel⟩
  · rw [h.row _ _ _ hfields hrow] at hread
    cases hread
  · obtain ⟨line, hline⟩ := h.label start _ _ hfields hnumbers hlabel
    rw [hline] at hread
    cases hread

lemma exists_label_iff (h : grammar.Describes toRow) (start : Mark) (hfields : AreUnquoted fields)
    {cause : LabelError} :
    (∃ line, toRow (.ofFields start fields) = .error (.label line cause)) ↔
      grammar.HasNumbers fields ∧ grammar.IsUnknown fields cause := by
  refine ⟨fun ⟨line, hread⟩ => ?_, fun ⟨hnumbers, hlabel⟩ =>
    h.label start _ _ hfields hnumbers hlabel⟩
  by_cases hnumbers : grammar.HasNumbers fields
  · rcases h.total fields hnumbers with ⟨row, hrow⟩ | ⟨label, hlabel⟩
    · rw [h.row _ _ _ hfields hrow] at hread
      cases hread
    · obtain ⟨other, hother⟩ := h.label start _ _ hfields hnumbers hlabel
      rw [hother] at hread
      cases hread
      exact ⟨hnumbers, hlabel⟩
  · obtain ⟨record, hrecord⟩ := h.record start _ hnumbers
    rw [hrecord] at hread
    cases hread

end Describes

/-- What is made of a line behind lines of `width` fields. -/
def readLine (toRow : Record → Except RowError α) (width : ℕ) (start : Mark)
    (fields : List (List Char)) : Except RowError α :=
  if fields.length = width then toRow (.ofFields start fields)
  else .error (.record (.unequalLengths start fields.length width))

lemma rowsFrom_cons {toRow : Record → Except RowError α} {width : ℕ} {raw : Record.Raw}
    {rest : List Record.Raw} {fields : List (List Char)} (hraw : raw.fields = fields.map Utf8.encode) :
    Report.rowsFrom toRow (some width) (raw :: rest) =
      match readLine toRow width raw.start fields with
      | .error error => .error error
      | .ok row => (Report.rowsFrom toRow (some width) rest).map (row :: ·) := by
  have hdecode : raw.decode .kept = .ok (.ofFields raw.start fields) := by
    have htexts : fields.map Utf8.encode = (fields.map String.ofList).map Utf8.ofString := by
      rw [List.map_map]
      exact List.map_congr_left fun field _ => by simp [Utf8.ofString]
    rw [Record.Raw.decode, hraw, htexts, Report.fieldTexts_ofString]
    rfl
  rw [Report.rowsFrom, Report.checkLength, readLine, hraw, List.length_map]
  by_cases hwidth : fields.length = width
  · simp only [hwidth, beq_self_eq_true, if_true, Except.bind, hdecode]
    have hlength : (Record.ofFields raw.start fields).fields.length = width := by
      rw [Record.ofFields, List.length_map, hwidth]
    cases toRow (Record.ofFields raw.start fields) <;> simp [hlength]
  · simp [hwidth, Except.bind]

section Run

variable {grammar : Grammar α} {toRow : Record → Except RowError α} {width : ℕ}

/-- A line is not as it should be behind lines of `width` fields. -/
def IsOffFrom (grammar : Grammar α) (width : ℕ) (fields : List (List Char)) : Prop :=
  fields.length ≠ width ∨ ¬ ∃ row, grammar.IsRow fields row

lemma readLine_eq_ok (h : grammar.Describes toRow) {start : Mark} {fields : List (List Char)}
    (hfields : AreUnquoted fields) {row : α} :
    readLine toRow width start fields = .ok row ↔ fields.length = width ∧ grammar.IsRow fields row := by
  rw [readLine]
  split_ifs with hwidth
  · simp [hwidth, h.eq_ok_iff start hfields]
  · simp [hwidth]

lemma not_isOffFrom_iff (h : grammar.Describes toRow) (start : Mark) {fields : List (List Char)}
    (hfields : AreUnquoted fields) :
    ¬ IsOffFrom grammar width fields ↔ ∃ row, readLine toRow width start fields = .ok row := by
  simp [IsOffFrom, readLine_eq_ok h hfields]

/-- Lines have rows if all of them are as they should be. -/
lemma rowsFrom_eq_ok (h : grammar.Describes toRow) {table : List (List (List Char))}
    (htable : ∀ fields ∈ table, AreUnquoted fields) {raws : List Record.Raw}
    (hraws : raws.map Record.Raw.fields = table.map fun fields => fields.map Utf8.encode)
    {rows : List α} : Report.rowsFrom toRow (some width) raws = .ok rows ↔
      (∀ fields ∈ table, fields.length = width) ∧ List.Forall₂ grammar.IsRow table rows := by
  induction table generalizing raws rows with
  | nil =>
    obtain rfl := List.map_eq_nil_iff.mp hraws
    simp [Report.rowsFrom, eq_comm]
  | cons fields table ih =>
    obtain ⟨raw, rest, rfl, hraw, hrest⟩ := List.map_eq_cons_iff.mp hraws
    obtain ⟨hfields, htable⟩ := List.forall_mem_cons.mp htable
    rw [rowsFrom_cons hraw, List.forall_mem_cons, List.forall₂_cons_left_iff]
    constructor
    · intro hread
      split at hread
      · cases hread
      · rename_i row hrow
        obtain ⟨hwidth, hrow⟩ := (readLine_eq_ok h hfields).mp hrow
        obtain ⟨later, hlater, rfl⟩ := Log.map_eq_ok.mp hread
        obtain ⟨hwidths, hrows⟩ := (ih htable hrest).mp hlater
        exact ⟨⟨hwidth, hwidths⟩, row, later, hrow, hrows, rfl⟩
    · rintro ⟨⟨hwidth, hwidths⟩, row, later, hrow, hrows, rfl⟩
      rw [(readLine_eq_ok h hfields).mpr ⟨hwidth, hrow⟩]
      simp only [(ih htable hrest).mpr ⟨hwidths, hrows⟩, Except.map]

/-- The error of some lines is that of the first line that is off. -/
lemma exists_rowsFrom_eq_error (h : grammar.Describes toRow) {table : List (List (List Char))}
    (htable : ∀ fields ∈ table, AreUnquoted fields) {raws : List Record.Raw}
    (hraws : raws.map Record.Raw.fields = table.map fun fields => fields.map Utf8.encode)
    {kind : RowError → Prop} {fault : List (List Char) → Prop}
    (hkind : ∀ start fields, AreUnquoted fields →
      ((∃ error, readLine toRow width start fields = .error error ∧ kind error) ↔ fault fields)) :
    (∃ error, Report.rowsFrom toRow (some width) raws = .error error ∧ kind error) ↔
      ∃ before fields, FirstWith (IsOffFrom grammar width) table before fields ∧ fault fields := by
  induction table generalizing raws with
  | nil =>
    obtain rfl := List.map_eq_nil_iff.mp hraws
    simp [Report.rowsFrom, not_firstWith_nil]
  | cons fields table ih =>
    obtain ⟨raw, rest, rfl, hraw, hrest⟩ := List.map_eq_cons_iff.mp hraws
    obtain ⟨hfields, htable⟩ := List.forall_mem_cons.mp htable
    rw [rowsFrom_cons hraw]
    by_cases hoff : IsOffFrom grammar width fields
    · simp only [firstWith_cons_of_pos hoff]
      cases hread : readLine toRow width raw.start fields with
      | ok row => exact absurd hoff ((not_isOffFrom_iff h raw.start hfields).mpr ⟨row, hread⟩)
      | error error =>
        have hfault := hkind raw.start fields hfields
        rw [hread] at hfault
        simpa using hfault
    · obtain ⟨row, hrow⟩ := (not_isOffFrom_iff h raw.start hfields).mp hoff
      simp only [hrow, Log.map_eq_error, ih htable hrest, firstWith_cons_of_neg hoff]
      constructor
      · rintro ⟨before, first, hfirst, hfault⟩
        exact ⟨_, first, ⟨before, rfl, hfirst⟩, hfault⟩
      · rintro ⟨_, first, ⟨before, rfl, hfirst⟩, hfault⟩
        exact ⟨before, first, hfirst, hfault⟩

end Run

/-- What a grammar says about the outcome of reading a table. -/
structure Tells (grammar : Grammar α) (table : List (List (List Char))) (path : Path)
    (outcome : Except ReportError (List α)) : Prop where
  /-- The table has rows if its lines have as many fields as each other and each is a row. -/
  rows : ∀ rows, outcome = .ok rows ↔
    (∃ width, grammar.size ≤ width ∧ ∀ fields ∈ table, fields.length = width) ∧
      List.Forall₂ grammar.IsRow table rows
  /-- The first line that is off is no record. -/
  badRecord : (∃ cause, outcome = .error (.badRecord path cause)) ↔
    ∃ before fields, FirstWith (grammar.IsOff table) table before fields ∧
      (Differs table fields ∨ ¬ grammar.HasNumbers fields)
  /-- The first line that is off is a record, but has a label that is not known. -/
  unknownLabel : ∀ cause, (∃ line, outcome = .error (.unknownLabel path line cause)) ↔
    ∃ before fields, FirstWith (grammar.IsOff table) table before fields ∧
      ¬ Differs table fields ∧ grammar.HasNumbers fields ∧ grammar.IsUnknown fields cause
  /-- There is no other error. -/
  error : ∀ error, outcome = .error error → (∃ cause, error = .badRecord path cause) ∨
    ∃ line cause, error = .unknownLabel path line cause

lemma rowsFrom_none {toRow : Record → Except RowError α} {raw : Record.Raw}
    {rest : List Record.Raw} : Report.rowsFrom toRow none (raw :: rest) =
      Report.rowsFrom toRow (some raw.fields.length) (raw :: rest) := by
  simp [Report.rowsFrom, Report.checkLength]

section Outcome

variable {ε ε' : Type} {change : ε → ε'} {outcome : Except ε α}

lemma mapError_eq_ok {value : α} : outcome.mapError change = .ok value ↔ outcome = .ok value := by
  cases outcome <;> simp [Except.mapError]

lemma mapError_eq_error {error : ε'} :
    outcome.mapError change = .error error ↔
      ∃ cause, outcome = .error cause ∧ change cause = error := by
  cases outcome <;> simp [Except.mapError]

lemma inReport_eq_badRecord {path : Path} {error : RowError} {cause : RecordError} :
    error.inReport path = .badRecord path cause ↔ error = .record cause := by
  cases error <;> simp [RowError.inReport]

lemma inReport_eq_unknownLabel {path : Path} {error : RowError} {line : ℕ} {cause : LabelError} :
    error.inReport path = .unknownLabel path line cause ↔ error = .label line cause := by
  cases error <;> simp [RowError.inReport]

end Outcome

section Table

variable {grammar : Grammar α} {toRow : Record → Except RowError α} {width : ℕ}

/-- A line is no record if its length differs or a number is not there. -/
lemma exists_readLine_record_iff (h : grammar.Describes toRow) (start : Mark)
    {fields : List (List Char)} (hfields : AreUnquoted fields) :
    (∃ error, readLine toRow width start fields = .error error ∧ ∃ cause, error = .record cause) ↔
      fields.length ≠ width ∨ ¬ grammar.HasNumbers fields := by
  rw [readLine]
  split_ifs with hwidth
  · simp [hwidth, ← h.exists_record_iff start hfields]
  · simp [hwidth]

lemma exists_readLine_label_iff (h : grammar.Describes toRow) (start : Mark)
    {fields : List (List Char)} (hfields : AreUnquoted fields) {cause : LabelError} :
    (∃ error, readLine toRow width start fields = .error error ∧ ∃ line, error = .label line cause) ↔
      ¬ fields.length ≠ width ∧ grammar.HasNumbers fields ∧ grammar.IsUnknown fields cause := by
  rw [readLine]
  split_ifs with hwidth
  · simp [hwidth, ← h.exists_label_iff start hfields]
  · simp [hwidth]

/-- The records of a table are read as its grammar says. -/
lemma tells_rowsFrom (h : grammar.Describes toRow) {table : List (List (List Char))}
    (htable : ∀ fields ∈ table, AreUnquoted fields) {raws : List Record.Raw}
    (hraws : raws.map Record.Raw.fields = table.map fun fields => fields.map Utf8.encode)
    (path : Path) : grammar.Tells table path
      ((Report.rowsFrom toRow none raws).mapError (RowError.inReport path)) := by
  have hrecord : ∀ outcome : Except RowError (List α),
      (∃ cause, outcome.mapError (RowError.inReport path) = .error (.badRecord path cause)) ↔
        ∃ error, outcome = .error error ∧ ∃ cause, error = .record cause := by
    intro outcome
    simp only [mapError_eq_error, inReport_eq_badRecord]
    exact ⟨fun ⟨cause, error, hread, h⟩ => ⟨error, hread, cause, h⟩,
      fun ⟨error, hread, cause, h⟩ => ⟨cause, error, hread, h⟩⟩
  have hlabel : ∀ (outcome : Except RowError (List α)) cause,
      (∃ line, outcome.mapError (RowError.inReport path) = .error (.unknownLabel path line cause)) ↔
        ∃ error, outcome = .error error ∧ ∃ line, error = .label line cause := by
    intro outcome cause
    simp only [mapError_eq_error, inReport_eq_unknownLabel]
    exact ⟨fun ⟨line, error, hread, h⟩ => ⟨error, hread, line, h⟩,
      fun ⟨error, hread, line, h⟩ => ⟨line, error, hread, h⟩⟩
  have herror : ∀ (outcome : Except RowError (List α)) error,
      outcome.mapError (RowError.inReport path) = .error error →
        (∃ cause, error = .badRecord path cause) ∨
          ∃ line cause, error = .unknownLabel path line cause := by
    intro outcome error hread
    obtain ⟨cause, -, rfl⟩ := mapError_eq_error.mp hread
    cases cause with
    | record cause => exact .inl ⟨cause, rfl⟩
    | label line cause => exact .inr ⟨line, cause, rfl⟩
  cases table with
  | nil =>
    obtain rfl := List.map_eq_nil_iff.mp hraws
    refine ⟨fun rows => ?_, ?_, fun cause => ?_, herror _⟩
    · rw [mapError_eq_ok, Report.rowsFrom, List.forall₂_nil_left_iff]
      constructor
      · rintro ⟨⟩
        exact ⟨⟨grammar.size, le_rfl, by simp⟩, rfl⟩
      · rintro ⟨-, rfl⟩
        rfl
    · rw [hrecord]
      simp [Report.rowsFrom, not_firstWith_nil]
    · rw [hlabel]
      simp [Report.rowsFrom, not_firstWith_nil]
  | cons first rest =>
    obtain ⟨raw, later, rfl, hraw, -⟩ := List.map_eq_cons_iff.mp hraws
    have hwidth : raw.fields.length = first.length := by rw [hraw, List.length_map]
    have hdiffers : ∀ fields, Differs (first :: rest) fields ↔ fields.length ≠ first.length := by
      simp [Differs]
    have hoff : grammar.IsOff (first :: rest) = grammar.IsOffFrom first.length := by
      funext fields
      rw [IsOff, IsOffFrom, hdiffers]
    rw [rowsFrom_none, hwidth]
    refine ⟨fun rows => ?_, ?_, fun cause => ?_, herror _⟩
    · rw [mapError_eq_ok, rowsFrom_eq_ok h htable hraws]
      constructor
      · rintro ⟨hlengths, hrows⟩
        obtain ⟨row, _, hrow, -, -⟩ := List.forall₂_cons_left_iff.mp hrows
        exact ⟨⟨first.length, h.size first row hrow, hlengths⟩, hrows⟩
      · rintro ⟨⟨width, -, hlengths⟩, hrows⟩
        have hfirst : first.length = width := hlengths first List.mem_cons_self
        exact ⟨fun fields hfields => by rw [hlengths fields hfields, hfirst], hrows⟩
    · rw [hrecord, hoff, exists_rowsFrom_eq_error h htable hraws
        fun start fields hfields => exists_readLine_record_iff h start hfields]
      simp only [hdiffers]
    · rw [hlabel, hoff, exists_rowsFrom_eq_error h htable hraws
        fun start fields hfields => exists_readLine_label_iff h start hfields]
      simp only [hdiffers]

end Table

end Grammar

namespace Report

/-- **Which texts are reports.**  For every text without quotes, carriage returns and byte order mark,
both kinds of reports are read as their grammars say. -/
theorem readReport_grammar {files : FileTree} {path : Path} {text : List Char} (hquote : '\"' ∉ text)
    (hreturn : '\r' ∉ text) (hmark : text.head? ≠ some Log.markChar)
    (hread : files.read path = .ok (Utf8.encode text)) :
    AgreementRow.grammar.Tells (table text) path (AgreementRow.readReport files path) ∧
      StoreRow.grammar.Tells (table text) path (StoreRow.readReport files path) := by
  have htable : ∀ fields ∈ table text, AreUnquoted fields := fun _ => not_mem_of_mem_table hquote
  have hraws := map_fields_split hquote hreturn hmark
  have hrows : ∀ {α : Type} (toRow : Record → Except RowError α), readRows toRow files path =
      (rowsFrom toRow none (Record.split (Utf8.encode text))).mapError (RowError.inReport path) := by
    intro α toRow
    rw [readRows, hread]
    rfl
  rw [AgreementRow.readReport, StoreRow.readReport, hrows, hrows]
  exact ⟨Grammar.tells_rowsFrom AgreementRow.describes htable hraws path,
    Grammar.tells_rowsFrom StoreRow.describes htable hraws path⟩

/-- A report with an empty line and other ways to write numbers and labels, which is none of the store,
and one with an unknown label ahead of a short line. -/
theorem readReport_grammar_other_spellings :
    let text := "4\t1Paxos\tsequential\t5\t7\n\n0x10\ttpc\tsmelt\t-3\t+8".toList
    let off := "4\tTPC\tsmelt\t1\t2\n4\tnone\tsmelt\t1\t2\n4\tTPC\n".toList
    let files : FileTree := ⟨["w"], [(["w"], .directory),
      (["w", "a"], .file (.bytes (Utf8.encode text))), (["w", "b"], .file (.bytes (Utf8.encode off)))]⟩
    AgreementRow.readReport files ⟨"a"⟩ =
      .ok [⟨4, .onePaxos, .sequential, ⟨Float.ofInt 5, Float.ofInt 7⟩⟩,
        ⟨16, .twoPhaseCommit, .smelt, ⟨Float.ofInt (-3), Float.ofInt 8⟩⟩] ∧
      (∃ cause, StoreRow.readReport files ⟨"a"⟩ = .error (.badRecord ⟨"a"⟩ cause)) ∧
      ∃ line, AgreementRow.readReport files ⟨"b"⟩ =
        .error (.unknownLabel ⟨"b"⟩ line (.unknownProtocol "none")) := by
  intro text off files
  obtain ⟨hagreement, hstore⟩ := @readReport_grammar files ⟨"a"⟩ text (by decide) (by decide)
    (by decide) (by decide +kernel)
  obtain ⟨hoff, -⟩ := @readReport_grammar files ⟨"b"⟩ off (by decide) (by decide) (by decide)
    (by decide +kernel)
  let first : List (List Char) := ["4", "1Paxos", "sequential", "5", "7"].map String.toList
  let second : List (List Char) := ["0x10", "tpc", "smelt", "-3", "+8"].map String.toList
  let good : List (List Char) := ["4", "TPC", "smelt", "1", "2"].map String.toList
  let unknown : List (List Char) := ["4", "none", "smelt", "1", "2"].map String.toList
  let short : List (List Char) := ["4", "TPC"].map String.toList
  have htext : table text = [first, second] := by decide +kernel
  have hother : table off = [good, unknown, short] := by decide +kernel
  have hrow : ∀ fields row, AreUnquoted fields →
      AgreementRow.ofRecord (.ofFields ⟨0, 1, 0⟩ fields) = .ok row →
        AgreementRow.grammar.IsRow fields row :=
    fun fields row hfields => (AgreementRow.describes.eq_ok_iff _ hfields).mp
  have hunquoted : AreUnquoted unknown := by simp [AreUnquoted, unknown]
  have hlabel := (AgreementRow.describes.exists_label_iff ⟨0, 1, 0⟩ hunquoted).mp ⟨1, rfl⟩
  refine ⟨(hagreement.rows _).mpr ?_, hstore.badRecord.mpr ?_, (hoff.unknownLabel _).mpr ?_⟩
  · rw [htext]
    refine ⟨⟨5, le_rfl, by simp [first, second]⟩, .cons (hrow _ _ ?_ ?_) (.cons (hrow _ _ ?_ ?_) .nil)⟩
    · simp [AreUnquoted, first]
    · rfl
    · simp [AreUnquoted, second]
    · rfl
  · have hshort : StoreRow.grammar.IsOff [first, second] first := by
      refine .inr fun ⟨row, hwritten⟩ => ?_
      exact absurd (StoreRow.describes.size _ _ hwritten) (by decide)
    have hnumbers := (StoreRow.describes.exists_record_iff ⟨0, 1, 0⟩
      (show AreUnquoted first by simp [AreUnquoted, first])).mp ⟨_, rfl⟩
    rw [htext]
    exact ⟨[], first, (firstWith_cons_of_pos hshort).mpr ⟨rfl, rfl⟩, .inr hnumbers⟩
  · have hgood : ¬ AgreementRow.grammar.IsOff [good, unknown, short] good := by
      rintro (⟨_, ⟨⟩, hlength⟩ | hno)
      · exact hlength rfl
      · exact hno ⟨⟨4, .twoPhaseCommit, .smelt, ⟨Float.ofInt 1, Float.ofInt 2⟩⟩,
          hrow _ _ (by simp [AreUnquoted, good]) rfl⟩
    have hbad : AgreementRow.grammar.IsOff [good, unknown, short] unknown := by
      refine .inr fun ⟨row, hwritten⟩ => ?_
      have hread : Except.error _ = Except.ok row :=
        AgreementRow.describes.row ⟨0, 1, 0⟩ _ _ hunquoted hwritten
      cases hread
    rw [hother]
    refine ⟨[good], unknown, (firstWith_cons_of_neg hgood).mpr
      ⟨[], rfl, (firstWith_cons_of_pos hbad).mpr ⟨rfl, rfl⟩⟩, ?_, hlabel⟩
    simp [Grammar.Differs, good, unknown]

end Report

end BenchReport
