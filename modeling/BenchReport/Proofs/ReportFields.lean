import BenchReport.Proofs.Numerals
import BenchReport.Proofs.RoundTrip
import BenchReport.Proofs.SummaryRow
import BenchReport.Report.File

/-!
# The fields of a report

A text without quotes and carriage returns is a table: its lines that are not empty, and their fields
between tabs (`Report.table`).  The records that the reader cuts such a text into are the lines of its
table (`Report.map_fields_split`).

A field can write a count or a figure, in decimal or hexadecimal digits, or name a protocol or a
variant.  Each reader of fields finds exactly what a field writes or names
(`Record.countField_eq_ok`, `Record.figureField_eq_ok`, `Protocol.ofLabel_eq_ok`,
`Variant.ofLabel_eq_ok`).
-/

namespace BenchReport
namespace Report

/-! ## Tables -/

/-- The fields of the lines of a text that are not empty. -/
def table (text : List Char) : List (List (List Char)) :=
  ((text.splitOn '\n').filter (· ≠ [])).map (·.splitOn '\t')

/-- Lines without quotes are read line by line, and empty ones are skipped. -/
lemma map_fields_run {lines : List (List Char)} (plain : ∀ line ∈ lines, Log.IsPlain line)
    (start here : Mark) :
    ((Record.Scanner.fresh start here).run (Utf8.encode (['\n'].intercalate lines))).map
        Record.Raw.fields =
      (lines.filter (· ≠ [])).map fun line => (line.splitOn '\t').map Utf8.encode := by
  have hfeed : Utf8.encode ['\n'] = [Record.lineFeed] := by decide
  have hend : Record.isEnd Record.lineFeed = true := by decide
  induction lines generalizing start here with
  | nil => rfl
  | cons line rest ih =>
    obtain ⟨hline, hrest⟩ := List.forall_mem_cons.mp plain
    cases rest with
    | nil =>
      by_cases hne : line = []
      · subst hne
        rfl
      · obtain ⟨s, ⟨place, hending⟩, hs⟩ := Log.exists_ending_line hline hne start here
        have hrun := hs []
        rw [List.append_nil] at hrun
        rw [List.intercalate_singleton, hrun, hending.run_nil]
        simp [hne]
    | cons next rest =>
      rw [List.intercalate_cons_cons, Utf8.encode_append, Utf8.encode_append, hfeed, List.append_assoc,
        List.singleton_append]
      by_cases hne : line = []
      · subst hne
        rw [Utf8.encode_nil, List.nil_append, Record.Scanner.run_fresh_of_end _ _ hend, ih hrest]
        simp
      · obtain ⟨s, ⟨place, hending⟩, hs⟩ := Log.exists_ending_line hline hne start here
        have hkeep : (line :: next :: rest).filter (· ≠ []) = line :: (next :: rest).filter (· ≠ []) :=
          List.filter_cons_of_pos (by simpa using hne)
        rw [hs, hending.run_end hend, List.map_cons, ih hrest, hkeep, List.map_cons]

lemma isPlain_of_mem_splitOn {text line : List Char} (hquote : '\"' ∉ text) (hreturn : '\r' ∉ text)
    (hline : line ∈ text.splitOn '\n') : Log.IsPlain line := by
  rw [List.splitOn_eq_splitOnP] at hline
  have hmem := mem_of_mem_splitOnP hline
  refine ⟨fun h => ?_, fun h => hreturn (hmem _ h).1, fun h => hquote (hmem _ h).1⟩
  exact absurd (hmem _ h).2 (by decide)

/-- The records of a text are its table. -/
lemma map_fields_split {text : List Char} (hquote : '\"' ∉ text) (hreturn : '\r' ∉ text)
    (hmark : text.head? ≠ some Log.markChar) :
    (Record.split (Utf8.encode text)).map Record.Raw.fields =
      (table text).map fun fields => fields.map Utf8.encode := by
  have hrun := map_fields_run (fun line hline => isPlain_of_mem_splitOn hquote hreturn hline)
    ⟨0, 1, 0⟩ ⟨0, 1, 0⟩
  rw [List.intercalate_splitOn] at hrun
  rw [Record.split, if_neg (mt Log.isPrefixOf_encode_iff.mp hmark), table, List.map_map]
  exact hrun

/-- There are no quotes in the table of a text without quotes. -/
lemma not_mem_of_mem_table {text : List Char} (hquote : '\"' ∉ text) {fields : List (List Char)}
    (hfields : fields ∈ table text) : ∀ field ∈ fields, '\"' ∉ field := by
  intro field hfield hmem
  obtain ⟨line, hline, rfl⟩ := List.mem_map.mp hfields
  have hsplit := (List.mem_filter.mp hline).1
  rw [List.splitOn_eq_splitOnP] at hsplit hfield
  exact hquote (mem_of_mem_splitOnP hsplit _ (mem_of_mem_splitOnP hfield _ hmem).1).1

end Report

/-! ## Numbers and labels -/

namespace Report

/-- An integer of a report is a numeral in decimal digits, or one in hexadecimal digits after `0x`. -/
def WritesInteger {α : Type} (IsNumeral : (radix : ℕ) → List Char → α → Prop) (field : List Char)
    (value : α) : Prop :=
  IsNumeral 10 field value ∨ ∃ digits, field = '0' :: 'x' :: digits ∧ IsNumeral 16 digits value

/-- A field that writes a count, which has 32 bits. -/
def WritesCount (field : List Char) (count : UInt32) : Prop :=
  ∃ n, WritesInteger Numeral.IsNatural field n ∧ n < 2 ^ 32 ∧ count = UInt32.ofNat n

/-- A field that writes a figure, which is an integer of 64 bits. -/
def WritesFigure (field : List Char) (figure : Float) : Prop :=
  ∃ i, WritesInteger Numeral.IsInteger field i ∧ -2 ^ 63 ≤ i ∧ i < 2 ^ 63 ∧ figure = Float.ofInt i

/-- A field that names a protocol by its label, its stem or its legend name. -/
def NamesProtocol (field : List Char) (protocol : Protocol) : Prop :=
  field = protocol.label.toList ∨ field = protocol.stem.toList ∨ field = protocol.legend.toList

/-- A field that names a variant by its label. -/
def NamesVariant (field : List Char) (variant : Variant) : Prop := field = variant.label.toList

/-- There is a field that writes a value. -/
def FieldWrites {α : Type} (writes : List Char → α → Prop) (fields : List (List Char)) (index : ℕ)
    (value : α) : Prop :=
  ∃ field, fields[index]? = some field ∧ writes field value

lemma FieldWrites.lt_length {α : Type} {writes : List Char → α → Prop} {fields : List (List Char)}
    {index : ℕ} {value : α} (h : FieldWrites writes fields index value) : index < fields.length := by
  obtain ⟨field, hfield, -⟩ := h
  exact (List.getElem?_eq_some_iff.mp hfield).1

/-- In front of a field there are others. -/
lemma FieldWrites.exists_field {α : Type} {writes : List Char → α → Prop} {fields : List (List Char)}
    {index earlier : ℕ} {value : α} (h : FieldWrites writes fields index value)
    (hearlier : earlier < index) : ∃ field, fields[earlier]? = some field :=
  ⟨_, List.getElem?_eq_getElem (hearlier.trans h.lt_length)⟩

lemma not_isNatural_hexadecimal {digits : List Char} {n : ℕ} :
    ¬ Numeral.IsNatural 10 ('0' :: 'x' :: digits) n := by
  rintro (hdigits | _)
  obtain ⟨-, hdigit, -⟩ := Numeral.isDigits_ten_iff.mp hdigits
  exact absurd (hdigit 'x' (by simp)) (by decide)

lemma not_isInteger_hexadecimal {digits : List Char} {i : ℤ} :
    ¬ Numeral.IsInteger 10 ('0' :: 'x' :: digits) i := by
  rintro (hnatural | _)
  exact not_isNatural_hexadecimal hnatural

/-- The reader of integers finds what a field writes. -/
lemma integer_eq_ok {α : Type} {read : (radix : ℕ) → List Char → Except NumeralError α}
    {IsNumeral : (radix : ℕ) → List Char → α → Prop}
    (hread : ∀ radix text value, read radix text = .ok value ↔ IsNumeral radix text value)
    (hdecimal : ∀ digits value, ¬ IsNumeral 10 ('0' :: 'x' :: digits) value) {field : List Char}
    {value : α} : Record.integer read field = .ok value ↔ WritesInteger IsNumeral field value := by
  rw [Record.integer.eq_def, WritesInteger]
  split
  · rename_i digits
    simp [hread, hdecimal]
  · rename_i hhex
    rw [hread, or_iff_left]
    rintro ⟨digits, rfl, -⟩
    exact hhex digits rfl

lemma writesInteger_and {α : Type} {IsNumeral : (radix : ℕ) → List Char → α → Prop}
    {bounds : α → Prop} {field : List Char} {value : α} :
    WritesInteger (fun radix text value => IsNumeral radix text value ∧ bounds value) field value ↔
      WritesInteger IsNumeral field value ∧ bounds value := by
  simp only [WritesInteger, ← and_assoc, ← exists_and_right, or_and_right]

/-- The reader of counts finds what a field writes. -/
lemma integer_unsigned_eq_ok {field : List Char} {n : ℕ} :
    Record.integer (fun radix => Numeral.unsigned radix Numeral.maxU32) field = .ok n ↔
      WritesInteger Numeral.IsNatural field n ∧ n < 2 ^ 32 := by
  have hbound : n ≤ Numeral.maxU32 ↔ n < 2 ^ 32 := by
    norm_num [Numeral.maxU32]
    omega
  have hread : ∀ radix text n, Numeral.unsigned radix Numeral.maxU32 text = .ok n ↔
      Numeral.IsNatural radix text n ∧ n ≤ Numeral.maxU32 := fun _ _ _ => Numeral.unsigned_eq_ok
  rw [integer_eq_ok hread fun _ _ h => not_isNatural_hexadecimal h.1, writesInteger_and, hbound]

/-- The reader of figures finds what a field writes. -/
lemma integer_signed_eq_ok {field : List Char} {i : ℤ} :
    Record.integer (fun radix => Numeral.signed radix Numeral.maxI64) field = .ok i ↔
      WritesInteger Numeral.IsInteger field i ∧ -2 ^ 63 ≤ i ∧ i < 2 ^ 63 := by
  have hbounds : (-((Numeral.maxI64 : ℤ) + 1) ≤ i ∧ i ≤ Numeral.maxI64) ↔
      -2 ^ 63 ≤ i ∧ i < 2 ^ 63 := by
    norm_num [Numeral.maxI64]
    omega
  have hread : ∀ radix text i, Numeral.signed radix Numeral.maxI64 text = .ok i ↔
      Numeral.IsInteger radix text i ∧ -((Numeral.maxI64 : ℤ) + 1) ≤ i ∧ i ≤ Numeral.maxI64 :=
    fun _ _ _ => Numeral.signed_eq_ok
  rw [integer_eq_ok hread fun _ _ h => not_isInteger_hexadecimal h.1, writesInteger_and, hbounds]

end Report

namespace Record

open Report (FieldWrites WritesCount WritesFigure)

variable {start : Mark} {fields : List (List Char)} {size index : ℕ}

/-- The record of some fields. -/
def ofFields (start : Mark) (fields : List (List Char)) : Record := ⟨start, fields.map String.ofList⟩

@[simp] lemma start_ofFields : (ofFields start fields).start = start := rfl

lemma field_ofFields {field : List Char} (h : fields[index]? = some field) :
    (ofFields start fields).field size index = .ok (String.ofList field) := by
  rw [Record.field, ofFields, List.getElem?_map, h]
  rfl

lemma integerField_eq_ok {α : Type} {read : (radix : ℕ) → List Char → Except NumeralError α}
    {value : α} : integerField read (ofFields start fields) size index = .ok value ↔
      ∃ field, fields[index]? = some field ∧ integer read field = .ok value := by
  rw [integerField, Record.field, ofFields, List.getElem?_map]
  cases fields[index]? with
  | none => simp
  | some field =>
    cases hread : integer read field <;> simp [hread, Except.mapError]

lemma countField_eq_ok {count : UInt32} :
    (ofFields start fields).countField size index = .ok count ↔
      FieldWrites WritesCount fields index count := by
  simp only [countField, Log.map_eq_ok, integerField_eq_ok, Report.integer_unsigned_eq_ok, FieldWrites,
    WritesCount]
  constructor
  · rintro ⟨n, ⟨field, hfield, hn, hbound⟩, rfl⟩
    exact ⟨field, hfield, n, hn, hbound, rfl⟩
  · rintro ⟨field, hfield, n, hn, hbound, rfl⟩
    exact ⟨n, ⟨field, hfield, hn, hbound⟩, rfl⟩

lemma figureField_eq_ok {figure : Float} :
    (ofFields start fields).figureField size index = .ok figure ↔
      FieldWrites WritesFigure fields index figure := by
  simp only [figureField, Log.map_eq_ok, integerField_eq_ok, Report.integer_signed_eq_ok, FieldWrites,
    WritesFigure]
  constructor
  · rintro ⟨i, ⟨field, hfield, hi, hlo, hhi⟩, rfl⟩
    exact ⟨field, hfield, i, hi, hlo, hhi, rfl⟩
  · rintro ⟨field, hfield, i, hi, hlo, hhi, rfl⟩
    exact ⟨i, ⟨field, hfield, hi, hlo, hhi⟩, rfl⟩

end Record

open Report (NamesProtocol NamesVariant)

lemma eq_ofList_iff {text : String} {field : List Char} :
    text = String.ofList field ↔ field = text.toList := by
  rw [← String.toList_inj, String.toList_ofList, eq_comm]

/-- A protocol is found by each of its names. -/
lemma Protocol.ofLabel_eq_ok {field : List Char} {protocol : Protocol} :
    ofLabel (String.ofList field) = .ok protocol ↔ NamesProtocol field protocol := by
  constructor
  · intro h
    rw [ofLabel] at h
    split at h
    · rename_i found hfound
      obtain rfl := Except.ok.inj h
      have hanswers := List.find?_some hfound
      simpa [answersTo, eq_ofList_iff, NamesProtocol, or_assoc] using hanswers
    · cases h
  · rintro (rfl | rfl | rfl) <;> rw [String.ofList_toList] <;> cases protocol <;> rfl

lemma Variant.unquote_of_not_mem {field : List Char} (h : '\"' ∉ field) :
    unquote (String.ofList field) = String.ofList field := by
  have hfront : ∀ {characters : List Char}, '\"' ∉ characters →
      characters.dropWhile (· == '\"') = characters := by
    intro characters hcharacters
    cases characters with
    | nil => rfl
    | cons c rest =>
      refine List.dropWhile_cons_of_neg ?_
      rw [beq_iff_eq]
      rintro rfl
      exact hcharacters List.mem_cons_self
  rw [unquote, String.toList_ofList]
  rw [hfront h, hfront (by simpa using h), List.reverse_reverse]

/-- A variant is found by its label, if there are no quotes. -/
lemma Variant.ofLabel_eq_ok {field : List Char} (hquote : '\"' ∉ field) {variant : Variant} :
    ofLabel (String.ofList field) = .ok variant ↔ NamesVariant field variant := by
  rw [ofLabel, unquote_of_not_mem hquote]
  constructor
  · intro h
    split at h
    · rename_i found hfound
      obtain rfl := Except.ok.inj h
      have hlabel := List.find?_some hfound
      simpa [eq_ofList_iff, NamesVariant] using hlabel
    · cases h
  · rintro rfl
    rw [String.ofList_toList]
    cases variant <;> rfl

lemma Protocol.ofLabel_eq_error {field : List Char} (h : ¬ ∃ protocol, NamesProtocol field protocol) :
    ofLabel (String.ofList field) = .error (.unknownProtocol (String.ofList field)) := by
  cases hread : ofLabel (String.ofList field) with
  | ok protocol => exact absurd ⟨protocol, ofLabel_eq_ok.mp hread⟩ h
  | error cause =>
    rw [ofLabel] at hread
    split at hread
    · cases hread
    · rw [← Except.error.inj hread]

lemma Variant.ofLabel_eq_error {field : List Char} (hquote : '\"' ∉ field)
    (h : ¬ ∃ variant, NamesVariant field variant) :
    ofLabel (String.ofList field) = .error (.invalidVariant (String.ofList field)) := by
  cases hread : ofLabel (String.ofList field) with
  | ok variant => exact absurd ⟨variant, (ofLabel_eq_ok hquote).mp hread⟩ h
  | error cause =>
    rw [ofLabel, unquote_of_not_mem hquote] at hread
    split at hread
    · cases hread
    · rw [← Except.error.inj hread]

end BenchReport
