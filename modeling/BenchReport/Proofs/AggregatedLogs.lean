import BenchReport.Proofs.ClientLogs

/-!
# What the aggregate of some logs is made of

A log is looked at record by record.  There is nothing to take from it if there is no such file, or if
all of its records are prose (`Log.Absent`).  Otherwise the first record that is not prose decides: it
is the summary row, and then each of its columns gives a value (`Log.HasSample`), or the log is at fault
(`Log.Faulty`), as a log is that cannot be opened.

`Log.Takes` says what is taken from a list of logs: the samples of those that have one, in order, and
nothing from the others, of which none is at fault.  `Clients.aggregate_spec` says that the aggregate
is made of just these samples, unless a log is at fault, and then the first of them is the error.  Logs
from which there is nothing to take may be put anywhere in the list.

Every sample that is taken has a value in every column of the aggregate, so the zero with which
`Aggregate.column` fills up short samples is never read (`Aggregate.IsReduction.field`).
-/

namespace BenchReport
namespace Log

/-! ## Logs record by record -/

/-- A record that is text and no summary row. -/
def IsProse (raw : Record.Raw) : Prop :=
  ∃ record, raw.decode .dropped = .ok record ∧ isSummary record = false

/-- A record that decides on its log: it is no text, or it is a summary row. -/
def Decides (raw : Record.Raw) : Prop := ¬ IsProse raw

/-- The first record of the log at a path that is not prose. -/
def EndsAt (files : FileTree) (path : Path) (raw : Record.Raw) : Prop :=
  ∃ content before, files.lookup path = .ok (.file content) ∧
    FirstWith Decides (Record.split content.data) before raw

/-- The summary row of the log at a path. -/
def HasRow (files : FileTree) (path : Path) (record : Record) : Prop :=
  ∃ raw, EndsAt files path raw ∧ raw.decode .dropped = .ok record

/-- There is no log at a path, or one without a summary row. -/
inductive Absent (files : FileTree) (path : Path) : Prop
  | missing (hlookup : files.lookup path = .error .notFound) : Absent files path
  | prose {content : Content} (hlookup : files.lookup path = .ok (.file content))
    (hprose : ∀ raw ∈ Record.split content.data, IsProse raw) : Absent files path

/-- The log at a path has a summary row with a value in every column. -/
def HasSample (files : FileTree) (columns : Columns) (path : Path) (sample : Sample) : Prop :=
  ∃ record, HasRow files path record ∧ List.Forall₂ (Gives record) columns.indices sample.values

/-- What is wrong with the log at a path: it cannot be opened, it is no text up to its summary row, or
that row has a column without a value. -/
inductive Faulty (files : FileTree) (columns : Columns) (path : Path) : SampleError → Prop
  | unreachable {cause : AccessError} (hlookup : files.lookup path = .error cause)
    (hcause : cause ≠ .notFound) : Faulty files columns path (.unreadable path cause)
  | directory (hlookup : files.lookup path = .ok .directory) :
    Faulty files columns path (.badRecord path (.unreadable .isADirectory))
  | notText {raw : Record.Raw} {cause : RecordError} (hraw : EndsAt files path raw)
    (hcause : raw.decode .dropped = .error cause) : Faulty files columns path (.badRecord path cause)
  | column {record : Record} {before : List ℕ} {column : ℕ} {error : SampleError}
    (hrow : HasRow files path record)
    (hcolumn : FirstWith (IsLacking record) columns.indices before column)
    (herror : Refuses path record column error) : Faulty files columns path error

/-! ## Reading one log -/

variable {files : FileTree} {columns : Columns} {path : Path}

lemma firstSample_of_prose {raws : List Record.Raw} (h : ∀ raw ∈ raws, IsProse raw) :
    firstSample path columns raws = .ok none := by
  induction raws with
  | nil => rfl
  | cons raw rest ih =>
    obtain ⟨⟨record, hdecode, hprose⟩, hrest⟩ := List.forall_mem_cons.mp h
    simp [firstSample, hdecode, hprose, ih hrest]

/-- What the first record that is not prose makes of a log. -/
def settle (path : Path) (columns : Columns) (raw : Record.Raw) : Except SampleError (Option Sample) :=
  match raw.decode .dropped with
  | .error cause => .error (.badRecord path cause)
  | .ok record => (figures path record columns.indices).map fun values => some ⟨values⟩

lemma firstSample_of_firstWith {raws before : List Record.Raw} {raw : Record.Raw}
    (h : FirstWith Decides raws before raw) :
    firstSample path columns raws = settle path columns raw := by
  induction raws generalizing before with
  | nil => exact absurd h not_firstWith_nil
  | cons first rest ih =>
    by_cases hfirst : Decides first
    · obtain ⟨-, rfl⟩ := (firstWith_cons_of_pos hfirst).mp h
      rw [firstSample, settle]
      cases hdecode : raw.decode .dropped with
      | error cause => rfl
      | ok record =>
        have hsummary : isSummary record = true := by
          by_contra hno
          exact hfirst ⟨record, hdecode, by simpa using hno⟩
        simp only [hsummary, if_true]
    · obtain ⟨later, -, hlater⟩ := (firstWith_cons_of_neg hfirst).mp h
      obtain ⟨record, hdecode, hsummary⟩ := not_not.mp hfirst
      simp [firstSample, hdecode, hsummary, ih hlater]

lemma outcome_read_of_file {content : Content} (hlookup : files.lookup path = .ok (.file content)) :
    (read files columns path).outcome = firstSample path columns (Record.split content.data) := by
  rw [outcome_read, faultAt, sampleAt, hlookup, ← sample]
  dsimp only
  cases sample path columns content.data <;> rfl

lemma outcome_read_of_endsAt {raw : Record.Raw} (h : EndsAt files path raw) :
    (read files columns path).outcome = settle path columns raw := by
  obtain ⟨content, before, hlookup, hfirst⟩ := h
  rw [outcome_read_of_file hlookup, firstSample_of_firstWith hfirst]

lemma outcome_read_of_hasRow {record : Record} (h : HasRow files path record) :
    (read files columns path).outcome =
      (figures path record columns.indices).map fun values => some ⟨values⟩ := by
  obtain ⟨raw, hraw, hdecode⟩ := h
  rw [outcome_read_of_endsAt hraw, settle, hdecode]

lemma outcome_read_of_absent (h : Absent files path) :
    (read files columns path).outcome = .ok none := by
  cases h with
  | missing hlookup => rw [outcome_read, faultAt, sampleAt, hlookup]; rfl
  | prose hlookup hprose => rw [outcome_read_of_file hlookup, firstSample_of_prose hprose]

lemma outcome_read_of_hasSample {found : Sample} (h : HasSample files columns path found) :
    (read files columns path).outcome = .ok (some found) := by
  obtain ⟨record, hrow, hvalues⟩ := h
  rw [outcome_read_of_hasRow hrow, figures_eq_ok.mpr hvalues]
  rfl

lemma outcome_read_of_faulty {error : SampleError} (h : Faulty files columns path error) :
    (read files columns path).outcome = .error error := by
  cases h with
  | unreachable hlookup hcause =>
    rw [outcome_read, faultAt_eq_some.mpr (.unreachable hlookup hcause)]
    rfl
  | directory hlookup =>
    rw [outcome_read, faultAt_eq_some.mpr (.directory hlookup)]
    rfl
  | notText hraw hcause => rw [outcome_read_of_endsAt hraw, settle, hcause]
  | column hrow hcolumn herror =>
    rw [outcome_read_of_hasRow hrow, figures_eq_error.mpr ⟨_, _, hcolumn, herror⟩]
    rfl

/-- A column of a record gives a value or is refused. -/
lemma gives_or_refuses (path : Path) (record : Record) (column : ℕ) :
    (∃ value, Gives record column value) ∨ ∃ error, Refuses path record column error := by
  cases h : figure path record column with
  | ok value => exact .inl ⟨value, figure_eq_ok.mp h⟩
  | error error => exact .inr ⟨error, figure_eq_error.mp h⟩

/-- A log is one of the three. -/
lemma absent_or_hasSample_or_faulty (files : FileTree) (columns : Columns) (path : Path) :
    Absent files path ∨ (∃ found, HasSample files columns path found) ∨
      ∃ error, Faulty files columns path error := by
  cases hlookup : files.lookup path with
  | error cause =>
    by_cases hcause : cause = .notFound
    · subst hcause
      exact .inl (.missing hlookup)
    · exact .inr (.inr ⟨_, .unreachable hlookup hcause⟩)
  | ok entry =>
    cases entry with
    | directory => exact .inr (.inr ⟨_, .directory hlookup⟩)
    | file content =>
      by_cases hprose : ∀ raw ∈ Record.split content.data, IsProse raw
      · exact .inl (.prose hlookup hprose)
      · obtain ⟨before, raw, hfirst⟩ : ∃ before raw,
            FirstWith Decides (Record.split content.data) before raw :=
          exists_firstWith (by simpa [Decides] using hprose)
        have hraw : EndsAt files path raw := ⟨content, before, hlookup, hfirst⟩
        cases hdecode : raw.decode .dropped with
        | error cause => exact .inr (.inr ⟨_, .notText hraw hdecode⟩)
        | ok record =>
          have hrow : HasRow files path record := ⟨raw, hraw, hdecode⟩
          by_cases hall : ∀ column ∈ columns.indices, ∃ value, Gives record column value
          · obtain ⟨values, hvalues⟩ := exists_forall₂_iff.mpr hall
            exact .inr (.inl ⟨⟨values⟩, record, hrow, hvalues⟩)
          · obtain ⟨before, column, hcolumn⟩ : ∃ before column,
                FirstWith (IsLacking record) columns.indices before column :=
              exists_firstWith (by simpa [IsLacking] using hall)
            obtain ⟨error, herror⟩ := (gives_or_refuses path record column).resolve_left hcolumn.1
            exact .inr (.inr ⟨error, .column hrow hcolumn herror⟩)

/-- What the outcome of reading a log says of the log. -/
def Reads (files : FileTree) (columns : Columns) (path : Path) :
    Except SampleError (Option Sample) → Prop
  | .ok none => Absent files path
  | .ok (some found) => HasSample files columns path found
  | .error error => Faulty files columns path error

lemma outcome_read_iff {result : Except SampleError (Option Sample)} :
    (read files columns path).outcome = result ↔ Reads files columns path result := by
  constructor
  · rintro rfl
    rcases absent_or_hasSample_or_faulty files columns path with h | ⟨found, h⟩ | ⟨error, h⟩
    · rwa [outcome_read_of_absent h]
    · rwa [outcome_read_of_hasSample h]
    · rwa [outcome_read_of_faulty h]
  · intro h
    match result with
    | .ok none => exact outcome_read_of_absent h
    | .ok (some found) => exact outcome_read_of_hasSample h
    | .error error => exact outcome_read_of_faulty h

lemma faultAt_eq_some_iff {error : SampleError} :
    faultAt files columns path = some error ↔ Faulty files columns path error := by
  have hread : (read files columns path).outcome = .error error ↔ Faulty files columns path error :=
    outcome_read_iff
  rw [← hread, outcome_read, unlessFault_eq_error]

lemma sampleAt_eq_iff {found : Option Sample} :
    faultAt files columns path = none ∧ sampleAt files columns path = found ↔
      Reads files columns path (.ok found) := by
  rw [← outcome_read_iff, outcome_read, unlessFault_eq_ok]

/-! ## Taking the samples of some logs -/

/-- What is taken from the logs at some paths, of which none is at fault. -/
inductive Takes (files : FileTree) (columns : Columns) : List Path → List Sample → Prop
  | nil : Takes files columns [] []
  | absent {path : Path} {paths : List Path} {samples : List Sample} (h : Absent files path)
    (hrest : Takes files columns paths samples) : Takes files columns (path :: paths) samples
  | sample {path : Path} {paths : List Path} {found : Sample} {samples : List Sample}
    (h : HasSample files columns path found) (hrest : Takes files columns paths samples) :
    Takes files columns (path :: paths) (found :: samples)

/-- Taking from a list of logs is looking at one after the other. -/
lemma takes_iff {paths : List Path} {samples : List Sample} :
    Takes files columns paths samples ↔
      paths.findSome? (faultAt files columns) = none ∧
        paths.filterMap (sampleAt files columns) = samples := by
  constructor
  · intro h
    induction h with
    | nil => exact ⟨rfl, rfl⟩
    | absent h _ ih =>
      obtain ⟨hsound, hnone⟩ := sampleAt_eq_iff.mpr (show Reads _ columns _ (.ok none) from h)
      rw [List.findSome?_cons, hsound, List.filterMap_cons_none hnone]
      exact ih
    | sample h _ ih =>
      obtain ⟨hsound, hsome⟩ := sampleAt_eq_iff.mpr (show Reads _ columns _ (.ok (some _)) from h)
      rw [List.findSome?_cons, hsound, List.filterMap_cons_some hsome]
      exact ⟨ih.1, congrArg _ ih.2⟩
  · rintro ⟨hsound, rfl⟩
    induction paths with
    | nil => exact .nil
    | cons path rest ih =>
      rw [List.findSome?_eq_none_iff, List.forall_mem_cons, ← List.findSome?_eq_none_iff] at hsound
      obtain ⟨hpath, hrest⟩ := hsound
      cases hsample : sampleAt files columns path with
      | none =>
        rw [List.filterMap_cons_none hsample]
        exact .absent (sampleAt_eq_iff.mp ⟨hpath, hsample⟩) (ih hrest)
      | some found =>
        rw [List.filterMap_cons_some hsample]
        exact .sample (sampleAt_eq_iff.mp ⟨hpath, hsample⟩) (ih hrest)

/-- A sample that is taken has a value in each column. -/
lemma Takes.length_values {paths : List Path} {samples : List Sample}
    (h : Takes files columns paths samples) :
    ∀ found ∈ samples, found.values.length = columns.indices.length := by
  induction h with
  | nil => simp
  | absent _ _ ih => exact ih
  | sample h _ ih =>
    obtain ⟨record, -, hvalues⟩ := h
    exact List.forall_mem_cons.mpr ⟨hvalues.length_eq.symm, ih⟩

/-- Nothing is taken exactly if there is nothing to take anywhere. -/
lemma takes_nil_iff {paths : List Path} :
    Takes files columns paths [] ↔ ∀ path ∈ paths, Absent files path := by
  induction paths with
  | nil => simp [Takes.nil]
  | cons path rest ih =>
    rw [List.forall_mem_cons, ← ih]
    constructor
    · rintro (_ | ⟨h, hrest⟩)
      exact ⟨h, hrest⟩
    · rintro ⟨h, hrest⟩
      exact .absent h hrest

end Log

/-! ## Reducing samples -/

namespace Aggregate

variable {totals : List ℕ} {width : ℕ} {samples : List Sample} {aggregate : Aggregate}

/-- What an aggregate is to the samples that it is made of, which have a value in each of `width`
columns. -/
structure IsReduction (totals : List ℕ) (width : ℕ) (samples : List Sample) (aggregate : Aggregate) :
    Prop where
  count : aggregate.samples = samples.length
  length : aggregate.fields.length = width
  /-- A field is the sum or the mean of the values that are there. -/
  field : ∀ index < width, ∃ values,
    List.Forall₂ (fun (sample : Sample) value => sample.values[index]? = some value) samples values ∧
      aggregate.fields[index]? =
        some ((if index ∈ totals then Reduction.sum else .mean).apply (values.map Float.ofInt))
  pairs : aggregate.pairs.length = width / 2
  /-- No field is left out of the pairs. -/
  paired : Even width →
    (aggregate.pairs.flatMap fun pair => [pair.mean, pair.spread]) = aggregate.fields

/-- In a column in which all samples have a value, no zero stands for one. -/
lemma exists_column {index : ℕ} (h : ∀ sample ∈ samples, index < sample.values.length) :
    ∃ values, List.Forall₂ (fun (sample : Sample) value => sample.values[index]? = some value) samples
      values ∧ column samples index = values.map Float.ofInt := by
  induction samples with
  | nil => exact ⟨[], .nil, rfl⟩
  | cons first rest ih =>
    rw [List.forall_mem_cons] at h
    obtain ⟨hindex, hrest⟩ := h
    obtain ⟨values, hvalues, hcolumn⟩ := ih hrest
    have hfirst := List.getElem?_eq_getElem hindex
    refine ⟨first.values[index] :: values, .cons hfirst hvalues, ?_⟩
    rw [column, List.map_cons, ← column, hcolumn, List.getD_eq_getElem?_getD, hfirst]
    rfl

lemma flatMap_pairUp : ∀ {fields : List Float}, Even fields.length →
    ((pairUp fields).flatMap fun pair => [pair.mean, pair.spread]) = fields
  | [], _ => rfl
  | [_], h => by simp at h
  | mean :: spread :: rest, h => by
    have hrest : Even rest.length := by simpa [Nat.even_add_one] using h
    simp [pairUp, flatMap_pairUp hrest]

lemma isReduction_withTotals (hwidth : ∀ sample ∈ samples, sample.values.length = width)
    (h : withTotals totals samples = some aggregate) : IsReduction totals width samples aggregate := by
  have hpairs := length_pairs_of_reduce hwidth h
  cases samples with
  | nil => cases h
  | cons first rest =>
    obtain rfl := Option.some.inj h
    have hfirst : first.values.length = width := hwidth first List.mem_cons_self
    have hfields : ((List.range first.values.length).map fun index =>
        (if totals.contains index then Reduction.sum else .mean).apply
          (column (first :: rest) index)).length = width := by
      rw [List.length_map, List.length_range, hfirst]
    refine ⟨rfl, hfields, fun index hindex => ?_, hpairs, fun heven => ?_⟩
    · have hlong : ∀ sample ∈ first :: rest, index < sample.values.length := by
        intro sample hsample
        rwa [hwidth sample hsample]
      obtain ⟨values, hvalues, hcolumn⟩ := exists_column hlong
      refine ⟨values, hvalues, ?_⟩
      rw [List.getElem?_map, List.getElem?_range (by rwa [hfirst]), Option.map_some, hcolumn]
      simp
    · rw [← hfields] at heven
      exact flatMap_pairUp heven

end Aggregate

namespace Columns

/-- The columns of a report come in pairs. -/
lemma even_agreement : Even agreement.indices.length := by decide

lemma even_store (metric : Metric) : Even (store metric).indices.length := by
  cases metric <;> decide

end Columns

/-! ## Aggregates of logs -/

namespace Clients

open Log (Faulty Takes Absent HasSample)

variable {clients : Clients} {files : FileTree} {paths : List Path}

lemma outcome_aggregate_eq_error {error : SampleError} :
    (clients.aggregate files paths).outcome = .error error ↔
      ∃ before path, FirstWith (fun path => ∃ cause, Faulty files clients.columns path cause) paths
        before path ∧ Faulty files clients.columns path error := by
  simp only [outcome_aggregate, unlessFault_eq_error, List.findSome?_eq_some_iff,
    Option.eq_none_iff_forall_ne_some, ne_eq, Log.faultAt_eq_some_iff, FirstWith, not_exists]
  constructor
  · rintro ⟨before, path, after, hsplit, herror, hbefore⟩
    exact ⟨before, path, ⟨⟨error, herror⟩, hbefore, after, hsplit⟩, herror⟩
  · rintro ⟨before, path, ⟨-, hbefore, after, hsplit⟩, herror⟩
    exact ⟨before, path, after, hsplit, herror, hbefore⟩

lemma outcome_aggregate_eq_ok {result : Option Aggregate} :
    (clients.aggregate files paths).outcome = .ok result ↔
      ∃ samples, Takes files clients.columns paths samples ∧
        result = Aggregate.withTotals clients.totals samples := by
  simp only [outcome_aggregate, unlessFault_eq_ok, Log.takes_iff]
  constructor
  · rintro ⟨hsound, rfl⟩
    exact ⟨_, ⟨hsound, rfl⟩, rfl⟩
  · rintro ⟨_, ⟨hsound, rfl⟩, rfl⟩
    exact ⟨hsound, rfl⟩

lemma outcome_aggregate_eq_none :
    (clients.aggregate files paths).outcome = .ok none ↔ ∀ path ∈ paths, Absent files path := by
  rw [outcome_aggregate_eq_ok, ← Log.takes_nil_iff]
  constructor
  · rintro ⟨samples, htakes, hnone⟩
    obtain rfl := Aggregate.reduce_eq_none_iff.mp hnone.symm
    exact htakes
  · intro htakes
    exact ⟨[], htakes, rfl⟩

/-- Logs from which there is nothing to take make no difference. -/
lemma outcome_aggregate_insert {before extra after : List Path}
    (h : ∀ path ∈ extra, Absent files path) :
    (clients.aggregate files (before ++ extra ++ after)).outcome =
      (clients.aggregate files (before ++ after)).outcome := by
  have htakes : Takes files clients.columns extra [] := Log.takes_nil_iff.mpr h
  obtain ⟨hsound, hnone⟩ := Log.takes_iff.mp htakes
  simp [outcome_aggregate, List.findSome?_append, List.filterMap_append, hsound, hnone]

variable (clients files paths)

/-- **What is aggregated.**  The first log that is at fault is the error.  If none is, the aggregate is
made of the samples of those logs that have one, in order; there is none exactly if no log has one.
All of these samples have a value in each column, so that the aggregate is their reduction without any
zero for one, with one field for each column and half as many pairs.  Putting in or leaving out logs
from which there is nothing to take changes nothing. -/
theorem aggregate_spec :
    (∀ error, (clients.aggregate files paths).outcome = .error error ↔
      ∃ before path, FirstWith (fun path => ∃ cause, Faulty files clients.columns path cause) paths
        before path ∧ Faulty files clients.columns path error) ∧
    (∀ result, (clients.aggregate files paths).outcome = .ok result ↔
      ∃ samples, Takes files clients.columns paths samples ∧
        result = Aggregate.withTotals clients.totals samples) ∧
    ((clients.aggregate files paths).outcome = .ok none ↔ ∀ path ∈ paths, Absent files path) ∧
    (∀ samples aggregate, Takes files clients.columns paths samples →
      Aggregate.withTotals clients.totals samples = some aggregate →
        (∀ found ∈ samples, found.values.length = clients.columns.indices.length) ∧
        aggregate.IsReduction clients.totals clients.columns.indices.length samples) ∧
    (clients.columns = .agreement ∨ (∃ metric, clients.columns = .store metric) →
      ∀ aggregate, (clients.aggregate files paths).outcome = .ok (some aggregate) →
        aggregate.fields.length = clients.columns.indices.length ∧
        2 * aggregate.pairs.length = clients.columns.indices.length) ∧
    ∀ before extra after, paths = before ++ after → (∀ path ∈ extra, Absent files path) →
      (clients.aggregate files (before ++ extra ++ after)).outcome =
        (clients.aggregate files paths).outcome := by
  refine ⟨fun _ => outcome_aggregate_eq_error, fun _ => outcome_aggregate_eq_ok,
    outcome_aggregate_eq_none, ?_, ?_, ?_⟩
  · intro samples aggregate htakes haggregate
    exact ⟨htakes.length_values, Aggregate.isReduction_withTotals htakes.length_values haggregate⟩
  · intro hcolumns aggregate houtcome
    obtain ⟨samples, htakes, haggregate⟩ := outcome_aggregate_eq_ok.mp houtcome
    have hreduction := Aggregate.isReduction_withTotals htakes.length_values haggregate.symm
    have heven : Even clients.columns.indices.length := by
      rcases hcolumns with h | ⟨metric, h⟩
      · rw [h]
        exact Columns.even_agreement
      · rw [h]
        exact Columns.even_store metric
    exact ⟨hreduction.length, by rw [hreduction.pairs, Nat.two_mul_div_two_of_even heven]⟩
  · rintro before extra after rfl h
    exact outcome_aggregate_insert h

/-- Two logs with figures between one that is not there and one without a summary row, and a log whose
summary row is too short. -/
theorem aggregate_spec_gaps :
    let clients : Clients := ⟨.agreement, [1]⟩
    let log : String → String → Location × Entry := fun name text =>
      (["w", name], .file (.bytes (Utf8.ofString text)))
    let files : FileTree := ⟨["w"], [(["w"], .directory), log "0" "Algo 1\n||\t4000\t6000\n",
      log "2" "no figures\n", log "3" "||\t8000\t2000", log "4" "||\t1\n"]⟩
    ∃ aggregate : Aggregate,
      (clients.aggregate files [⟨"0"⟩, ⟨"1"⟩, ⟨"2"⟩, ⟨"3"⟩]).outcome = .ok (some aggregate) ∧
      aggregate.IsReduction [1] 2 [⟨[4, 6]⟩, ⟨[8, 2]⟩] ∧ 2 * aggregate.pairs.length = 2 ∧
      (clients.aggregate files [⟨"0"⟩, ⟨"3"⟩]).outcome = .ok (some aggregate) ∧
      (clients.aggregate files [⟨"0"⟩, ⟨"1"⟩, ⟨"4"⟩]).outcome =
        .error (.missingField ⟨"4"⟩ 2) := by
  intro clients log files
  obtain ⟨-, hok, -, hsamples, hpairs, -⟩ := clients.aggregate_spec files [⟨"0"⟩, ⟨"1"⟩, ⟨"2"⟩, ⟨"3"⟩]
  obtain ⟨-, -, -, -, -, hinsert⟩ := clients.aggregate_spec files [⟨"0"⟩, ⟨"3"⟩]
  obtain ⟨herror, -, -, -, -, -⟩ := clients.aggregate_spec files [⟨"0"⟩, ⟨"1"⟩, ⟨"4"⟩]
  have hfirst : Log.Reads files .agreement ⟨"0"⟩ (.ok (some ⟨[4, 6]⟩)) :=
    Log.outcome_read_iff.mp (by decide +kernel)
  have hmissing : Log.Reads files .agreement ⟨"1"⟩ (.ok none) :=
    Log.outcome_read_iff.mp (by decide +kernel)
  have hprose : Log.Reads files .agreement ⟨"2"⟩ (.ok none) :=
    Log.outcome_read_iff.mp (by decide +kernel)
  have hlast : Log.Reads files .agreement ⟨"3"⟩ (.ok (some ⟨[8, 2]⟩)) :=
    Log.outcome_read_iff.mp (by decide +kernel)
  have hfaulty : Log.Reads files .agreement ⟨"4"⟩ (.error (.missingField ⟨"4"⟩ 2)) :=
    Log.outcome_read_iff.mp (by decide +kernel)
  have hsound : ∀ path found, Log.Reads files .agreement path (.ok found) →
      ¬ ∃ cause, Faulty files .agreement path cause := by
    rintro path found hread ⟨cause, hcause⟩
    have hfails : (Log.read files .agreement path).outcome = .error cause :=
      Log.outcome_read_iff.mpr hcause
    rw [Log.outcome_read_iff.mpr hread] at hfails
    cases hfails
  have htakes : Takes files .agreement [⟨"0"⟩, ⟨"1"⟩, ⟨"2"⟩, ⟨"3"⟩] [⟨[4, 6]⟩, ⟨[8, 2]⟩] :=
    .sample hfirst (.absent hmissing (.absent hprose (.sample hlast .nil)))
  obtain ⟨aggregate, haggregate⟩ : ∃ aggregate,
      Aggregate.withTotals [1] [⟨[4, 6]⟩, ⟨[8, 2]⟩] = some aggregate := ⟨_, rfl⟩
  have houtcome := (hok (some aggregate)).mpr ⟨_, htakes, haggregate.symm⟩
  refine ⟨aggregate, houtcome, (hsamples _ _ htakes haggregate).2, (hpairs (.inl rfl) _ houtcome).2,
    ?_, ?_⟩
  · have habsent : ∀ path ∈ [(⟨"1"⟩ : Path), ⟨"2"⟩], Absent files path := by
      intro path hpath
      rcases List.mem_pair.mp hpath with rfl | rfl
      · exact hmissing
      · exact hprose
    exact (hinsert [⟨"0"⟩] [⟨"1"⟩, ⟨"2"⟩] [⟨"3"⟩] rfl habsent).symm.trans houtcome
  · refine (herror _).mpr ⟨[⟨"0"⟩, ⟨"1"⟩], ⟨"4"⟩, ⟨⟨_, hfaulty⟩, ?_, [], rfl⟩, hfaulty⟩
    intro path hpath
    rcases List.mem_pair.mp hpath with rfl | rfl
    · exact hsound _ _ hfirst
    · exact hsound _ _ hmissing

end Clients
end BenchReport
