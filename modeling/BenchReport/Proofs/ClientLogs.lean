import BenchReport.Log.Clients
import BenchReport.Proofs.Scans
import BenchReport.Proofs.SummaryRow

/-!
# What the logs of a file tree give

For a report a path can be three things.  There may be a file with a summary row that is good, and then
it gives a sample (`Log.sampleAt`).  There may be nothing to take, because there is no such file or it
has no summary row (`Log.HasSummaryAt`).  Or the log is broken (`Log.Broken`), and then every
collection that looks at it fails with the error of that log.

`Log.outcome_read` says that reading a log is one of the three, and `Clients.outcome_aggregate` that
the aggregate of some logs is the reduction of the samples of those that have one, in order, unless
one of them is broken.  A sample has as many values as there are columns (`Log.length_of_sampleAt`),
so an aggregate has a mean and a spread for every pair of columns.
-/

namespace BenchReport

namespace Log

/-! ## The states of a log -/

/-- Whether a log has a summary row. -/
def HasSummary (bytes : List UInt8) : Prop :=
  ∃ raw ∈ Record.split bytes, ∃ record, raw.decode .dropped = .ok record ∧ isSummary record = true

/-- Whether a path names a file with a summary row. -/
def HasSummaryAt (files : FileTree) (path : Path) : Prop :=
  ∃ content, files.lookup path = .ok (.file content) ∧ HasSummary content.data

/-- Whether a path names a file from which no sample can be read because of an error: up to the
summary row there is a record that is no text, or the summary row is not good. -/
def Malformed (files : FileTree) (columns : Columns) (path : Path) (error : SampleError) : Prop :=
  ∃ content, files.lookup path = .ok (.file content) ∧
    sample path columns content.data = .error error

/-- Whether the log at a path is broken, and with what error. -/
inductive Broken (files : FileTree) (columns : Columns) (path : Path) : SampleError → Prop
  /-- The path cannot be followed, which is not the same as leading to nothing. -/
  | unreachable {cause : AccessError} (hlookup : files.lookup path = .error cause)
      (hcause : cause ≠ .notFound) : Broken files columns path (.unreadable path cause)
  /-- The path leads to a directory. -/
  | directory (hlookup : files.lookup path = .ok .directory) :
      Broken files columns path (.badRecord path (.unreadable .isADirectory))
  /-- The path leads to a file that is malformed. -/
  | malformed {error : SampleError} (h : Malformed files columns path error) :
      Broken files columns path error

/-- The sample of the log at a path, if there is one. -/
def sampleAt (files : FileTree) (columns : Columns) (path : Path) : Option Sample :=
  match files.lookup path with
  | .ok (.file content) =>
    match sample path columns content.data with
    | .ok found => found
    | .error _ => none
  | _ => none

/-- The error of the log at a path, if it is broken. -/
def faultAt (files : FileTree) (columns : Columns) (path : Path) : Option SampleError :=
  match files.lookup path with
  | .error .notFound => none
  | .error cause => some (.unreadable path cause)
  | .ok .directory => some (.badRecord path (.unreadable .isADirectory))
  | .ok (.file content) =>
    match sample path columns content.data with
    | .ok _ => none
    | .error error => some error

variable {files : FileTree} {columns : Columns} {path : Path}

lemma faultAt_eq_some {error : SampleError} :
    faultAt files columns path = some error ↔ Broken files columns path error := by
  constructor
  · intro h
    rw [faultAt] at h
    split at h
    · cases h
    · rename_i cause hcause hlookup
      obtain rfl := Option.some.inj h
      exact .unreachable hlookup hcause
    · rename_i hlookup
      obtain rfl := Option.some.inj h
      exact .directory hlookup
    · rename_i content hlookup
      split at h
      · cases h
      · rename_i cause hsample
        obtain rfl := Option.some.inj h
        exact .malformed ⟨content, hlookup, hsample⟩
  · rintro (⟨hlookup, hcause⟩ | hlookup | ⟨content, hlookup, hsample⟩)
    · rw [faultAt, hlookup]
      split <;> simp_all
    · rw [faultAt, hlookup]
    · rw [faultAt, hlookup]
      simp only [hsample]

lemma isFile_of_sampleAt {found : Sample} (h : sampleAt files columns path = some found) :
    files.isFile path = true := by
  rw [sampleAt] at h
  split at h
  · rename_i hlookup
    rw [FileTree.isFile, hlookup]
  · cases h

/-- A record that is found to be a summary row settles the sample of a log. -/
lemma isSome_of_firstSample {raws : List Record.Raw} {found : Option Sample}
    (h : firstSample path columns raws = .ok found) :
    found.isSome = true ↔
      ∃ raw ∈ raws, ∃ record, raw.decode .dropped = .ok record ∧ isSummary record = true := by
  induction raws with
  | nil =>
    obtain rfl := Except.ok.inj h
    simp
  | cons raw rest ih =>
    rw [firstSample] at h
    split at h
    · cases h
    · rename_i record hdecode
      split_ifs at h with hsummary
      · obtain ⟨values, -, rfl⟩ := map_eq_ok.mp h
        simp [hdecode, hsummary]
      · simp [ih h, hdecode, hsummary]

/-- A log that is not broken gives a sample exactly if it has a summary row. -/
lemma isSome_sampleAt (h : faultAt files columns path = none) :
    (sampleAt files columns path).isSome = true ↔ HasSummaryAt files path := by
  rw [faultAt] at h
  rw [sampleAt, HasSummaryAt]
  split at h
  · simp [*]
  · cases h
  · cases h
  · rename_i content hlookup
    split at h
    · rename_i found hsample
      simpa [hlookup, hsample, HasSummary] using isSome_of_firstSample hsample
    · cases h

/-- A sample has one value for each column. -/
lemma length_of_sampleAt {found : Sample} (h : sampleAt files columns path = some found) :
    found.values.length = columns.indices.length := by
  have hfirst : ∀ raws, firstSample path columns raws = .ok (some found) →
      found.values.length = columns.indices.length := by
    intro raws hraws
    induction raws with
    | nil => cases hraws
    | cons raw rest ih =>
      rw [firstSample] at hraws
      split at hraws
      · cases hraws
      · split_ifs at hraws
        · obtain ⟨values, hvalues, heq⟩ := map_eq_ok.mp hraws
          obtain rfl := Option.some.inj heq
          exact (figures_eq_ok.mp hvalues).length_eq.symm
        · exact ih hraws
  rw [sampleAt] at h
  split at h
  · split at h
    · rename_i hsample
      subst h
      exact hfirst _ hsample
    · cases h
  · cases h

/-- Where no log is broken, the clients of a run have samples exactly if a log of one of them has a
summary row. -/
lemma samples_ne_nil_iff {clients : UInt32} {pathOf : UInt32 → Path}
    (h : (countsBelow clients).findSome? (fun client => faultAt files columns (pathOf client)) = none) :
    ((countsBelow clients).map pathOf).filterMap (sampleAt files columns) ≠ [] ↔
      ∃ client < clients, HasSummaryAt files (pathOf client) := by
  have hsound := List.findSome?_eq_none_iff.mp h
  rw [List.filterMap_map, ne_eq, List.filterMap_eq_nil_iff, not_forall]
  constructor
  · rintro ⟨client, hsample⟩
    rw [Classical.not_imp, ← ne_eq, ← Option.isSome_iff_ne_none] at hsample
    exact ⟨client, mem_countsBelow.mp hsample.1, (isSome_sampleAt (hsound _ hsample.1)).mp hsample.2⟩
  · rintro ⟨client, hclient, hsummary⟩
    have hmem := mem_countsBelow.mpr hclient
    refine ⟨client, fun hnone => ?_⟩
    have hsome := (isSome_sampleAt (hsound _ hmem)).mpr hsummary
    exact absurd (hnone hmem) (Option.isSome_iff_ne_none.mp hsome)

/-! ## Reading logs -/

/-- Reading a log gives its sample, if it has one, unless the log is broken. -/
lemma outcome_read : (read files columns path).outcome =
    unlessFault (faultAt files columns path) (sampleAt files columns path) := by
  rw [read, faultAt, sampleAt]
  cases hlookup : files.lookup path with
  | error cause => cases cause <;> rfl
  | ok entry =>
    cases entry with
    | directory => rfl
    | file content =>
      simp only [FileTree.bytesOf, Noted.outcome_bind, Noted.outcome_note, Noted.outcome_ofOutcome]
      cases sample path columns content.data with
      | error error => rfl
      | ok found => cases found <;> rfl

lemma outcome_read_toList (files : FileTree) (columns : Columns) (path : Path) :
    (do let found ← read files columns path; pure found.toList : Noted _ _).outcome =
      unlessFault (faultAt files columns path) (sampleAt files columns path).toList := by
  rw [Noted.outcome_bind, outcome_read]
  cases faultAt files columns path <;> rfl

end Log

namespace Clients

variable (clients : Clients) (files : FileTree)

lemma scans_samples (paths : List Path) :
    Scans (Log.faultAt files clients.columns) (Log.sampleAt files clients.columns)
      (clients.samples files paths) paths := by
  have hone : ∀ path, Scans (Log.faultAt files clients.columns) (Log.sampleAt files clients.columns)
      (do let found ← Log.read files clients.columns path; pure found.toList) [path] :=
    fun path => Scans.single (Log.outcome_read_toList files clients.columns path)
  have hlogs := Scans.gather hone paths
  rwa [List.flatMap_singleton'] at hlogs

/-- The aggregate of some logs is the reduction of the samples of those that have one, in order, unless
a log is broken. -/
theorem outcome_aggregate (paths : List Path) :
    (clients.aggregate files paths).outcome =
      unlessFault (paths.findSome? (Log.faultAt files clients.columns))
        (Aggregate.withTotals clients.totals
          (paths.filterMap (Log.sampleAt files clients.columns))) := by
  rw [aggregate, Noted.outcome_bind, clients.scans_samples files paths]
  cases paths.findSome? (Log.faultAt files clients.columns) <;> rfl

/-- The row that the aggregate of some logs makes. -/
lemma outcome_row {β : Type} (rowOf : Aggregate → Option β) (paths : List Path) :
    (do
      let aggregate ← clients.aggregate files paths
      pure (aggregate.bind rowOf).toList : Noted _ _).outcome =
      unlessFault (paths.findSome? (Log.faultAt files clients.columns))
        ((Aggregate.withTotals clients.totals
          (paths.filterMap (Log.sampleAt files clients.columns))).bind rowOf).toList := by
  rw [Noted.outcome_bind, outcome_aggregate]
  cases paths.findSome? (Log.faultAt files clients.columns) <;> rfl

end Clients

namespace Aggregate

/-- Samples of one width are reduced to as many numbers. -/
lemma length_pairs_of_reduce {reduction : ℕ → Reduction} {samples : List Sample} {width : ℕ}
    (hwidth : ∀ sample ∈ samples, sample.values.length = width) {aggregate : Aggregate}
    (h : reduce reduction samples = some aggregate) : aggregate.pairs.length = width / 2 := by
  cases samples with
  | nil => cases h
  | cons first rest =>
    obtain rfl := Option.some.inj h
    rw [pairs, length_pairUp, List.length_map, List.length_range, hwidth first List.mem_cons_self]

end Aggregate

end BenchReport
