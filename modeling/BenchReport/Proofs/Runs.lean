import BenchReport.Collection.Agreement
import BenchReport.Collection.Store
import BenchReport.Proofs.Files

/-!
# What runs come to

`Run.effect` is what a run comes to, but for its notes: the tree that it leaves, and its value or
error.  It is a function of the tree that the run starts in, and that of a sequence is the sequence
of the effects (`Run.effect_bind`), so what a run does is told step by step.  `Run.Gives` says that
a run succeeds with a value and leaves a tree, and `Run.ends` forgets the value and the error.

The runs that make a report all have the same effect, that of collecting lines and writing them
(`Report.collectAndWrite`).
-/

namespace BenchReport

namespace Run

variable {ε ε' α β : Type} {before after : FileTree}

/-- What a run comes to, but for its notes: the tree that it leaves, and its value or error. -/
def effect (run : Run ε α) (before : FileTree) : FileTree × Except ε α :=
  ((run before).1, (run before).2.outcome)

/-- Whether a run succeeds with a value, and leaves another tree. -/
def Gives (run : Run ε α) (before after : FileTree) (value : α) : Prop :=
  (run before).1 = after ∧ (run before).2.outcome = .ok value

lemma gives_iff_effect {run : Run ε α} {value : α} :
    run.Gives before after value ↔ run.effect before = (after, .ok value) := by
  rw [Gives, effect, Prod.mk.injEq]

/-- The effect of a sequence is the sequence of the effects. -/
lemma effect_bind {step : Run ε α} {next : α → Run ε β} :
    (step >>= next).effect before =
      match step.effect before with
      | (between, .error error) => (between, .error error)
      | (between, .ok found) => (next found).effect between := by
  show (andThen step next).effect before = _
  unfold effect andThen
  obtain ⟨changed, outcome, notes⟩ := step before
  cases outcome <;> rfl

@[simp] lemma effect_look {step : FileTree → Noted ε α} :
    (look step).effect before = (before, (step before).outcome) := rfl

@[simp] lemma effect_pure {value : α} : (pure value : Run ε α).effect before = (before, .ok value) :=
  rfl

@[simp] lemma effect_note {level : Level} {topic : Topic} {text : String} :
    (note level topic text : Run ε Unit).effect before = (before, .ok ()) := rfl

@[simp] lemma effect_attempt {step : FileTree → FileTree × Except ε Unit} :
    (attempt step).effect before = step before := rfl

@[simp] lemma effect_ite {condition : Prop} [Decidable condition] {yes no : Run ε α} :
    (if condition then yes else no).effect before =
      if condition then yes.effect before else no.effect before := by
  split_ifs <;> rfl

/-- A change that cannot be made leaves the tree as it is. -/
@[simp] lemma effect_change {step : FileTree → Except ε FileTree} :
    (change step).effect before =
      match step before with
      | .error error => (before, .error error)
      | .ok changed => (changed, .ok ()) := by
  unfold effect change
  cases step before <;> rfl

@[simp] lemma effect_mapError {change : ε → ε'} {step : Run ε α} :
    (step.mapError change).effect before =
      ((step.effect before).1, (step.effect before).2.mapError change) := rfl

/-! ## Ends -/

/-- Where a run ends: the tree that it leaves, and whether it succeeds. -/
def ends (run : Run ε α) (before : FileTree) : FileTree × Bool :=
  ((run.effect before).1, (run.effect before).2.isOk)

/-- A sequence ends where its second step ends, unless the first one fails. -/
lemma ends_bind {step : Run ε α} {next : α → Run ε β} {rest : FileTree → FileTree × Bool}
    (hnext : ∀ found between, (next found).ends between = rest between) :
    (step >>= next).ends before =
      match step.ends before with
      | (between, false) => (between, false)
      | (between, true) => rest between := by
  rw [ends, ends, effect_bind]
  cases h : step.effect before with
  | mk between outcome =>
    cases outcome with
    | error error => rfl
    | ok found => exact hnext found between

/-- A sequence ends where its first step ends, if the second one changes nothing and succeeds. -/
lemma ends_bind_of_ends {step : Run ε α} {next : α → Run ε β}
    (hnext : ∀ found between, (next found).ends between = (between, true)) :
    (step >>= next).ends before = step.ends before := by
  rw [ends_bind hnext]
  obtain ⟨between, ok⟩ := step.ends before
  cases ok <;> rfl

lemma ends_mapError {change : ε → ε'} {step : Run ε α} :
    (step.mapError change).ends before = step.ends before := by
  rw [ends, ends, effect_mapError]
  cases (step.effect before).2 <;> rfl

end Run

/-! ## Making a report -/

namespace Report

/-- What writing lines as a report comes to, if they could be collected. -/
def collectAndWrite (collected : Except SampleError (List String)) (path : Path)
    (files : FileTree) : FileTree × Except CollectionError Path :=
  match collected with
  | .error cause => (files, .error (.sample cause))
  | .ok lines =>
    match files.write path (.bytes (bytes lines)) with
    | .error cause => (files, .error (.report (.inaccessible path cause)))
    | .ok changed => (changed, .ok path)

lemma effect_write (path : Path) (lines : List String) (files : FileTree) :
    (write path lines).effect files =
      match files.write path (.bytes (bytes lines)) with
      | .error cause => (files, .error (.inaccessible path cause))
      | .ok changed => (changed, .ok ()) := by
  rw [write, Run.effect_bind, Run.effect_change]
  cases files.write path (.bytes (bytes lines)) <;> rfl

lemma collectAndWrite_map_eq_ok {α : Type} {collected : Except SampleError (List α)}
    {toLine : α → String} {path found : Path} {files after : FileTree} :
    collectAndWrite (collected.map fun rows => rows.map toLine) path files = (after, .ok found) ↔
      path = found ∧ ∃ rows, collected = .ok rows ∧
        files.write path (.bytes (bytes (rows.map toLine))) = .ok after := by
  cases collected with
  | error cause => simp [collectAndWrite, Except.map]
  | ok rows =>
    simp only [collectAndWrite, Except.map]
    cases hwrite : files.write path (.bytes (bytes (rows.map toLine))) <;>
      simp [hwrite, and_comm]

end Report

namespace AgreementScan

variable (scan : AgreementScan)

lemma effect_run (metric : Metric) (out : Path) (files : FileTree) :
    (scan.run metric out).effect files =
      Report.collectAndWrite
        ((scan.collect metric files).outcome.map fun rows => rows.map AgreementRow.toLine)
        (out.join (Report.agreementName metric scan.maxReplicas)) files := by
  rw [run]
  cases h : (scan.collect metric files).outcome with
  | error cause =>
    simp only [Run.effect_bind, Run.effect_look, Noted.mapError, h]
    rfl
  | ok rows =>
    simp only [Run.effect_bind, Run.effect_look, Noted.mapError, h, Except.mapError, Except.map,
      Run.effect_ite, Run.effect_note, Run.effect_pure, ite_self, Run.effect_mapError,
      Report.effect_write, Report.collectAndWrite]
    cases files.write (out.join (Report.agreementName metric scan.maxReplicas))
      (.bytes (Report.bytes (rows.map AgreementRow.toLine))) <;> rfl

/-- A run that succeeds has collected rows and written them. -/
lemma gives_run {metric : Metric} {out path : Path} {files after : FileTree} :
    (scan.run metric out).Gives files after path ↔
      out.join (Report.agreementName metric scan.maxReplicas) = path ∧
      ∃ rows, (scan.collect metric files).outcome = .ok rows ∧
        files.write (out.join (Report.agreementName metric scan.maxReplicas))
          (.bytes (Report.bytes (rows.map AgreementRow.toLine))) = .ok after := by
  rw [Run.gives_iff_effect, effect_run, Report.collectAndWrite_map_eq_ok]

end AgreementScan

namespace StoreScan

variable (scan : StoreScan)

lemma effect_run (metric : Metric) (out : Path) (files : FileTree) :
    (scan.run metric out).effect files =
      Report.collectAndWrite
        ((scan.collect metric files).outcome.map fun rows => rows.map StoreRow.toLine)
        (out.join (Report.storeName metric scan.maxClients)) files := by
  rw [run]
  cases h : (scan.collect metric files).outcome with
  | error cause =>
    simp only [Run.effect_bind, Run.effect_look, Run.effect_note, Noted.mapError, h]
    rfl
  | ok rows =>
    simp only [Run.effect_bind, Run.effect_look, Noted.mapError, h, Except.mapError, Except.map,
      Run.effect_ite, Run.effect_note, Run.effect_pure, ite_self, Run.effect_mapError,
      Report.effect_write, Report.collectAndWrite]
    cases files.write (out.join (Report.storeName metric scan.maxClients))
      (.bytes (Report.bytes (rows.map StoreRow.toLine))) <;> rfl

/-- A run that succeeds has collected rows and written them. -/
lemma gives_run {metric : Metric} {out path : Path} {files after : FileTree} :
    (scan.run metric out).Gives files after path ↔
      out.join (Report.storeName metric scan.maxClients) = path ∧
      ∃ rows, (scan.collect metric files).outcome = .ok rows ∧
        files.write (out.join (Report.storeName metric scan.maxClients))
          (.bytes (Report.bytes (rows.map StoreRow.toLine))) = .ok after := by
  rw [Run.gives_iff_effect, effect_run, Report.collectAndWrite_map_eq_ok]

end StoreScan

end BenchReport
