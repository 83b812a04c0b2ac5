import BenchReport.Files.Tree
import BenchReport.Journal.Note
/-!
# Results with notes

`Noted ε α` is the result of a step that reads: a value or an error, and the notes taken on the way,
which stay when the step fails.  `Run ε α` is a step that may also change the file tree, and the
changes made before an error stay as well.

Neither lets a step see the notes taken before it, so the outcome of a sequence of steps is the
sequence of their outcomes (`Noted.outcome_bind`), and what a step finds never depends on what was
noted.

`Noted.gather` takes a list item by item and puts the findings together in order; it stops at the
first error.  All scans over configurations and over logs have this form.
-/

namespace BenchReport

/-- A value or an error, with the notes taken on the way. -/
structure Noted (ε α : Type) where
  outcome : Except ε α
  notes : List Note

namespace Noted

variable {ε α β : Type}

/-- A value without notes. -/
def ofOutcome (outcome : Except ε α) : Noted ε α := ⟨outcome, []⟩

/-- Takes a note. -/
def note (level : Level) (topic : Topic) (text : String) : Noted ε Unit :=
  ⟨.ok (), [⟨level, topic, text⟩]⟩

/-- Fails. -/
def fail (error : ε) : Noted ε α := ⟨.error error, []⟩

/-- Goes on with the value of a step, unless it failed. -/
def andThen (step : Noted ε α) (next : α → Noted ε β) : Noted ε β :=
  match step.outcome with
  | .error error => ⟨.error error, step.notes⟩
  | .ok value =>
    let later := next value
    ⟨later.outcome, step.notes ++ later.notes⟩

instance : Monad (Noted ε) where
  pure value := ⟨.ok value, []⟩
  bind := andThen

@[simp] theorem outcome_pure (value : α) : (pure value : Noted ε α).outcome = .ok value := rfl

@[simp] theorem outcome_note (level : Level) (topic : Topic) (text : String) :
    (note level topic text : Noted ε Unit).outcome = .ok () := rfl

@[simp] theorem outcome_fail (error : ε) : (fail error : Noted ε α).outcome = .error error := rfl

@[simp] theorem outcome_ofOutcome (outcome : Except ε α) : (ofOutcome outcome).outcome = outcome :=
  rfl

/-- The outcome of a sequence is the sequence of the outcomes. -/
@[simp] theorem outcome_bind (step : Noted ε α) (next : α → Noted ε β) :
    (step >>= next).outcome = step.outcome.bind fun value => (next value).outcome := by
  show (andThen step next).outcome = _
  unfold andThen
  cases step.outcome <;> rfl

/-- Another type of errors. -/
def mapError {ε' : Type} (change : ε → ε') (step : Noted ε α) : Noted ε' α :=
  ⟨step.outcome.mapError change, step.notes⟩

/-- The findings for all items together, in order. -/
def gather (find : α → Noted ε (List β)) : List α → Noted ε (List β)
  | [] => pure []
  | item :: rest => do
    let first ← find item
    let others ← gather find rest
    pure (first ++ others)

end Noted

/-- A step that may change the file tree. -/
def Run (ε α : Type) : Type := FileTree → FileTree × Noted ε α

namespace Run

variable {ε α β : Type}

/-- A step that leaves the tree as it is. -/
def look (step : FileTree → Noted ε α) : Run ε α := fun tree => (tree, step tree)

/-- A step that changes the tree, or fails and leaves it as it is. -/
def change (step : FileTree → Except ε FileTree) : Run ε Unit := fun tree =>
  match step tree with
  | .error error => (tree, Noted.fail error)
  | .ok changed => (changed, pure ())

/-- A step that changes the tree, as far as it gets. -/
def attempt (step : FileTree → FileTree × Except ε Unit) : Run ε Unit := fun tree =>
  match step tree with
  | (changed, outcome) => (changed, Noted.ofOutcome outcome)

/-- Goes on with the value of a step in the tree that it left, unless it failed. -/
def andThen (step : Run ε α) (next : α → Run ε β) : Run ε β := fun tree =>
  match step tree with
  | (changed, ⟨.error error, notes⟩) => (changed, ⟨.error error, notes⟩)
  | (changed, ⟨.ok value, notes⟩) =>
    match next value changed with
    | (last, later) => (last, ⟨later.outcome, notes ++ later.notes⟩)

instance : Monad (Run ε) where
  pure value := look fun _ => pure value
  bind := andThen

/-- Takes a note. -/
def note (level : Level) (topic : Topic) (text : String) : Run ε Unit :=
  look fun _ => Noted.note level topic text

/-- Fails. -/
def fail (error : ε) : Run ε α := look fun _ => Noted.fail error

/-- Another type of errors. -/
def mapError {ε' : Type} (change : ε → ε') (step : Run ε α) : Run ε' α := fun tree =>
  match step tree with
  | (changed, result) => (changed, result.mapError change)

/-- The findings for all items together, in order. -/
def gather (step : α → Run ε (List β)) : List α → Run ε (List β)
  | [] => pure []
  | item :: rest => do
    let first ← step item
    let others ← gather step rest
    pure (first ++ others)

end Run

end BenchReport
