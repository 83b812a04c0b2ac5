/-!
# Environments

The named variables that a command is started with.  Looking one up gives the text that it was set
to.  A variable that is set never changes: `addMissing` sets it only where it is not set yet
(`get?_addMissing`).
-/

namespace BenchReport

/-- Variables with their values. -/
structure Environment where
  bindings : List (String × String)
  deriving DecidableEq, Repr

namespace Environment

/-- The value of a variable. -/
def get? (env : Environment) (name : String) : Option String := env.bindings.lookup name

/-- Sets a variable unless it is set. -/
def addMissing (env : Environment) (name value : String) : Environment :=
  if (env.get? name).isSome then env else ⟨(name, value) :: env.bindings⟩

/-- After `addMissing` the variable has its old value, or the new one if it had none; the others are
as before. -/
theorem get?_addMissing (env : Environment) (name value other : String) :
    (env.addMissing name value).get? other =
      if other = name then some ((env.get? name).getD value) else env.get? other := by
  unfold addMissing
  by_cases h : other = name
  · subst h
    cases hv : env.get? other <;> simp_all [get?]
  · have hb : (other == name) = false := by simpa using h
    split <;> simp [get?, List.lookup_cons, hb]

end Environment

end BenchReport
