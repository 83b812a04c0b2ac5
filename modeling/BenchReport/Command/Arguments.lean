import BenchReport.Files.Path
import BenchReport.Number.Numeral
/-!
# Command line arguments

A command takes named arguments, each with two dashes before its name.  `Argument` says of one what it
takes: nothing, a text, a path, which must not be empty, or a count.  A value follows as the next word,
or behind an equals sign in the same word; a word of its own must not start with a dash, unless it is
nothing but one.

`Invocation.read` reads the words from left to right and stops at the first that makes no sense
(`UsageError`) or asks for the help text or the version, which `help` and `version`, or `-h` and `-V`,
do.  No argument may be given twice, and the required ones have to be given.
-/

namespace BenchReport

/-- What an argument takes. -/
inductive ArgumentKind where
  | flag
  | text
  | path
  | count
  deriving DecidableEq, Repr

/-- An argument of a command. -/
structure Argument where
  /-- The name, without the dashes. -/
  name : String
  kind : ArgumentKind
  help : String
  /-- What stands for the value where the argument is not given. -/
  default : Option String
  required : Bool
  deriving DecidableEq, Repr

/-- Why a command line makes no sense. -/
inductive UsageError where
  /-- There is no such argument. -/
  | unknown (word : String)
  /-- The argument takes no value. -/
  | needlessValue (name : String)
  /-- The argument needs a value. -/
  | missingValue (name : String)
  /-- The value is not what the argument takes. -/
  | badValue (name value : String)
  /-- The argument was given before. -/
  | repeated (name : String)
  /-- The argument has to be given. -/
  | missing (name : String)
  deriving DecidableEq, Repr

/-- The wording of a usage error. -/
def UsageError.message : UsageError → String
  | unknown word => "error: unexpected argument '" ++ word ++ "' found"
  | needlessValue name => "error: unexpected value for '--" ++ name ++ "' found; no more were expected"
  | missingValue name => "error: a value is required for '--" ++ name ++ "' but none was supplied"
  | badValue name value => "error: invalid value '" ++ value ++ "' for '--" ++ name ++ "'"
  | repeated name => "error: the argument '--" ++ name ++ "' cannot be used multiple times"
  | missing name => "error: the required argument '--" ++ name ++ "' was not provided"

/-- The arguments that are given, with their values. -/
structure Given where
  values : List (String × String)
  deriving DecidableEq, Repr

namespace Given

/-- The value of an argument. -/
def text? (given : Given) (name : String) : Option String := given.values.lookup name

/-- The path that an argument gives. -/
def path? (given : Given) (name : String) : Option Path := (given.text? name).map Path.mk

/-- Whether a flag is given. -/
def has (given : Given) (name : String) : Bool := (given.text? name).isSome

/-- The count that a text writes, behind either sign if it is zero. -/
def countOf? (text : String) : Option UInt32 :=
  match Numeral.signed 10 Numeral.maxI64 text.toList with
  | .ok n => if 0 ≤ n ∧ n ≤ Numeral.maxU32 then some (UInt32.ofNat n.toNat) else none
  | .error _ => none

/-- The count that an argument gives. -/
def count? (given : Given) (name : String) : Option UInt32 := (given.text? name).bind countOf?

end Given

namespace Argument

/-- Whether an argument takes a value. -/
def accepts (argument : Argument) (value : String) : Bool :=
  match argument.kind with
  | .flag => false
  | .text => true
  | .path => !value.isEmpty
  | .count => (Given.countOf? value).isSome

end Argument

/-- What a command line asks for. -/
inductive Invocation where
  | help
  | version
  | run (given : Given)
  deriving DecidableEq, Repr

namespace Invocation

/-- What a word of a command line is. -/
inductive Word where
  /-- Two dashes, behind which no names stand any more. -/
  | last
  /-- A name, with the value behind an equals sign if there is one. -/
  | named (name : String) (value : Option String)
  /-- A dash with letters behind it. -/
  | letters (first : Char)
  /-- Anything else. -/
  | plain
  deriving DecidableEq, Repr

/-- What a word is. -/
def wordOf (word : String) : Word :=
  match word.toList with
  | ['-', '-'] => .last
  | '-' :: '-' :: text =>
    let name := String.ofList (text.takeWhile (· != '='))
    match text.dropWhile (· != '=') with
    | [] => .named name none
    | _ :: value => .named name (some (String.ofList value))
  | '-' :: c :: _ => .letters c
  | _ => .plain

/-- Adds an argument to the ones given before. -/
def give (argument : Argument) (value : String) (given : Given) : Except UsageError Given :=
  if argument.kind != .flag && !argument.accepts value then .error (.badValue argument.name value)
  else if given.has argument.name then .error (.repeated argument.name)
  else .ok ⟨(argument.name, value) :: given.values⟩

/-- What is asked for when all words are read. -/
def finish (arguments : List Argument) (given : Given) : Except UsageError Invocation :=
  match arguments.find? fun argument => argument.required && !given.has argument.name with
  | some argument => .error (.missing argument.name)
  | none => .ok (.run given)

/-- What a command line asks for, given the arguments that were read before. -/
def readFrom (arguments : List Argument) (given : Given) : List String → Except UsageError Invocation
  | [] => finish arguments given
  | word :: rest =>
    match wordOf word with
    | .last =>
      match rest with
      | [] => finish arguments given
      | next :: _ => .error (.unknown next)
    | .letters 'h' => .ok .help
    | .letters 'V' => .ok .version
    | .letters _ => .error (.unknown word)
    | .plain => .error (.unknown word)
    | .named name value =>
      match arguments.find? fun argument => argument.name == name with
      | none =>
        if name == "help" || name == "version" then
          if value.isSome then .error (.needlessValue name)
          else .ok (if name == "help" then .help else .version)
        else .error (.unknown word)
      | some argument =>
        if argument.kind = .flag then
          if value.isSome then .error (.needlessValue name)
          else
            match give argument "" given with
            | .error error => .error error
            | .ok given => readFrom arguments given rest
        else
          match value with
          | some value =>
            match give argument value given with
            | .error error => .error error
            | .ok given => readFrom arguments given rest
          | none =>
            match rest with
            | [] => .error (.missingValue name)
            | value :: rest =>
              if wordOf value != .plain then .error (.missingValue name)
              else
                match give argument value given with
                | .error error => .error error
                | .ok given => readFrom arguments given rest

/-- What a command line asks for. -/
def read (arguments : List Argument) (words : List String) : Except UsageError Invocation :=
  readFrom arguments ⟨[]⟩ words

end Invocation

end BenchReport
