import BenchReport.Command.Arguments
import BenchReport.Journal.Note
/-!
# The interface of the commands

The names of the five commands, the arguments that each of them takes, and the texts that describe
them: the help text of a command lists its arguments with what they mean, each on a line of its own,
and the version is the same for all.
-/

namespace BenchReport

namespace CommandName

/-- All commands. -/
def all : List CommandName := [parseAgree, parseKvs, plotAgree, plotKvs, plotSurface]

/-- The name under which a command is called. -/
def title : CommandName → String
  | parseAgree => "parse-agree"
  | parseKvs => "parse-kvs"
  | plotAgree => "plot-agree"
  | plotKvs => "plot-kvs"
  | plotSurface => "plot-surface"

/-! ## Arguments -/

/-- An argument that may be left out. -/
def optional (name : String) (kind : ArgumentKind) (help : String) : Argument :=
  ⟨name, kind, help, none, false⟩

/-- An argument with a fixed value for when it is left out. -/
def defaulted (name : String) (kind : ArgumentKind) (default help : String) : Argument :=
  ⟨name, kind, help, some default, false⟩

/-- An argument that has to be given. -/
def required (name : String) (kind : ArgumentKind) (help : String) : Argument :=
  ⟨name, kind, help, none, true⟩

/-- The tree of the library runs. -/
def treeArgument : Argument :=
  optional "tree" .text "Tree topology of the library runs (env: SMELT_TREE)"

/-- The directory of the reports that are written. -/
def outputArgument : Argument :=
  optional "output-dir" .path "Where reports are written (env: SMELT_OUTPUT_DIR)"

/-- The file with the style of charts. -/
def styleArgument : Argument := optional "style" .path "TOML file overriding the chart style"

/-- The arguments of a command, in the order of its help text. -/
def arguments : CommandName → List Argument
  | parseAgree => [
    defaulted "fpath" .path "." "Directory holding the raw benchmark output",
    required "max-replicas" .count "Largest replica count to look for",
    treeArgument,
    optional "clients" .count "Clients per run (env: SMELT_AGREE_CLIENTS)",
    outputArgument]
  | parseKvs => [
    defaulted "fpath" .path "." "Directory holding the raw client logs",
    required "max-clients" .count "Largest client count to look for",
    treeArgument,
    outputArgument,
    optional "sum-throughput" .flag
      "Report throughput as the total over clients (env: SMELT_KVS_SUM_THROUGHPUT)"]
  | plotAgree => [
    defaulted "plotname" .text "plot"
      ("Output prefix; charts are written to \x60\x7bplotname\x7d-rt.svg\x60 and " ++
        "\x60\x7bplotname\x7d-tp.svg\x60"),
    defaulted "input" .path "." "Directory holding the \x60rt_r*\x60 / \x60tp_r*\x60 reports",
    styleArgument]
  | plotKvs => [
    required "max-clients" .count
      "Client count the reports were generated for (\x60*_numc\n\x60)",
    defaulted "plotname" .text "plot" "Output prefix of the four charts",
    defaulted "input" .path "." "Directory holding the reports",
    styleArgument]
  | plotSurface => [
    optional "input" .path "Sample file; stdin when omitted",
    defaulted "output" .path "surface.svg" "",
    styleArgument]

end CommandName

/-! ## Texts -/

namespace Argument

/-- What stands for the value of an argument in texts. -/
def placeholder (argument : Argument) : String :=
  let name := argument.name.toList.map fun c => if c == '-' then '_' else c.toUpper
  "<" ++ String.ofList name ++ ">"

/-- How an argument is written. -/
def usage (argument : Argument) : String :=
  "--" ++ argument.name ++
    if argument.kind = .flag then "" else " " ++ argument.placeholder

/-- What an argument means, with its fixed value if it has one. -/
def meaning (argument : Argument) : String :=
  match argument.default with
  | none => argument.help
  | some value =>
    (if argument.help.isEmpty then "" else argument.help ++ " ") ++ "[default: " ++ value ++ "]"

end Argument

namespace CommandName

/-- How a command is called. -/
def usage (command : CommandName) : String :=
  let required := command.arguments.filter Argument.required
  "Usage: " ++ command.title ++ " [OPTIONS]" ++
    String.join (required.map fun argument => " " ++ argument.usage)

/-- The lines of the help text that list the arguments: a short form or its blank space, the long form,
and what it means. -/
def listing (command : CommandName) : List (String × String × String) :=
  command.arguments.map (fun argument => ("    ", argument.usage, argument.meaning)) ++
    [("-h, ", "--help", "Print help"), ("-V, ", "--version", "Print version")]

/-- A text filled up with spaces to a length. -/
def padded (length : Nat) (text : String) : String :=
  text ++ String.ofList (List.replicate (length - text.length) ' ')

/-- The lines on which a text stands behind a heading: the first one behind the heading itself, and the
others below it, behind as much blank space. -/
def hanging (heading text : String) : List String :=
  let blank := String.ofList (List.replicate heading.length ' ')
  (text.splitOn "\n").zipIdx.map fun (line, n) => (if n = 0 then heading else blank) ++ line

/-- The help text of a command. -/
def helpLines (command : CommandName) : List String :=
  let listing := command.listing
  let longest := (listing.map fun (_, form, _) => form.length).foldl max 0
  [command.usage, "", "Options:"] ++ listing.flatMap fun (short, form, meaning) =>
    hanging ("  " ++ short ++ padded longest form ++ "  ") meaning

/-- The version of all commands. -/
def version : String := "smeltbench 0.1.0"

end CommandName

end BenchReport
