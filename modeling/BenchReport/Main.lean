import BenchReport.Command.Footprint
/-!
# The program

The program takes the name of a command and the arguments of that command.

It works in three steps.  It copies the places that the command looks at from the disk into a
`FileTree`, runs the command on that tree, and carries the changes back to the disk.
-/

namespace BenchReport

namespace Disk

/-- The text of the path to a location. -/
def pathOf (location : Location) : String := "/" ++ String.intercalate "/" location

/-- What stands at a location on the disk. -/
def entry? (location : Location) : IO (Option Entry) := do
  let place := (← IO.currentDir) / pathOf location
  try
    if ← place.isDir then return some .directory
    else
      let bytes ← IO.FS.readBinFile place
      return some (.file (.bytes bytes.toList))
  catch _ => return none

/-- Copies what stands at a location into a tree. -/
def copy (tree : FileTree) (location : Location) : IO FileTree := do
  if (tree.find? location).isSome then return tree
  match ← entry? location with
  | none => return tree
  | some entry => return tree.put location entry

/-- The environment as far as a command can ask for it: the variables of its own, and those that the
environment file could mean. -/
def environment (tree : FileTree) : IO Environment := do
  let mut bindings := []
  for name in ScanDefaults.variableNames ++ Style.variableNames ++ [CommandName.filterVariable] ++
      EnvironmentFile.mentioned tree do
    if let some value ← IO.getEnv name then
      bindings := (name, value) :: bindings
  return ⟨bindings⟩

/-- The bytes of the standard input. -/
def input : IO (List UInt8) := do
  let stream ← IO.getStdin
  let mut bytes : ByteArray := .empty
  repeat
    let more ← stream.read 65536
    if more.isEmpty then break
    bytes := bytes ++ more
  return bytes.toList

/-- Carries what is new in a tree to the disk, directories first. -/
def carry (before after : FileTree) : IO Unit := do
  let new := after.entries.filter fun (location, entry) => before.find? location != some entry
  let byDepth := new.mergeSort fun a b => a.1.length ≤ b.1.length
  for (location, entry) in byDepth do
    match entry with
    | .directory => IO.FS.createDirAll (pathOf location)
    | .file content => IO.FS.writeBinFile (pathOf location) ⟨content.data.toArray⟩

/-- Runs a command on the disk. -/
def run (command : CommandName) (words : List String) : IO UInt32 := do
  let home := Path.steps ⟨(← IO.currentDir).toString⟩
  let mut tree := FileTree.empty home
  for location in EnvironmentFile.places home do
    tree ← copy tree location
  let environment ← environment tree
  let mut bytes := []
  if let .ok (.run given) := Invocation.read command.arguments words then
    let call : Call := ⟨given, environment.withFile tree, []⟩
    for path in call.footprint command do
      for location in FileTree.trail home path do
        tree ← copy tree location
    if command = .plotSurface ∧ (given.path? "input").isNone = true then
      bytes ← input
  let (after, outcome) := command.run words environment bytes tree
  carry tree after
  for line in outcome.output do
    IO.println line
  for line in outcome.complaints do
    IO.eprintln line
  return outcome.exitCode.toUInt32

end Disk

end BenchReport

/-- Runs the command that the first word names. -/
def main (words : List String) : IO UInt32 := do
  let commands := BenchReport.CommandName.all
  match words with
  | [] =>
    IO.eprintln ("Commands: " ++ String.intercalate " " (commands.map (·.title)))
    return 2
  | name :: words =>
    match commands.find? fun command => command.title == name with
    | some command => BenchReport.Disk.run command words
    | none =>
      IO.eprintln ("Unknown command: " ++ name)
      return 2
