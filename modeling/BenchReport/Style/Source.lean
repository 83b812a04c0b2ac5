import BenchReport.Files.Tree
import BenchReport.Settings.Environment
import BenchReport.Style
import BenchReport.Toml.Document
/-!
# Where styles come from

`Style.load` takes the style from a file, if one is named, and from the environment otherwise.  In both
of them everything that is left open is as in `Style.standard`.

*The environment.*  A variable whose text is no number counts as left open.  An upper end that is not
above zero asks for an axis that follows the data.

*A file.*  It is a TOML document whose keys `width`, `height`, `font_size`, `rt_y_max` and `tp_y_max`
have to be numbers of the right kind; upper ends are taken as they are.  All other keys are ignored.
-/

namespace BenchReport

/-- Why a style could not be loaded. -/
inductive StyleError where
  /-- The file could not be read. -/
  | unreadable (path : Path) (cause : AccessError)
  /-- The file is no document, or one of its numbers is not of the right kind. -/
  | malformed (path : Path)
  deriving DecidableEq, Repr

namespace StyleError

/-- The wording of a style error. -/
def message : StyleError → String
  | unreadable path _ => "Failed to read plot style file: " ++ path.text
  | malformed path => "Failed to parse plot style TOML: " ++ path.text

/-- The wording of the errors behind a style error. -/
def causes : StyleError → List String
  | unreadable _ cause => [cause.message]
  | malformed _ => ["TOML parse error"]

end StyleError

namespace Style

/-! ## From the environment -/

/-- The variables that hold the style. -/
def variableNames : List String :=
  ["SMELT_PLOT_WIDTH", "SMELT_PLOT_HEIGHT", "SMELT_PLOT_FONT_SIZE", "SMELT_RT_Y_MAX",
    "SMELT_TP_Y_MAX"]

/-- The size that a variable gives. -/
def sizeIn (env : Environment) (name : String) (standard : UInt32) : UInt32 :=
  (((env.get? name).bind Numeral.u32?).map UInt32.ofNat).getD standard

/-- The upper end that a variable gives. -/
def capIn (env : Environment) (name : String) (standard : Option Float) : Option Float :=
  match (env.get? name).bind Numeral.real? with
  | none => standard
  | some cap => if 0 < cap then some cap else none

/-- The style that the environment asks for. -/
def ofEnvironment (env : Environment) : Style where
  width := sizeIn env "SMELT_PLOT_WIDTH" standard.width
  height := sizeIn env "SMELT_PLOT_HEIGHT" standard.height
  fontSize := sizeIn env "SMELT_PLOT_FONT_SIZE" standard.fontSize
  responseTimeMax := capIn env "SMELT_RT_Y_MAX" standard.responseTimeMax
  throughputMax := capIn env "SMELT_TP_Y_MAX" standard.throughputMax

/-! ## From a document -/

/-- The size that a value is. -/
def sizeOf? : Toml.Value → Option UInt32
  | .integer n => if 0 ≤ n ∧ n ≤ Numeral.maxU32 then some (UInt32.ofNat n.toNat) else none
  | _ => none

/-- The upper end that a value is; integers may have 64 bits. -/
def capOf? : Toml.Value → Option Float
  | .integer n =>
    if -(Numeral.maxI64 + 1 : Int) ≤ n ∧ n ≤ Numeral.maxU64 then some (Float.ofInt n) else none
  | .real x => some x
  | _ => none

/-- What the value of a key is, the standard where the key is missing, or nothing where the value is not
of the right kind. -/
def setting? {α : Type} (read : Toml.Value → Option α) (entries : Toml.Entries) (key : String)
    (standard : α) : Option α :=
  match entries.lookup key with
  | none => some standard
  | some value => read value

/-- The style that the entries of a document ask for. -/
def ofEntries (entries : Toml.Entries) : Option Style := do
  let width ← setting? sizeOf? entries "width" standard.width
  let height ← setting? sizeOf? entries "height" standard.height
  let fontSize ← setting? sizeOf? entries "font_size" standard.fontSize
  let responseTimeMax ←
    setting? (fun value => (capOf? value).map some) entries "rt_y_max" standard.responseTimeMax
  let throughputMax ←
    setting? (fun value => (capOf? value).map some) entries "tp_y_max" standard.throughputMax
  return ⟨width, height, fontSize, responseTimeMax, throughputMax⟩

/-- The style that the bytes of a file ask for. -/
def ofBytes (path : Path) (bytes : List UInt8) : Except StyleError Style :=
  match Utf8.decode bytes with
  | .error _ => .error (.unreadable path .notText)
  | .ok text =>
    match (Toml.Document.entries text).bind ofEntries with
    | none => .error (.malformed path)
    | some style => .ok style

/-- The style that a file asks for. -/
def ofFile (tree : FileTree) (path : Path) : Except StyleError Style :=
  match tree.read path with
  | .error cause => .error (.unreadable path cause)
  | .ok bytes => ofBytes path bytes

/-- The style that a file asks for, if one is named, or else the environment. -/
def load (tree : FileTree) (env : Environment) : Option Path → Except StyleError Style
  | none => .ok (ofEnvironment env)
  | some path => ofFile tree path

end Style

end BenchReport
