import BenchReport.Files.Access
import BenchReport.Journal.Noted
import BenchReport.Number.Numeral
import BenchReport.Text.Blank
/-!
# Surface samples

The samples of a surface are the lines of a text that hold a point: lines that start with a digit, a
point or a space and have at least three words.  All other lines are prose and are passed over.

The first three words of such a line must be two indices, which are whole numbers of 64 bits, and a
height, which may be any real numeral.  The first word that is not decides the error; words behind
the third have no influence.

A line ends at a line feed, and a carriage return before that is no part of it.  A line that is not
text is an error when the reader comes to it, not before.
-/

namespace BenchReport

/-- A point of a surface: the height `z` above the place `(x, y)` of the grid. -/
structure SurfacePoint where
  x : Nat
  y : Nat
  z : Float

/-- The three words of a point. -/
inductive Coordinate where
  | xIndex
  | yIndex
  | zValue
  deriving DecidableEq, Repr

/-- The name of a coordinate in messages. -/
def Coordinate.title : Coordinate → String
  | xIndex => "x index"
  | yIndex => "y index"
  | zValue => "z value"

/-- Why samples could not be read. -/
inductive PointError where
  /-- The text could not be read. -/
  | unreadable (cause : AccessError)
  /-- A word of a point is not the number that should stand there. -/
  | invalid (line : Nat) (coordinate : Coordinate) (word : String)
  deriving DecidableEq, Repr

namespace Surface

/-- Whether a line may hold a point, by its first character. -/
def startsPoint (line : List Char) : Bool :=
  match line with
  | [] => false
  | c :: _ => Numeral.isDigit c || c == '.' || c == ' '

/-- The point that three words write. -/
def pointOf (line : Nat) (x y z : List Char) : Except PointError SurfacePoint :=
  match Numeral.unsigned 10 Numeral.maxU64 x with
  | .error _ => .error (.invalid line .xIndex (String.ofList x))
  | .ok px =>
    match Numeral.unsigned 10 Numeral.maxU64 y with
    | .error _ => .error (.invalid line .yIndex (String.ofList y))
    | .ok py =>
      match Numeral.real? (String.ofList z) with
      | none => .error (.invalid line .zValue (String.ofList z))
      | some pz => .ok ⟨px, py, pz⟩

/-- The point in a line, if the line holds one. -/
def pointIn (number : Nat) (line : List Char) : Except PointError (Option SurfacePoint) :=
  if startsPoint line then
    match Text.words line with
    | x :: y :: z :: _ => (pointOf number x y z).map some
    | _ => .ok none
  else .ok none

/-- The lines of a text, without their ends; the last one may have no end. -/
def lines (bytes : List UInt8) : List (List UInt8) :=
  let pieces := bytes.splitOnP (· == 10)
  let ended := pieces.dropLast.map fun line =>
    if line.getLast? == some 13 then line.dropLast else line
  ended ++ (pieces.getLast?.toList.filter fun line => !line.isEmpty)

/-- The points in the lines from line `number` on. -/
def pointsFrom (number : Nat) : List (List UInt8) → Except PointError (List SurfacePoint)
  | [] => .ok []
  | line :: rest =>
    match Utf8.decode line with
    | .error _ => .error (.unreadable .notText)
    | .ok text =>
      match pointIn number text with
      | .error error => .error error
      | .ok found => (pointsFrom (number + 1) rest).map (found.toList ++ ·)

/-- The points in the bytes of a text. -/
def points (bytes : List UInt8) : Except PointError (List SurfacePoint) := pointsFrom 1 (lines bytes)

/-- The points in the bytes of a text, with a note on their number. -/
def readPoints (bytes : List UInt8) : Noted PointError (List SurfacePoint) := do
  let found ← Noted.ofOutcome (points bytes)
  Noted.note .debug .surface ("Parsed " ++ toString found.length ++ " surface points")
  pure found

end Surface

end BenchReport
