/-!
# Figures

A figure is a sheet of some size with shapes on it, in the order in which they are drawn.  Positions
are pixels, counted from the upper left corner.

Bar charts use every kind of shape but polygons; projected surfaces use polygons alone.
-/

namespace BenchReport

/-- A colour by its three channels, each from `0` to `255`. -/
structure Colour where
  red : Nat
  green : Nat
  blue : Nat
  deriving DecidableEq, Repr

namespace Colour

/-- Two hexadecimal digits in capitals. -/
def hexPair (n : Nat) : List Char :=
  [Nat.digitChar (n / 16 % 16), Nat.digitChar (n % 16)].map Char.toUpper

/-- The colour as `#RRGGBB`. -/
def code (colour : Colour) : String :=
  String.ofList ('#' :: (hexPair colour.red ++ hexPair colour.green ++ hexPair colour.blue))

end Colour

/-- A position on a figure. -/
structure Pixel where
  x : Int
  y : Int
  deriving DecidableEq, Repr

/-- A straight line between two positions. -/
structure Segment where
  first : Pixel
  last : Pixel
  deriving DecidableEq, Repr

/-- A side of the area in which a chart is plotted. -/
inductive Side where
  | top
  | left
  | bottom
  | right
  deriving DecidableEq, Repr

/-- What can stand on a figure. -/
inductive Shape where
  /-- A filled rectangle with its upper left corner at `corner`. -/
  | rectangle (fill : Colour) (corner : Pixel) (width height : Int)
  /-- The open line around a bar. -/
  | outline (points : List Pixel)
  /-- An error bar: the two caps and the stem between them. -/
  | errorBar (lower upper stem : Segment)
  /-- A filled circle. -/
  | marker (centre : Pixel) (radius : Nat)
  /-- A text at a side of a chart: the title of the axis there, or a label that is left blank. -/
  | caption (side : Side) (text : String)
  /-- A label under the horizontal axis. -/
  | tick (label : String) (place : Pixel)
  /-- An entry of the legend, with the colour of the bars that it names. -/
  | legend (fill : Colour) (label : String)
  /-- A filled polygon. -/
  | polygon (fill : Colour) (corners : List Pixel)
  deriving DecidableEq, Repr

/-- A sheet of `width` by `height` pixels with shapes in drawing order. -/
structure Figure where
  width : Nat
  height : Nat
  shapes : List Shape
  deriving DecidableEq, Repr

namespace Figure

/-- All texts at the sides of a chart, in drawing order. -/
def captionTexts (figure : Figure) : List String :=
  figure.shapes.filterMap fun
    | .caption _ text => some text
    | _ => none

/-- The descriptions of the axes: two texts at the sides of a chart, if there are as many, and blank ones
only for want of others. -/
def descriptions (figure : Figure) : List String :=
  let texts := figure.captionTexts
  ((texts.filter fun text => !text.isEmpty) ++ texts.filter String.isEmpty).take 2

end Figure

end BenchReport
