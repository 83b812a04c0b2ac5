import BenchReport.Drawing.Figure
import BenchReport.Number.Binary64
/-!
# Axes

An axis maps numbers to pixels: the numbers from `lo` to `hi` to the pixels from `first` to `last`,
which may run in either direction.  A number lands on the pixel that its share of the way reaches,
with a thousandth of a pixel to spare, so that an exact pixel is not missed by a rounding error.  An
infinite number lands on the end of the axis, a number that is none on its first pixel, and an axis
whose ends are equal maps everything to one pixel.

Pixels are 32 bit integers.  A shape that would lie outside an area is moved into it (`Area.clamp`).
-/

namespace BenchReport

/-- The numbers from `lo` to `hi` on the pixels from `first` to `last`. -/
structure Axis where
  lo : Float
  hi : Float
  first : Int
  last : Int

namespace Pixel

/-- The least and the largest pixel there are. -/
def least : Int := -2147483648

/-- The largest pixel there is. -/
def largest : Int := 2147483647

/-- A number as a pixel: sums of pixels, and sizes beyond the largest one, come round at the ends. -/
def wrap (n : Int) : Int := Int.bmod n 4294967296

end Pixel

namespace Axis

/-- The pixel of a number. -/
def pixel (axis : Axis) (x : Float) : Int :=
  if axis.lo == axis.hi then (Pixel.wrap (axis.last - axis.first)).tdiv 2
  else
    let share := (x - axis.lo) / (axis.hi - axis.lo)
    let length := Pixel.wrap (axis.last - axis.first)
    let reach := Float.ofInt length * share
    if length = 0 then axis.last
    else
      match Binary64.value share with
      | .infinite negative => if negative then axis.first else axis.last
      | _ =>
        if 0 < length then
          Pixel.wrap (axis.first +
            Binary64.clampWhole Binary64.floor Pixel.least Pixel.largest (reach + 0.001))
        else
          Pixel.wrap (axis.first +
            Binary64.clampWhole Binary64.ceiling Pixel.least Pixel.largest (reach - 0.001))

end Axis

/-- The pixels from one corner to the opposite one, both included. -/
structure Area where
  left : Int
  top : Int
  right : Int
  bottom : Int
  deriving DecidableEq, Repr

namespace Area

/-- A sheet of the given size. -/
def sheet (width height : Nat) : Area := ⟨0, 0, Pixel.wrap width, Pixel.wrap height⟩

/-- The area without margins, `top` at its upper end and `side` at its other ends. -/
def inside (area : Area) (top side : Int) : Area :=
  ⟨Pixel.wrap (area.left + side), Pixel.wrap (area.top + top), Pixel.wrap (area.right - side),
    Pixel.wrap (area.bottom - side)⟩

/-- How far the right end is from the left one. -/
def width (area : Area) : Int := Pixel.wrap (area.right - area.left)

/-- How far the lower end is from the upper one. -/
def height (area : Area) : Int := Pixel.wrap (area.bottom - area.top)

/-- The pixel of the area that is nearest to a pixel.  Of an area whose ends are in the wrong order it is
the left or the upper end. -/
def clamp (area : Area) (p : Pixel) : Pixel where
  x := max area.left (min area.right p.x)
  y := max area.top (min area.bottom p.y)

end Area

end BenchReport
