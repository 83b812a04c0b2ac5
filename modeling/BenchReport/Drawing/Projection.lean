import BenchReport.Drawing.Axis
/-!
# Projections

How points of space come to stand on a sheet.  A point is a column of four numbers, of which the last
is one; a turn, a shift or a change of scale is a matrix of four rows, and doing one after the other
multiplies the later matrix by the earlier one (`Matrix.after`).  After each such step the matrix is
divided by its last entry, in which a change of scale stands.

The view of `Matrix.view` looks at a cube from above and from the side: the cube is moved so that its
middle is the origin, turned upside down, turned by its yaw and by its pitch, scaled, and moved to the
middle of the sheet.
-/

namespace BenchReport

/-- An angle by its sine and its cosine. -/
structure Angle where
  sin : Float
  cos : Float

namespace Angle

/-- No turn. -/
def zero : Angle := ⟨0, 1⟩

/-- Half a turn; the sine is that of the double nearest to it. -/
def half : Angle := ⟨Float.ofBits 0x3ca1a62633145c07, Float.ofBits 0xbff0000000000000⟩

/-- The angle of 0.6 radians, by which the view turns sideways. -/
def yaw : Angle := ⟨Float.ofBits 0x3fe2118d17a54159, Float.ofBits 0x3fea69263c485b15⟩

/-- The angle of 0.35 radians, by which the view looks down. -/
def pitch : Angle := ⟨Float.ofBits 0x3fd5f209a5390a8b, Float.ofBits 0x3fee0f575d0de5b7⟩

end Angle

/-- Four numbers: a row of a matrix, or a point with its last number. -/
structure Quad where
  x : Float
  y : Float
  z : Float
  w : Float

namespace Quad

/-- The product of a row and a column, summed up from the left. -/
def dot (row column : Quad) : Float :=
  0 + row.x * column.x + row.y * column.y + row.z * column.z + row.w * column.w

/-- A row divided by a number. -/
def divide (row : Quad) (n : Float) : Quad := ⟨row.x / n, row.y / n, row.z / n, row.w / n⟩

end Quad

/-- Four rows. -/
structure Matrix where
  x : Quad
  y : Quad
  z : Quad
  w : Quad

namespace Matrix

/-- The columns of a matrix as rows. -/
def transpose (m : Matrix) : Matrix :=
  ⟨⟨m.x.x, m.y.x, m.z.x, m.w.x⟩, ⟨m.x.y, m.y.y, m.z.y, m.w.y⟩, ⟨m.x.z, m.y.z, m.z.z, m.w.z⟩,
    ⟨m.x.w, m.y.w, m.z.w, m.w.w⟩⟩

/-- A row times a matrix, given by its columns. -/
def rowTimes (row : Quad) (columns : Matrix) : Quad :=
  ⟨row.dot columns.x, row.dot columns.y, row.dot columns.z, row.dot columns.w⟩

/-- The matrix divided by its last entry, unless that is too small. -/
def normalize (m : Matrix) : Matrix :=
  if (1e-20 : Float) < m.w.w then
    ⟨m.x.divide m.w.w, m.y.divide m.w.w, m.z.divide m.w.w, m.w.divide m.w.w⟩
  else m

/-- First `earlier`, then `later`. -/
def after (later earlier : Matrix) : Matrix :=
  let columns := earlier.transpose
  normalize ⟨rowTimes later.x columns, rowTimes later.y columns, rowTimes later.z columns,
    rowTimes later.w columns⟩

/-- The matrix that changes nothing. -/
def identity : Matrix := ⟨⟨1, 0, 0, 0⟩, ⟨0, 1, 0, 0⟩, ⟨0, 0, 1, 0⟩, ⟨0, 0, 0, 1⟩⟩

/-- Moves every point by three numbers. -/
def shift (x y z : Float) : Matrix := ⟨⟨1, 0, 0, x⟩, ⟨0, 1, 0, y⟩, ⟨0, 0, 1, z⟩, ⟨0, 0, 0, 1⟩⟩

/-- Makes everything larger by a factor. -/
def scale (factor : Float) : Matrix :=
  ⟨⟨1, 0, 0, 0⟩, ⟨0, 1, 0, 0⟩, ⟨0, 0, 1, 0⟩, ⟨0, 0, 0, 1 / factor⟩⟩

/-- Turns by `c` around the first axis, then by `b` around the second, then by `a` around the third. -/
def rotate (c b a : Angle) : Matrix :=
  ⟨⟨a.cos * b.cos, a.cos * b.sin * c.sin - a.sin * c.cos, a.cos * b.sin * c.cos + a.sin * c.sin, 0⟩,
   ⟨a.sin * b.cos, a.sin * b.sin * c.sin + a.cos * c.cos, a.sin * b.sin * c.cos - a.cos * c.sin, 0⟩,
   ⟨-b.sin, b.cos * c.sin, b.cos * c.cos, 0⟩,
   ⟨0, 0, 0, 1⟩⟩

/-- The view of a cube with the given edge, with its middle at a place on the sheet. -/
def view (edge : Int) (middle : Pixel) : Matrix :=
  let half := Float.ofInt (edge.tdiv 2)
  let start := if edge.tdiv 2 = 0 then identity else shift (-half) (-half) (-half)
  let turned := (rotate .pitch .zero .zero).after
    ((rotate .zero .yaw .zero).after ((rotate .half .zero .zero).after start))
  (shift (Float.ofInt middle.x) (Float.ofInt middle.y) 0).after ((scale 0.8).after turned)

/-- The pixel of a point of space. -/
def project (m : Matrix) (x y z : Int) : Pixel :=
  let fx := Float.ofInt x
  let fy := Float.ofInt y
  let fz := Float.ofInt z
  let onRow (row : Quad) : Int :=
    Binary64.clampWhole Binary64.towardZero Pixel.least Pixel.largest
      (fx * row.x + fy * row.y + fz * row.z + row.w)
  ⟨onRow m.x, onRow m.y⟩

end Matrix

end BenchReport
