import BenchReport.Drawing.Figure
/-!
# Figures as SVG

The picture file of a figure: an SVG document with one element for each shape, in drawing order, on
a white sheet.  Labels are escaped where they would be read as markup.
-/

namespace BenchReport

namespace Svg

/-- A character of a label as it stands in a document. -/
def escape (c : Char) : List Char :=
  if c == '&' then "&amp;".toList
  else if c == '<' then "&lt;".toList
  else if c == '>' then "&gt;".toList
  else if c == '\"' then "&quot;".toList
  else [c]

/-- A label as it stands in a document. -/
def label (text : String) : String := String.ofList (text.toList.flatMap escape)

/-- An attribute of an element. -/
def property (name value : String) : String := " " ++ name ++ "=\"" ++ value ++ "\""

/-- An attribute with a whole number. -/
def number (name : String) (value : Int) : String := property name (toString value)

/-- An element without content. -/
def element (name : String) (properties : List String) : String :=
  "<" ++ name ++ String.join properties ++ "/>\n"

/-- An element with a text. -/
def text (properties : List String) (content : String) : String :=
  "<text" ++ String.join properties ++ ">" ++ label content ++ "</text>\n"

/-- The corners of a line or a polygon. -/
def corners (pixels : List Pixel) : String :=
  property "points"
    (String.intercalate " " (pixels.map fun p => toString p.x ++ "," ++ toString p.y))

/-- A straight line. -/
def segment (s : Segment) : String :=
  element "line" [property "stroke" "#808080", number "x1" s.first.x, number "y1" s.first.y,
    number "x2" s.last.x, number "y2" s.last.y]

/-- A text at a side of a sheet of the given size.  Those at the left and at the right stand upright. -/
def caption (width height : Nat) (side : Side) (title : String) : String :=
  let (x, y, turn) : Int × Int × Option Nat :=
    match side with
    | .top => (width / 2, 20, none)
    | .left => (20, height / 2, some 270)
    | .bottom => (width / 2, height - 20, none)
    | .right => (width - 20, height / 2, some 90)
  let turned :=
    match turn with
    | none => []
    | some angle =>
      [property "transform" ("rotate(" ++
        String.intercalate ", " [toString angle, toString x, toString y] ++ ")")]
  text ([number "x" x, number "y" y, property "text-anchor" "middle"] ++ turned) title

/-- The element of a shape on a sheet of the given size.  The legend stands apart. -/
def shape (width height : Nat) : Shape → String
  | .rectangle fill corner w h =>
    element "rect" [number "x" corner.x, number "y" corner.y, number "width" w, number "height" h,
      property "fill" fill.code]
  | .outline points => element "polyline" [property "fill" "none", property "stroke" "#000000",
      corners points]
  | .errorBar lower upper stem => segment lower ++ segment upper ++ segment stem
  | .marker centre radius =>
    element "circle" [number "cx" centre.x, number "cy" centre.y, number "r" radius,
      property "fill" "#808080"]
  | .caption side title => caption width height side title
  | .tick title pixel =>
    text [number "x" pixel.x, number "y" pixel.y, property "text-anchor" "middle",
      property "dy" "0.76em"] title
  | .legend _ _ => ""
  | .polygon fill points => element "polygon" [property "fill" fill.code, corners points]

/-- The entries of the legend, one below the other, from the given height on. -/
def legend (y : Nat) : List (Colour × String) → String
  | [] => ""
  | (fill, title) :: rest =>
    element "rect" [number "x" 95, number "y" y, number "width" 14, number "height" 12,
      property "fill" fill.code] ++
    text [number "x" 115, number "y" (y + 11)] title ++ legend (y + 22) rest

/-- What the legend of a figure says. -/
def legendEntries (figure : Figure) : List (Colour × String) :=
  figure.shapes.filterMap fun
    | .legend fill title => some (fill, title)
    | _ => none

/-- The name of the vocabulary, part by part. -/
def vocabulary : String := String.intercalate "/" ["http:", "", "www.w3.org", "2000", "svg"]

/-- The document of a figure. -/
def document (figure : Figure) : String :=
  "<svg" ++ number "width" figure.width ++ number "height" figure.height ++
    property "xmlns" vocabulary ++ ">\n" ++
    element "rect" [number "width" figure.width, number "height" figure.height,
      property "fill" "#FFFFFF"] ++
    String.join (figure.shapes.map (shape figure.width figure.height)) ++
    legend 50 (legendEntries figure) ++ "</svg>\n"

end Svg

end BenchReport
