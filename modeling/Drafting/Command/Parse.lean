import Drafting.Command.Lexicon
import Drafting.Command.Scan
import Drafting.Value.Ops

/-!
# Reading a drawing command

`Command.read` turns a sentence such as `draw a red circle at (100, 100) with
radius 50` into what it asks for: an action, a shape, the shape's parameters
and a colour.

* The action and the shape are the first words of `actionWords` and
  `shapeWords` that occur in the lowercased sentence.
* The colour is the colour name at the leftmost place where one occurs, case
  ignored, the longest there; the matched text, lowercased, must then be a
  colour name itself.
* Each shape reads its parameters from the coordinate pairs, numbers, quoted
  labels and keywords of the sentence, with defaults for what is missing.
  A default is an integer and a number read from the sentence a double, so
  the two stay apart in the result.
-/

namespace Drafting.Command

open Text

/-- A point given by a command: two numbers. -/
abbrev Point := Num × Num

/-- A coordinate pair read from a sentence. -/
def Point.ofPair (p : Float × Float) : Point := (.float p.1, .float p.2)

/-- A point with integer coordinates, as defaults give them. -/
def Point.ofInts (x y : Int) : Point := (.int x, .int y)

/-- A point as a value: a pair. -/
def Point.toValue (p : Point) : Value := .tuple [p.1.toValue, p.2.toValue]

/-- The parameters of a shape, as read from a sentence. -/
inductive Params where
  | line (start finish : Point)
  | circle (center : Point) (radius : Num)
  | arc (center : Point) (radius startAngle endAngle : Num)
  | ellipse (center : Point) (majorAxis minorAxis rotation : Num)
  | rectangle (corner1 corner2 : Point)
  | polyline (points : List Point) (closed : Bool)
  | text (position : Point) (content : String) (height rotation : Num)
  | dimension (start finish textPosition : Point)
  | hatch (boundary : List Point) (pattern : String) (scale : Num)
  | save (path : String)
  | points (points : List Point)

/-- The parameters as named entries, in the order a reader lists them. -/
def Params.entries : Params → List (String × Value)
  | .line s f => [("start", s.toValue), ("end", f.toValue)]
  | .circle c r => [("center", c.toValue), ("radius", r.toValue)]
  | .arc c r s e =>
    [("center", c.toValue), ("radius", r.toValue), ("start_angle", s.toValue), ("end_angle", e.toValue)]
  | .ellipse c a b r =>
    [("center", c.toValue), ("major_axis", a.toValue), ("minor_axis", b.toValue), ("rotation", r.toValue)]
  | .rectangle a b => [("corner1", a.toValue), ("corner2", b.toValue)]
  | .polyline ps closed => [("points", .list (ps.map Point.toValue)), ("closed", .bool closed)]
  | .text p s h r =>
    [("position", p.toValue), ("text", .str s), ("height", h.toValue), ("rotation", r.toValue)]
  | .dimension s f t => [("start", s.toValue), ("end", f.toValue), ("text_position", t.toValue)]
  | .hatch ps name scale =>
    [("boundary_points", .list (ps.map Point.toValue)), ("pattern_name", .str name),
     ("pattern_scale", scale.toValue)]
  | .save path => [("file_path", .str path)]
  | .points [] => []
  | .points ps => [("points", .list (ps.map Point.toValue))]

/-- The first word of a table that occurs in the lowercased sentence. -/
def firstWord {α : Type} (table : List (String × α)) (sentence : String) : Option α :=
  let lowered := (lower sentence).toList
  (table.find? fun w => occursIn w.1.toList lowered).map Prod.snd

/-- The action a sentence names. -/
def action? (sentence : String) : Option Action := firstWord actionWords sentence

/-- The shape a sentence names. -/
def shape? (sentence : String) : Option Shape := firstWord shapeWords sentence

/-- Colour names, longest first; names of one length keep their table order. -/
def coloursLongestFirst : List (String × Nat) :=
  colourNames.mergeSort fun a b => b.1.length ≤ a.1.length

/-- The text of the first colour name, longest first, at the front of `cs`, case ignored. -/
def colourAt (cs : List Char) : Option String :=
  (coloursLongestFirst.find? fun c => startsIgnoringCase c.1.toList cs).map fun c =>
    String.ofList (cs.take c.1.length)

/-- The palette index of the colour a sentence names. -/
def colour? (sentence : String) : Option Nat := do
  let matched ← search colourAt sentence.toList
  (colourNames.find? fun c => c.1 == lower matched).map Prod.snd

/-- The coordinate pairs of a sentence as points. -/
def pointsOf (sentence : String) : List Point := (pairs sentence.toList).map Point.ofPair

/-- The first point of a sentence, or the origin. -/
def firstPoint (ps : List Point) : Point := ps.headD (Point.ofInts 0 0)

/-- A number read after a keyword, case ignored, else the default. -/
def keyed (sentence : String) (keyword : String) (extra : Option String) (default : Num) : Num :=
  match keywordNumber keyword extra true sentence.toList with
  | some x => .float x
  | none => default

/-- A number read after a keyword written exactly, else the default. -/
def keyedExactly (sentence : String) (keyword : String) (default : Num) : Num :=
  match keywordNumber keyword none false sentence.toList with
  | some x => .float x
  | none => default

/-- The radius of a circle: after `radius` or `半径`; else, when the sentence has
coordinate pairs, the first number after as many numbers as the pairs hold,
provided there are more than two numbers in all; else, with no pairs, the first
number; else 50. -/
def circleRadius (sentence : String) (ps : List Point) : Num :=
  match keywordNumber "radius" none true sentence.toList <|>
      keywordNumber "半径" none false sentence.toList with
  | some r => .float r
  | none =>
    let ns := numbers sentence.toList
    if !ps.isEmpty && ns.length > 2 then
      match ns.drop (2 * ps.length) with
      | r :: _ => .float r
      | [] => .int 50
    else if ps.isEmpty && !ns.isEmpty then .float (ns.headD 0)
    else .int 50

/-- Parameters of a line: its first two points, else from the origin to (100, 100). -/
def lineParams (sentence : String) : Params :=
  match pointsOf sentence with
  | a :: b :: _ => .line a b
  | _ => .line (Point.ofInts 0 0) (Point.ofInts 100 100)

/-- Parameters of a circle: centre at the first point, radius by `circleRadius`. -/
def circleParams (sentence : String) : Params :=
  let ps := pointsOf sentence
  .circle (firstPoint ps) (circleRadius sentence ps)

/-- Parameters of an arc: centre at the first point, radius 50 and angles 0 to 90
unless keywords give them; the Chinese angle words win over the English ones. -/
def arcParams (sentence : String) : Params :=
  let ps := pointsOf sentence
  let start := keyedExactly sentence "起始角" (keyed sentence "start" (some "angle") (.int 0))
  let finish := keyedExactly sentence "终止角" (keyed sentence "end" (some "angle") (.int 90))
  .arc (firstPoint ps) (keyed sentence "radius" none (.int 50)) start finish

/-- Parameters of an ellipse: centre at the first point, axes 100 and 50 and no
rotation unless keywords give them. -/
def ellipseParams (sentence : String) : Params :=
  .ellipse (firstPoint (pointsOf sentence)) (keyed sentence "major" (some "axis") (.int 100))
    (keyed sentence "minor" (some "axis") (.int 50)) (keyed sentence "rotation" none (.int 0))

/-- Parameters of a rectangle: its first two points, else from the origin to the
width and height that keywords give, 100 by 50 by default; the Chinese words win. -/
def rectangleParams (sentence : String) : Params :=
  match pointsOf sentence with
  | a :: b :: _ => .rectangle a b
  | _ =>
    let width := keyedExactly sentence "宽" (keyed sentence "width" none (.float 100.0))
    let height := keyedExactly sentence "高" (keyed sentence "height" none (.float 50.0))
    .rectangle (Point.ofInts 0 0) (width, height)

/-- Whether a sentence asks for a closed figure. -/
def asksClosed (sentence : String) : Bool :=
  let lowered := (lower sentence).toList
  closingWords.any fun w => occursIn w.toList lowered

/-- Parameters of a polyline: its points when there are two or more, else a
default triangle of three points. -/
def polylineParams (sentence : String) : Params :=
  let closed := asksClosed sentence
  match pointsOf sentence with
  | ps@(_ :: _ :: _) => .polyline ps closed
  | _ => .polyline [Point.ofInts 0 0, Point.ofInts 50 50, Point.ofInts 100 0] closed

/-- Parameters of a text: position at the first point, the first quoted label
(else `Text`), height 2.5 and no rotation unless keywords give them. -/
def textParams (sentence : String) : Params :=
  let height := keyedExactly sentence "高度" (keyed sentence "height" none (.float 2.5))
  .text (firstPoint (pointsOf sentence)) ((quoted sentence.toList).getD "Text") height
    (keyed sentence "rotation" none (.int 0))

/-- Parameters of a dimension: between its first two points with the label ten
units above their midpoint, or at the third point when there is one; else
from the origin to (100, 0), labelled at (50, 10). -/
def dimensionParams (sentence : String) : Params :=
  match pointsOf sentence, pairs sentence.toList with
  | a :: b :: rest, (x0, y0) :: (x1, y1) :: _ =>
    let label := match rest with
      | c :: _ => c
      | [] => (.float ((x0 + x1) / 2.0), .float ((y0 + y1) / 2.0 + 10.0))
    .dimension a b label
  | _, _ => .dimension (Point.ofInts 0 0) (Point.ofInts 100 0) (Point.ofInts 50 10)

/-- Parameters of a hatch: its points when there are three or more, else a
100 by 100 square; the pattern after `pattern`, uppercased, else `SOLID`; the
scale after `scale`, else 1.0. -/
def hatchParams (sentence : String) : Params :=
  let boundary := match pointsOf sentence with
    | ps@(_ :: _ :: _ :: _) => ps
    | _ => [Point.ofInts 0 0, Point.ofInts 100 0, Point.ofInts 100 100, Point.ofInts 0 100]
  let pattern := ((keywordWord "pattern" sentence.toList).map upper).getD "SOLID"
  .hatch boundary pattern (keyed sentence "scale" none (.float 1.0))

/-- Parameters of a save: the first quoted label, else the first drawing file
name, else `drawing.dwg`. -/
def saveParams (sentence : String) : Params :=
  .save ((quoted sentence.toList <|> drawingFile sentence.toList).getD "drawing.dwg")

/-- The coordinate pairs of a sentence, for a shape without a reader of its own. -/
def pointParams (sentence : String) : Params := .points (pointsOf sentence)

/-- The parameters of a shape read from a sentence. -/
def Shape.params : Shape → String → Params
  | .line => lineParams
  | .circle => circleParams
  | .arc => arcParams
  | .ellipse => ellipseParams
  | .rectangle => rectangleParams
  | .polyline => polylineParams
  | .text => textParams
  | .dimension => dimensionParams
  | .hatch => hatchParams

/-- What a sentence asks for. -/
structure Request where
  action : Action
  shape : Option Shape
  params : Option Params
  colour : Option Nat
  sentence : String

/-- Reads a sentence: the action (drawing when none is named), the shape, and,
when there is a shape, its parameters and the colour. -/
def read (sentence : String) : Request :=
  let act := (action? sentence).getD .draw
  match shape? sentence with
  | none => ⟨act, none, none, none, sentence⟩
  | some s => ⟨act, some s, some (s.params sentence), colour? sentence, sentence⟩

/-- How sure the reading is: 0.8 with a shape, 0.3 without. -/
def Request.confidence (r : Request) : Float := if r.shape.isSome then 0.8 else 0.3

/-- The parameters as entries, with the colour last when one was named. -/
def Request.parameters (r : Request) : List (String × Value) :=
  match r.params with
  | none => []
  | some p => p.entries ++ (match r.colour with
    | some c => [("color", .int c)]
    | none => [])

/-- The reading as a value. -/
def Request.toValue (r : Request) : Value :=
  .dict [("action", .str r.action.name), ("shape", (r.shape.map fun s => Value.str s.name).getD .null),
    ("parameters", .dict r.parameters), ("raw_text", .str r.sentence), ("confidence", .float r.confidence)]

end Drafting.Command
