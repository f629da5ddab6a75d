import Drafting.Link.Draw
import Drafting.Command.Parse

/-!
# The drawing service

The service checks the arguments of each drawing operation, connects to the
application when it is not connected, checks the colour, and passes the
operation on to the connection.  A drawn entity is appended to the drawing
record, and the record notes the command and its success.

The checks come in a fixed order: the counts of coordinates and points, the
operation's own conditions (positive radius, non-empty text and so on), then
the connection, then the colour, which must lie in `0 … 255` when given.  A
value of the wrong kind met by a check is a fault, which the caller sees.

`readAndDraw` carries out a sentence: it reads the sentence, notes it as the
last command, and draws the shape it names with the parameters read from it,
a default for each parameter that is missing.
-/

namespace Drafting.Service

open Op Link

/-- Connects when not connected; answers whether the service is connected.  A
service that was connected stays marked so even when reconnecting fails. -/
def ensureReady : Op Bool := do
  if (← get).service.ready && (← alive) then return true
  if ← connect then
    modifyService fun s => { s with ready := true }
    return true
  return false

/-- Whether a given colour lies outside `0 … 255`; no colour is never outside. -/
def colourOutside (c : Value) : Except Fault Bool :=
  match c with
  | .null => .ok false
  | c => do
    if ← c.compareInt .lt 0 then return true
    c.compareInt .gt 255

/-- Whether a sequence has fewer than `n` items. -/
def fewer (v : Value) (n : Nat) : Op Bool := do return (← lift v.len) < n

/-- Whether a value's literal can be written into a message inside an operation with
`room` on the call stack, counted as `save` counts it: the operation's call of the
connection holds one level of the stack, each nested creation of a directory one more,
and the deepest creation's call of the file system four more, so the operation's own
frame has `room + 4` levels for a literal. -/
def literalFits (room : Nat) (v : Value) : Bool := v.reprDepth ≤ room + 4

/-- Connects and checks the colour, then runs the operation.  A drawn entity is
recorded first and the command that drew it noted after, with `shown` the values the
command writes; a value nested too deep for the call stack stops the operation there,
the entity recorded and the command not noted. -/
def drawChecked (room : Nat) (colour : Value) (shown : List Value) (command : Unit → String)
    (body : Op Reply) : Op Reply := do
  if !(← ensureReady) then return .refused "CAD not initialized"
  if ← lift (colourOutside colour) then return .refused "Color must be between 0 and 255"
  let r ← body
  match r with
  | .drawn e =>
    modifyService fun s => { s with drawing := s.drawing.add e }
    if !(shown.all (literalFits room)) then throw .reprTooDeep
    modifyService fun s => { s with drawing := { s.drawing with
      lastCommand := command (), lastResult := "success" } }
  | _ => pure ()
  return r

/-- Draws a line between two points of two coordinates or more. -/
def drawLine (room : Nat) (start finish layer colour lineweight : Value) : Op Reply := do
  if ← fewer start 2 then return .refused "Coordinates must have at least 2 values"
  if ← fewer finish 2 then return .refused "Coordinates must have at least 2 values"
  drawChecked room colour [start, finish] (fun _ => "draw_line(" ++ start.text ++ ", " ++ finish.text ++ ")") do
    Link.drawLine (← lift start.toTuple) (← lift finish.toTuple) layer colour lineweight

/-- Draws a circle of positive radius. -/
def drawCircle (room : Nat) (center radius layer colour lineweight : Value) : Op Reply := do
  if ← fewer center 2 then return .refused "Center must have at least 2 coordinates"
  if ← lift (radius.compareInt .le 0) then return .refused "Radius must be positive"
  drawChecked room colour [center, radius] (fun _ => "draw_circle(" ++ center.text ++ ", " ++ radius.text ++ ")") do
    Link.drawCircle (← lift center.toTuple) radius layer colour lineweight

/-- Draws an arc of positive radius. -/
def drawArc (room : Nat) (center radius startAngle endAngle layer colour lineweight : Value) :
    Op Reply := do
  if ← fewer center 2 then return .refused "Center must have at least 2 coordinates"
  if ← lift (radius.compareInt .le 0) then return .refused "Radius must be positive"
  drawChecked room colour [center, radius, startAngle, endAngle] (fun _ => "draw_arc(" ++ center.text ++ ", " ++ radius.text ++ ", " ++
      startAngle.text ++ ", " ++ endAngle.text ++ ")") do
    Link.drawArc (← lift center.toTuple) radius startAngle endAngle layer colour lineweight

/-- Draws an ellipse with a positive major axis and a minor axis not negative. -/
def drawEllipse (room : Nat) (center major minor rotation layer colour lineweight : Value) :
    Op Reply := do
  if ← fewer center 2 then return .refused "Center must have at least 2 coordinates"
  if ← lift (major.compareInt .le 0) then return .refused "Major axis must be positive"
  if ← lift (minor.compareInt .lt 0) then return .refused "Minor axis must be non-negative"
  drawChecked room colour [center, major, minor] (fun _ => "draw_ellipse(" ++ center.text ++ ", " ++ major.text ++ ", " ++
      minor.text ++ ")") do
    Link.drawEllipse (← lift center.toTuple) major minor rotation layer colour lineweight

/-- The place of the first point with fewer than two coordinates. -/
def shortPoint (points : List Value) : Op (Option Nat) := do
  for (p, i) in points.zipIdx do
    if ← fewer p 2 then return some i
  return none

/-- Each point as a tuple. -/
def tuples (points : Value) : Op Value := do
  return .list (← (← lift points.elements).mapM fun p => lift p.toTuple)

/-- Draws a polyline through two points or more. -/
def drawPolyline (room : Nat) (points closed layer colour lineweight : Value) : Op Reply := do
  if ← fewer points 2 then return .refused "Polyline requires at least 2 points"
  let count ← lift points.len
  if let some i ← shortPoint (← lift points.elements) then
    return .refused ("Point " ++ showInt i ++ " must have at least 2 coordinates")
  drawChecked room colour [.int count, closed] (fun _ => "draw_polyline(" ++ showInt count ++ " points, closed=" ++
      closed.text ++ ")") do
    Link.drawPolyline (← tuples points) closed layer colour lineweight

/-- Draws a rectangle spanned by two corners. -/
def drawRectangle (room : Nat) (corner1 corner2 layer colour lineweight : Value) : Op Reply := do
  if ← fewer corner1 2 then return .refused "Corners must have at least 2 coordinates"
  if ← fewer corner2 2 then return .refused "Corners must have at least 2 coordinates"
  drawChecked room colour [corner1, corner2] (fun _ => "draw_rectangle(" ++ corner1.text ++ ", " ++ corner2.text ++ ")") do
    Link.drawRectangle (← lift corner1.toTuple) (← lift corner2.toTuple) layer colour lineweight

/-- Draws a text that is not empty, of positive height. -/
def drawText (room : Nat) (position content height rotation layer colour : Value) : Op Reply := do
  if ← fewer position 2 then return .refused "Position must have at least 2 coordinates"
  if !content.truthy then return .refused "Text cannot be empty"
  if ← lift (height.compareInt .le 0) then return .refused "Height must be positive"
  drawChecked room colour [content] (fun _ => "draw_text('" ++ content.text ++ "')") do
    Link.drawText (← lift position.toTuple) content height rotation layer colour

/-- Draws a hatch inside three boundary points or more, with a pattern name that
is not empty and a positive scale. -/
def drawHatch (room : Nat) (boundary pattern scale layer colour : Value) : Op Reply := do
  if ← fewer boundary 3 then return .refused "Hatch requires at least 3 boundary points"
  if let some i ← shortPoint (← lift boundary.elements) then
    return .refused ("Point " ++ showInt i ++ " must have at least 2 coordinates")
  if !pattern.truthy then return .refused "Pattern name cannot be empty"
  if ← lift (scale.compareInt .le 0) then return .refused "Pattern scale must be positive"
  drawChecked room colour [pattern] (fun _ => "draw_hatch(pattern=" ++ pattern.text ++ ")") do
    Link.drawHatch (← tuples boundary) pattern scale layer colour

/-- Adds a dimension between two points, labelled at a third. -/
def addDimension (room : Nat) (start finish label layer colour : Value) : Op Reply := do
  if ← fewer start 2 then return .refused "All points must have at least 2 coordinates"
  if ← fewer finish 2 then return .refused "All points must have at least 2 coordinates"
  if ← fewer label 2 then return .refused "All points must have at least 2 coordinates"
  drawChecked room colour [start, finish] (fun _ => "add_dimension(" ++ start.text ++ ", " ++ finish.text ++ ")") do
    Link.addDimension (← lift start.toTuple) (← lift finish.toTuple) (← lift label.toTuple)
      layer colour

/-- Saves the drawing under a path that is neither empty nor blank, with room
on the call stack for `room` nested creations of directories below this
operation, whose call of the connection takes one of them. -/
def save (room : Nat) (path : Value) : Op Reply := do
  if !path.truthy then return .refused "File path cannot be empty"
  if (Text.strip (← lift (path.textFor "strip"))).isEmpty then
    return .refused "File path cannot be whitespace"
  if !(← ensureReady) then return .refused "CAD not initialized"
  let r ← Link.save (room - 1) path
  if r.succeeded then
    modifyService fun s => { s with drawing := { s.drawing with
      lastCommand := "save_drawing('" ++ path.text ++ "')", lastResult := "success" } }
  return r

/-- The points under `key` of a parameter object, each as a list, or the default points. -/
def pointLists (params : Value) (key : String) (default : Value) : Op Value := do
  let ps ← lift (params.get key default)
  return .list (← (← lift ps.elements).mapM fun p => lift p.toList)

/-- A point under `key` of a parameter object, as a list, or the default point. -/
def pointList (params : Value) (key : String) (default : Value) : Op Value := do
  lift (← lift (params.get key default)).toList

/-- An integer point. -/
def ints (xs : List Int) : Value := .list (xs.map .int)

/-- A parameter under `key`, or the default. -/
def param (params : Value) (key : String) (default : Value) : Op Value := lift (params.get key default)

/-- Draws a shape from a parameter object, a default for each missing parameter; the
drawing operation runs one frame below this one. -/
def drawShape (room : Nat) (shape : Command.Shape) (params : Value) : Op Reply := do
  match shape with
  | .line =>
    drawLine (room - 1) (← pointList params "start" (ints [0, 0])) (← pointList params "end" (ints [100, 100]))
      .null (← param params "color" .null) .null
  | .circle =>
    drawCircle (room - 1) (← pointList params "center" (ints [0, 0])) (← param params "radius" (.int 50))
      .null (← param params "color" .null) .null
  | .arc =>
    drawArc (room - 1) (← pointList params "center" (ints [0, 0])) (← param params "radius" (.int 50))
      (← param params "start_angle" (.int 0)) (← param params "end_angle" (.int 90))
      .null (← param params "color" .null) .null
  | .ellipse =>
    drawEllipse (room - 1) (← pointList params "center" (ints [0, 0])) (← param params "major_axis" (.int 100))
      (← param params "minor_axis" (.int 50)) (← param params "rotation" (.int 0))
      .null (← param params "color" .null) .null
  | .rectangle =>
    drawRectangle (room - 1) (← pointList params "corner1" (ints [0, 0]))
      (← pointList params "corner2" (ints [100, 100])) .null (← param params "color" .null) .null
  | .polyline =>
    drawPolyline (room - 1) (← pointLists params "points" (.list [ints [0, 0], ints [50, 50], ints [100, 0]]))
      (← param params "closed" (.bool false)) .null (← param params "color" .null) .null
  | .text =>
    drawText (room - 1) (← pointList params "position" (ints [0, 0])) (← param params "text" (.str "Text"))
      (← param params "height" (.float 2.5)) (← param params "rotation" (.int 0))
      .null (← param params "color" .null)
  | .hatch =>
    drawHatch (room - 1) (← pointLists params "boundary_points"
        (.list [ints [0, 0], ints [100, 0], ints [100, 100], ints [0, 100]]))
      (← param params "pattern_name" (.str "SOLID")) (← param params "pattern_scale" (.float 1.0))
      .null (← param params "color" .null)
  | .dimension =>
    addDimension (room - 1) (← pointList params "start" (ints [0, 0])) (← pointList params "end" (ints [100, 0]))
      (← pointList params "text_position" (ints [50, 10])) .null (← param params "color" .null)

/-- Carries out a sentence: reads it, notes it as the last command, and draws the
shape it names, from one frame below this one; a sentence that names no shape is
answered as unread. -/
def readAndDraw (room : Nat) (sentence : Value) : Op Reply := do
  let text ← lift (sentence.textFor "lower")
  let request := Command.read text
  modifyService fun s => { s with drawing := { s.drawing with lastCommand := text } }
  match request.shape with
  | none => return .unread text request.action request.confidence
  | some shape => drawShape (room - 1) shape (.dict request.parameters)

/-- Builds the service afresh in place: the shipped settings, a new connection
and an empty record.  The old connection is dropped, and a dropped connection
closes itself. -/
def rebuild : Op Unit := do
  close
  modifyService fun _ => Service.ofSettings Settings.shipped

end Drafting.Service
