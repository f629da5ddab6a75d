import Drafting.Link.Connect

/-!
# Drawing through the connection

Each drawing operation turns its points into arrays of reals, asks the
application to add the entity, writes the entity's properties, refreshes the
view and reports the entity.  Without a model space nothing is asked and the
answer is a refusal; a fault on the way, from a point with too few
coordinates, a coordinate that is not a number or a refused request, becomes
a refusal carrying the fault's message.  The requests granted before the fault
stay granted, so an entity may exist that no report mentions.

Angles are given in degrees and sent in radians.
-/

namespace Drafting.Link

open Op

/-- π/180 rounded to a double, the factor from degrees to radians. -/
def degree : Float := Float.ofBits 0x3F91DF46A2529D39

/-- An angle in degrees as radians; it must be a number. -/
def radians (v : Value) : Except Fault Float := do
  return (← v.toReal) * degree

/-- A function of the reals that is not a number only outside its domain. -/
def guarded (f : Float → Float) (x : Float) : Except Fault Float :=
  let r := f x
  if r.isNaN && !x.isNaN then .error .mathDomain else .ok r

/-- The coordinates of points as one array of reals. -/
def realsOf (ps : List Point3) : Except Fault (List Float) :=
  (ps.flatMap Point3.coords).mapM Value.toReal

/-- A point given as a sequence, lifted to three coordinates. -/
def point (v : Value) : Op Point3 := lift (Point3.ofValue v)

/-- The reason a fault gives for refusing an operation. -/
def refusal (f : Fault) : Reply := .refused f.message

/-- Runs a drawing operation when a model space is held; a fault becomes a refusal. -/
def drawing (body : Op Reply) : Op Reply := do
  if !(← link).modelSpace then return .refused "CAD not initialized"
  tryCatch body fun f => pure (refusal f)

/-- Draws a line between two points. -/
def drawLine (start finish layer colour lineweight : Value) : Op Reply := drawing do
  let s ← point start
  let f ← point finish
  let sv ← lift (realsOf [s])
  let fv ← lift (realsOf [f])
  let e ← addEntity (.addLine sv fv)
  applyProperties e layer colour lineweight
  refresh
  return .drawn (.line s f)

/-- Draws a circle; the radius is passed on as it is. -/
def drawCircle (center radius layer colour lineweight : Value) : Op Reply := drawing do
  let c ← point center
  let cv ← lift (realsOf [c])
  let e ← addEntity (.addCircle cv radius)
  applyProperties e layer colour lineweight
  refresh
  return .drawn (.circle c radius)

/-- Draws an arc between two angles given in degrees. -/
def drawArc (center radius startAngle endAngle layer colour lineweight : Value) : Op Reply :=
  drawing do
  let c ← point center
  let cv ← lift (realsOf [c])
  let s ← lift (radians startAngle)
  let t ← lift (radians endAngle)
  let e ← addEntity (.addArc cv radius s t)
  applyProperties e layer colour lineweight
  refresh
  return .drawn (.arc c radius startAngle endAngle)

/-- The smaller of one and `x`; one when `x` is not a number. -/
def atMostOne (x : Float) : Float := if x < 1.0 then x else 1.0

/-- A number, or the fault of comparing a non-number with an integer. -/
def numeric (op : Comparison) (v : Value) : Except Fault Num :=
  match v.num? with
  | some n => .ok n
  | none => .error (.unordered op v.kind "int")

/-- Draws an ellipse: the major axis must be positive and the minor one not
negative; the major axis is turned by the rotation, given in degrees, and the
minor axis is sent as its ratio to the major one, at most one. -/
def drawEllipse (center major minor rotation layer colour lineweight : Value) : Op Reply :=
  drawing do
  let c ← point center
  let cv ← lift (realsOf [c])
  if ← lift (major.compareInt .le 0) then
    return .refused ("major_axis must be positive, got " ++ major.text)
  if ← lift (minor.compareInt .lt 0) then
    return .refused ("minor_axis must be non-negative, got " ++ minor.text)
  let a ← lift (numeric .le major)
  let b ← lift (numeric .lt minor)
  let r ← lift (radians rotation)
  let ax ← lift (do Num.toFloat (← a.mul (.float (← guarded Float.cos r))))
  let ay ← lift (do Num.toFloat (← a.mul (.float (← guarded Float.sin r))))
  let ratio ← if a.holds .gt 0 then lift (do return atMostOne (← b.div a)) else pure 0.0
  let e ← addEntity (.addEllipse cv [ax, ay, 0.0] ratio)
  applyProperties e layer colour lineweight
  refresh
  return .drawn (.ellipse c major minor rotation)

/-- Draws a polyline through the points, closed when `closed` is truthy.  Fewer
than two points are refused before anything is asked; a value without a
length is a fault that is not caught. -/
def drawPolyline (points closed layer colour lineweight : Value) : Op Reply := do
  if !(← link).modelSpace then return .refused "CAD not initialized"
  if (← lift points.len) < 2 then return .refused "Polyline requires at least 2 points"
  tryCatch (do
      let ps ← (← lift points.elements).mapM point
      let e ← addEntity (.addPolyline (← lift (realsOf ps)))
      if closed.truthy then request (.set (.entity e) .closed (.bool true))
      applyProperties e layer colour lineweight
      refresh
      return .drawn (.polyline ps closed)) fun f => pure (refusal f)

/-- The four corners of the rectangle spanned by two corners, in drawing order. -/
def corners (c1 c2 : Point3) : List Point3 :=
  [⟨c1.x, c1.y, c1.z⟩, ⟨c2.x, c1.y, c1.z⟩, ⟨c2.x, c2.y, c2.z⟩, ⟨c1.x, c2.y, c2.z⟩]

/-- Draws a rectangle as a closed polyline through its four corners.  The
corners are lifted to three coordinates before anything else, and a corner
with too few is a fault that is not caught. -/
def drawRectangle (corner1 corner2 layer colour lineweight : Value) : Op Reply := do
  let c1 ← point corner1
  let c2 ← point corner2
  let ps := corners c1 c2
  match ← drawPolyline (.list (ps.map Point3.toValue)) (.bool true) layer colour lineweight with
  | .drawn _ => return .drawn (.rectangle ps c1 c2)
  | r => return r

/-- Draws a text, turned by the rotation given in degrees. -/
def drawText (position content height rotation layer colour : Value) : Op Reply := drawing do
  let p ← point position
  let pv ← lift (realsOf [p])
  let e ← addEntity (.addText content pv height)
  request (.set (.entity e) .rotation (.float (← lift (radians rotation))))
  applyProperties e layer colour .null
  refresh
  return .drawn (.text p content height rotation)

/-- Draws a hatch: first its boundary as a closed polyline, then the hatch with
that polyline as its outer loop.  The pattern `SOLID`, in any case, is drawn
as a user-defined fill and any other as a predefined pattern. -/
def drawHatch (boundary pattern scale layer colour : Value) : Op Reply := do
  if !(← link).modelSpace then return .refused "CAD not initialized"
  if (← lift boundary.len) < 3 then return .refused "Hatch requires at least 3 boundary points"
  tryCatch (do
      match ← drawPolyline boundary (.bool true) .null .null .null with
      | .drawn _ =>
        let last := (← get).host.entities
        request (.item (last - 1))
        let name ← lift (pattern.textFor "upper")
        let e ← addEntity (.addHatch (if Text.upper name != "SOLID" then 1 else 0) pattern)
        request (.set (.entity e) .patternScale scale)
        request (.appendOuterLoop e last)
        request (.evaluate e)
        applyProperties e layer colour .null
        refresh
        return .drawn (.hatch pattern scale)
      | r => return r) fun f => pure (refusal f)

/-- Draws an aligned dimension between two points with its label at the third. -/
def addDimension (start finish label layer colour : Value) : Op Reply := drawing do
  let s ← point start
  let f ← point finish
  let t ← point label
  let sv ← lift (realsOf [s])
  let fv ← lift (realsOf [f])
  let tv ← lift (realsOf [t])
  -- the direction of the dimension line; it is not sent, but computing it can fail
  let dx ← lift (match f.x.num?, s.x.num? with
    | some a, some b => a.sub b
    | _, _ => .ok (.int 0))
  let dy ← lift (match f.y.num?, s.y.num? with
    | some a, some b => a.sub b
    | _, _ => .ok (.int 0))
  let _ ← lift (do return Float.atan2 (← dy.toFloat) (← dx.toFloat))
  let e ← addEntity (.addDimAligned sv fv tv)
  applyProperties e layer colour .null
  refresh
  return .drawn (.dimension s f t)

/-- Saves the document under a path, creating the directory that holds it with
room on the call stack for `room` nested creations; the path is reported as an
absolute one. -/
def save (room : Nat) (path : Value) : Op Reply := do
  if !(← link).doc then return .refused "No document to save"
  tryCatch (do
      let p ← match path with
        | .str s => pure (PathName.parse s)
        | v => throw (Fault.notAPath v.kind)
      let (disk, fault) := (← get).disk.makeDirs room p.parent
      modify fun s => { s with disk := disk }
      if let some f := fault then throw f
      let full := p.absolute disk.cwd
      request (.saveAs full)
      return .saved full) fun f => pure (refusal f)

end Drafting.Link
