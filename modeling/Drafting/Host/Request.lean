import Drafting.Value.Basic

/-!
# Requests to the drawing application

The server drives a CAD application through its automation interface.  A
`Request` is one thing asked of the application, in the terms of that
interface: connecting to it, adding entities to the drawing's model space,
writing properties of entities and layers, refreshing the view, saving.

Coordinates travel as arrays of reals and an entity as a reference to it, so
the requests that carry them hold lists of doubles and entity numbers.  Each
request has the journal line the application records for it
(`Request.toValue`) and, except for connecting, a name under which the
application can be made to refuse it (`Request.refusalName?`).
-/

namespace Drafting

/-- A property the server writes. -/
inductive Property where
  | layer | color | lineweight | closed | rotation | patternScale | visible
  deriving DecidableEq, Repr

/-- The name of a property in the automation interface. -/
def Property.name : Property → String
  | .layer => "Layer" | .color => "Color" | .lineweight => "Lineweight" | .closed => "Closed"
  | .rotation => "Rotation" | .patternScale => "PatternScale" | .visible => "Visible"

/-- What a property is written on. -/
inductive Target where
  /-- The application window. -/
  | app
  /-- The entity created by the `n`-th entity request of the session. -/
  | entity (n : Nat)
  /-- The layer of this name. -/
  | layer (name : String)

/-- The name under which the journal lists a target. -/
def Target.label : Target → String
  | .app => "app"
  | .entity n => "E" ++ toString n
  | .layer name => "layer:" ++ name

/-- One thing asked of the drawing application. -/
inductive Request where
  /-- Start using the automation library on this thread. -/
  | comInit
  /-- Stop using the automation library. -/
  | comRelease
  /-- Connect to a running application with this program identifier. -/
  | attach (progId : String)
  /-- Start the application with this program identifier. -/
  | launch (progId : String)
  /-- Wait for the given number of seconds. -/
  | pause (seconds : Value)
  /-- Open a new document. -/
  | addDocument
  /-- Add a line between two points. -/
  | addLine (start finish : List Float)
  /-- Add a circle. -/
  | addCircle (center : List Float) (radius : Value)
  /-- Add an arc, angles in radians. -/
  | addArc (center : List Float) (radius : Value) (startAngle endAngle : Float)
  /-- Add an ellipse by its centre, the end of its major axis and the axis ratio. -/
  | addEllipse (center majorAxis : List Float) (ratio : Float)
  /-- Add a polyline through the points, three coordinates each. -/
  | addPolyline (points : List Float)
  /-- Add a text. -/
  | addText (text : Value) (position : List Float) (height : Value)
  /-- Add a hatch of the given pattern type and name, associative. -/
  | addHatch (patternType : Nat) (name : Value)
  /-- Add an aligned dimension. -/
  | addDimAligned (start finish textPosition : List Float)
  /-- Fetch the entity at this place of the model space. -/
  | item (index : Nat)
  /-- Write a property. -/
  | set (target : Target) (property : Property) (value : Value)
  /-- Add a layer of this name. -/
  | addLayer (name : Value)
  /-- Give a hatch the boundary entity as its outer loop. -/
  | appendOuterLoop (hatch boundary : Nat)
  /-- Compute a hatch's fill. -/
  | evaluate (hatch : Nat)
  /-- Update the application window. -/
  | update
  /-- Regenerate the active viewport. -/
  | regen
  /-- Save the document under this absolute path. -/
  | saveAs (path : String)

namespace Request

/-- Whether the request adds an entity to the model space. -/
def addsEntity : Request → Bool
  | addLine .. | addCircle .. | addArc .. | addEllipse .. | addPolyline _ | addText ..
  | addHatch .. | addDimAligned .. => true
  | _ => false

/-- The name under which the application can be told to refuse the request. -/
def refusalName? : Request → Option String
  | comInit => some "CoInitialize"
  | comRelease => some "CoUninitialize"
  | attach _ | launch _ | pause _ | item _ => none
  | addDocument => some "AddDocument"
  | addLine .. => some "AddLine"
  | addCircle .. => some "AddCircle"
  | addArc .. => some "AddArc"
  | addEllipse .. => some "AddEllipse"
  | addPolyline _ => some "AddPolyline"
  | addText .. => some "AddText"
  | addHatch .. => some "AddHatch"
  | addDimAligned .. => some "AddDimAligned"
  | set _ p _ => some ("set:" ++ p.name)
  | addLayer _ => some "AddLayer"
  | appendOuterLoop .. => some "AppendOuterLoop"
  | evaluate _ => some "Evaluate"
  | update => some "Update"
  | regen => some "Regen"
  | saveAs _ => some "SaveAs"

/-- An array of reals as the interface passes it. -/
def reals (xs : List Float) : Value :=
  .dict [("variant", .int 8197), ("value", .list (xs.map .float))]

/-- The journal line of a request. -/
def toValue : Request → Value
  | comInit => .list [.str "CoInitialize"]
  | comRelease => .list [.str "CoUninitialize"]
  | attach p => .list [.str "GetActiveObject", .str p]
  | launch p => .list [.str "Dispatch", .str p]
  | pause s => .list [.str "sleep", s]
  | addDocument => .list [.str "AddDocument"]
  | addLine a b => .list [.str "AddLine", reals a, reals b]
  | addCircle c r => .list [.str "AddCircle", reals c, r]
  | addArc c r s e => .list [.str "AddArc", reals c, r, .float s, .float e]
  | addEllipse c m r => .list [.str "AddEllipse", reals c, reals m, .float r]
  | addPolyline ps => .list [.str "AddPolyline", reals ps]
  | addText t p h => .list [.str "AddText", t, reals p, h]
  | addHatch t n => .list [.str "AddHatch", .int t, n, .bool true]
  | addDimAligned a b t => .list [.str "AddDimAligned", reals a, reals b, reals t]
  | item i => .list [.str "ModelSpace.Item", .int i]
  | set t p v => .list [.str "set", .str t.label, .str p.name, v]
  | addLayer n => .list [.str "AddLayer", n]
  | appendOuterLoop h b =>
    .list [.str "AppendOuterLoop", .str (Target.entity h).label,
      .dict [("variant", .int 8201), ("value", .list [.dict [("ref", .str (Target.entity b).label)]])]]
  | evaluate h => .list [.str "Evaluate", .str (Target.entity h).label]
  | update => .list [.str "Update"]
  | regen => .list [.str "Regen", .int 1]
  | saveAs p => .list [.str "SaveAs", .str p]

end Request

end Drafting
