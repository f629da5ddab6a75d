import Drafting.Geometry
import Drafting.Command.Lexicon

/-!
# Entities and the drawing record

An `Entity` is what a successful drawing operation reports: the kind of
entity and the geometry it was given, the coordinates as they were passed.
A `Reply` is what any operation of the service answers: an entity drawn, a
drawing saved, a refusal with its reason, or a sentence it could not read.

`Drawing` is the service's record of the session: the entities drawn, in
order, the current layer, the last command and the outcome of the last
successful one.
-/

namespace Drafting

/-- A drawn entity as its operation reports it. -/
inductive Entity where
  | line (start finish : Point3)
  | circle (center : Point3) (radius : Value)
  | arc (center : Point3) (radius startAngle endAngle : Value)
  | ellipse (center : Point3) (majorAxis minorAxis rotation : Value)
  | polyline (points : List Point3) (closed : Value)
  /-- A rectangle, drawn as a closed polyline through its four corners. -/
  | rectangle (points : List Point3) (corner1 corner2 : Point3)
  | text (position : Point3) (content height rotation : Value)
  | hatch (pattern scale : Value)
  | dimension (start finish textPosition : Point3)

namespace Entity

/-- The name of the entity's kind. -/
def kind : Entity → String
  | line .. => "line" | circle .. => "circle" | arc .. => "arc" | ellipse .. => "ellipse"
  | polyline .. => "polyline" | rectangle .. => "rectangle" | text .. => "text"
  | hatch .. => "hatch" | dimension .. => "dimension"

/-- The fields that describe the entity. -/
def fields : Entity → List (String × Value)
  | line s f => [("start", s.toValue), ("end", f.toValue)]
  | circle c r => [("center", c.toValue), ("radius", r)]
  | arc c r s e => [("center", c.toValue), ("radius", r), ("start_angle", s), ("end_angle", e)]
  | ellipse c a b r =>
    [("center", c.toValue), ("major_axis", a), ("minor_axis", b), ("rotation", r)]
  | polyline ps closed => [("points", .list (ps.map Point3.toValue)), ("closed", closed)]
  | rectangle ps c1 c2 =>
    [("points", .list (ps.map Point3.toValue)), ("closed", .bool true), ("corner1", c1.toValue),
      ("corner2", c2.toValue)]
  | text p t h r => [("position", p.toValue), ("text", t), ("height", h), ("rotation", r)]
  | hatch p s => [("pattern", p), ("scale", s)]
  | dimension s f t => [("start", s.toValue), ("end", f.toValue), ("text_position", t.toValue)]

/-- The report of a successful drawing operation. -/
def toValue (e : Entity) : Value :=
  .dict ([("success", .bool true), ("type", .str e.kind)] ++ e.fields)

end Entity

/-- What an operation of the service answers. -/
inductive Reply where
  /-- The entity was drawn. -/
  | drawn (e : Entity)
  /-- The drawing was saved under this absolute path. -/
  | saved (path : String)
  /-- The operation was refused or failed, for this reason. -/
  | refused (reason : String)
  /-- The sentence named no shape. -/
  | unread (sentence : String) (action : Command.Action) (confidence : Float)

namespace Reply

/-- Whether the operation succeeded. -/
def succeeded : Reply → Bool
  | drawn _ | saved _ => true
  | _ => false

/-- The answer as an object. -/
def toValue : Reply → Value
  | drawn e => e.toValue
  | saved p => .dict [("success", .bool true), ("file_path", .str p)]
  | refused r => .dict [("success", .bool false), ("error", .str r)]
  | unread s a c =>
    .dict [("success", .bool false), ("error", .str ("Could not understand command: " ++ s)),
      ("parsed", .dict [("action", .str a.name), ("confidence", .float c)])]

end Reply

/-- The service's record of a session. -/
structure Drawing where
  entities : List Entity := []
  currentLayer : String := "0"
  lastCommand : String := ""
  lastResult : String := ""

namespace Drawing

/-- The record with an entity appended. -/
def add (d : Drawing) (e : Entity) : Drawing := { d with entities := d.entities ++ [e] }

/-- The record as an object. -/
def toValue (d : Drawing) : Value :=
  .dict [("entities", .list (d.entities.map Entity.toValue)), ("current_layer", .str d.currentLayer),
    ("last_command", .str d.lastCommand), ("last_result", .str d.lastResult),
    ("entity_count", .int d.entities.length)]

/-- The record without its entities, as each step reports it. -/
def summary (d : Drawing) : Value :=
  .dict [("current_layer", .str d.currentLayer), ("entity_count", .int d.entities.length),
    ("last_command", .str d.lastCommand), ("last_result", .str d.lastResult)]

end Drawing

end Drafting
