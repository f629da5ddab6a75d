import Drafting.Server.Handlers

/-!
# Sessions

A session is a sequence of steps against one drawing application: tool calls
and resource reads as a client makes them, direct calls of the service's and
the connection's operations by name, and changes to the application (which
requests it refuses, whether it still answers).  `Session.run` carries out
the steps in order and reports, for each, its result, the requests the
application granted during it, and the drawing record after it.

The service is made when the session starts, or, in a lazy session, by the
first step that needs it; until then there is no record to report.  Calls by
name bind their arguments to the operation's parameters first (`Signature`),
so a misnamed or missing argument is a fault of the call.
-/

namespace Drafting

/-- One step of a session. -/
inductive Step where
  /-- A client calls a tool with these arguments. -/
  | tool (name args : Value)
  /-- A client reads the resource at an address. -/
  | resource (uri : Value)
  /-- A direct call of a service operation with named arguments. -/
  | service (operation : String) (args : List (String × Value))
  /-- A direct call of a connection operation with named arguments. -/
  | link (operation : String) (args : List (String × Value))
  /-- From now on the application refuses the requests of these names. -/
  | refuse (names : List String)
  /-- The application stops answering, or answers again. -/
  | unplug (dropped : Bool)

/-- What a step reports. -/
structure StepReport where
  result : Except Fault Value
  granted : List Request
  record : Option Drawing

/-- The state of a session between steps. -/
structure Desk where
  host : Host
  disk : Disk
  service : Option Service

/-- The service of a desk, made with the shipped settings when there is none yet. -/
def Desk.station (d : Desk) : Station :=
  ⟨d.host, d.disk, d.service.getD (Service.ofSettings Settings.shipped)⟩

namespace Value

mutual

/-- How many calls deep the reader of requests goes into a value: one for the value, and
for an array or an object one more, the walk over its items. -/
def readCalls : Value → Nat
  | list xs => itemsCalls xs + 2
  | tuple xs => itemsCalls xs + 2
  | dict kvs => entriesCalls kvs + 2
  | _ => 1

/-- The deepest reading among items; nothing for no items. -/
def itemsCalls : List Value → Nat
  | [] => 0
  | x :: rest => max x.readCalls (itemsCalls rest)

/-- The deepest reading among the values of entries; nothing for no entries. -/
def entriesCalls : List (String × Value) → Nat
  | [] => 0
  | (_, v) :: rest => max v.readCalls (entriesCalls rest)

end

/-- Whether a value is an array. -/
def isArray : Value → Bool
  | list _ => true
  | _ => false

mutual

/-- An argument of a direct call on the connection, as a request writes it: an array of
arrays becomes a list of such arguments, any other array a tuple. -/
def asLinkArgument : Value → Value
  | list [] => tuple []
  | list xs => if xs.all isArray then list (asLinkArguments xs) else tuple xs
  | v => v

/-- Each item as an argument of a direct call on the connection. -/
def asLinkArguments : List Value → List Value
  | [] => []
  | x :: rest => asLinkArgument x :: asLinkArguments rest

end

end Value

namespace Session

/-- The parameters shared by the drawing operations after their own. -/
def styleParams (lineweight : Bool) : List Param :=
  [.optional "layer" .null, .optional "color" .null] ++
    (if lineweight then [.optional "lineweight" .null] else [])

/-- Binds named arguments and runs the operation on the values in parameter order. -/
def bound (name : String) (params : List Param) (args : List (String × Value))
    (run : List Value → Op Value) : Op Value := do
  run (← Op.lift ((Signature.mk name params).byName args))

/-- The signature prefix of the service's operations. -/
def serviceName (op : String) : String := "CADService." ++ op

/-- The signature prefix of the connection's operations. -/
def linkName (op : String) : String := "CADController." ++ op

/-- The names every object has from the most general class, in the order that
class lists them, apart from `__init__` and `__doc__`, which each class here
defines itself. -/
def objectNames : List String :=
  ["__new__", "__repr__", "__hash__", "__str__", "__getattribute__", "__setattr__",
    "__delattr__", "__lt__", "__le__", "__eq__", "__ne__", "__gt__", "__ge__", "__reduce_ex__",
    "__reduce__", "__getstate__", "__subclasshook__", "__init_subclass__", "__format__",
    "__sizeof__", "__dir__", "__class__"]

/-- The names the service's class defines, in the order it defines them. -/
def serviceNames : List String :=
  ["__module__", "__doc__", "__init__", "ensure_initialized", "draw_line", "draw_circle",
    "draw_arc", "draw_ellipse", "draw_polyline", "draw_rectangle", "draw_text", "draw_hatch",
    "add_dimension", "save_drawing", "process_natural_language", "_execute_line",
    "_execute_circle", "_execute_arc", "_execute_ellipse", "_execute_rectangle",
    "_execute_polyline", "_execute_text", "_execute_hatch", "_execute_dimension", "__dict__",
    "__weakref__"]

/-- The names the connection's class defines, in the order it defines them. -/
def linkNames : List String :=
  ["__module__", "__doc__", "__init__", "_init_com", "_cleanup_com", "_create_variant_array",
    "start", "is_running", "close", "refresh_view", "create_layer", "_apply_entity_properties",
    "draw_line", "draw_circle", "draw_arc", "draw_ellipse", "draw_polyline", "draw_rectangle",
    "draw_text", "draw_hatch", "add_dimension", "save_drawing", "__del__", "__dict__",
    "__weakref__"]

/-- The operations every object has, called with named arguments on an object of
class `cls` with these attributes and whose class defines `names`; `none` for
any other operation.  The comparisons and the attribute hooks take their
operands by position only, so no call by name can give them; the rest take no
named argument.  What an object's text, hash or reduction is depends on where
it lies in memory, and shows as nothing. -/
def objectMethod (cls op : String) (args : List (String × Value)) (attributes : Value)
    (names : List String) : Option (Op Value) :=
  let plain (result : Op Value) : Op Value :=
    if args.isEmpty then result else throw (.noKeywords (cls ++ "." ++ op))
  let slot (result : Op Value) : Op Value :=
    if args.isEmpty then result else throw (.noKeywords ("wrapper " ++ op))
  let keys := match attributes with
    | .dict entries => entries.map (·.1)
    | _ => []
  match op with
  | "__eq__" | "__ne__" | "__lt__" | "__le__" | "__gt__" | "__ge__" | "__getattribute__"
  | "__delattr__" => some (slot (throw (.argumentCount 1 0)))
  | "__setattr__" => some (slot (throw (.unpackCount "" 2 0)))
  | "__repr__" | "__str__" | "__hash__" => some (slot (pure .null))
  | "__format__" | "__reduce_ex__" => some (plain (throw (.exactlyOne (cls ++ "." ++ op) 0)))
  | "__getstate__" => some (plain (pure attributes))
  | "__sizeof__" => some (plain (pure (.int 24)))
  | "__dir__" => some (plain (pure (.list ((keys ++ names ++ objectNames).map .str))))
  | "__init_subclass__" | "__reduce__" => some (plain (pure .null))
  | "__subclasshook__" => some (if args.isEmpty then pure .null else throw (.noKeywords op))
  | "__new__" => some (throw (.notEnoughArguments "object.__new__"))
  | _ => none

open Param in
/-- Calls a service operation by name. -/
def callService (op : String) (args : List (String × Value)) : Op Value :=
  let n := serviceName op
  let reply (r : Op Reply) : Op Value := do return (← r).toValue
  match op with
  | "ensure_initialized" => bound n [] args fun _ => do return .bool (← Service.ensureReady)
  | "draw_line" => bound n ([required "start", required "end"] ++ styleParams true) args fun
    | [a, b, l, c, w] => reply (Service.drawLine Server.stepRoom a b l c w)
    | _ => pure .null
  | "draw_circle" => bound n ([required "center", required "radius"] ++ styleParams true) args fun
    | [a, r, l, c, w] => reply (Service.drawCircle Server.stepRoom a r l c w)
    | _ => pure .null
  | "draw_arc" => bound n ([required "center", required "radius", required "start_angle",
      required "end_angle"] ++ styleParams true) args fun
    | [a, r, s, e, l, c, w] => reply (Service.drawArc Server.stepRoom a r s e l c w)
    | _ => pure .null
  | "draw_ellipse" => bound n ([required "center", required "major_axis", required "minor_axis",
      optional "rotation" (.float 0.0)] ++ styleParams true) args fun
    | [a, p, q, r, l, c, w] => reply (Service.drawEllipse Server.stepRoom a p q r l c w)
    | _ => pure .null
  | "draw_polyline" => bound n ([required "points", optional "closed" (.bool false)] ++
      styleParams true) args fun
    | [ps, k, l, c, w] => reply (Service.drawPolyline Server.stepRoom ps k l c w)
    | _ => pure .null
  | "draw_rectangle" => bound n ([required "corner1", required "corner2"] ++ styleParams true) args fun
    | [a, b, l, c, w] => reply (Service.drawRectangle Server.stepRoom a b l c w)
    | _ => pure .null
  | "draw_text" => bound n ([required "position", required "text", optional "height" (.float 2.5),
      optional "rotation" (.float 0.0)] ++ styleParams false) args fun
    | [p, t, h, r, l, c] => reply (Service.drawText Server.stepRoom p t h r l c)
    | _ => pure .null
  | "draw_hatch" => bound n ([required "boundary_points", optional "pattern_name" (.str "SOLID"),
      optional "pattern_scale" (.float 1.0)] ++ styleParams false) args fun
    | [ps, name, s, l, c] => reply (Service.drawHatch Server.stepRoom ps name s l c)
    | _ => pure .null
  | "add_dimension" => bound n ([required "start", required "end", required "text_position"] ++
      styleParams false) args fun
    | [a, b, t, l, c] => reply (Service.addDimension Server.stepRoom a b t l c)
    | _ => pure .null
  | "save_drawing" => bound n [required "file_path"] args fun
    | [p] => reply (Service.save Server.stepRoom p)
    | _ => pure .null
  | "process_natural_language" => bound n [required "command"] args fun
    | [t] => reply (Service.readAndDraw Server.stepRoom t)
    | _ => pure .null
  | "__init__" => bound n [] args fun _ => do Service.rebuild; return .null
  | "__class__" => bound (serviceName "__init__") [] args fun _ => pure .null
  | "__doc__" | "__module__" => throw (.notCallable "str")
  | "__dict__" => throw (.notCallable "dict")
  | "__weakref__" => throw (.notCallable "NoneType")
  | "config" => throw (.notCallable "Config")
  | "controller" => throw (.notCallable "CADController")
  | "nlp" => throw (.notCallable "NLPProcessor")
  | "state" => throw (.notCallable "DrawingState")
  | "_initialized" => throw (.notCallable "bool")
  | "_execute_line" => shape .line
  | "_execute_circle" => shape .circle
  | "_execute_arc" => shape .arc
  | "_execute_ellipse" => shape .ellipse
  | "_execute_rectangle" => shape .rectangle
  | "_execute_polyline" => shape .polyline
  | "_execute_text" => shape .text
  | "_execute_hatch" => shape .hatch
  | "_execute_dimension" => shape .dimension
  | _ => do
    match objectMethod "CADService" op args (← get).service.attributes serviceNames with
    | some call => call
    | none => throw (.noAttribute "CADService" op)
where
  /-- Draws a shape from a parameter object given by name. -/
  shape (s : Command.Shape) : Op Value :=
    bound (serviceName op) [required "params"] args fun
      | [p] => do return (← Service.drawShape Server.stepRoom s p).toValue
      | _ => pure .null

open Param in
/-- Calls a connection operation by name. -/
def callLink (op : String) (args : List (String × Value)) : Op Value :=
  let n := linkName op
  let reply (r : Op Reply) : Op Value := do return (← r).toValue
  let unit (m : Op Unit) : Op Value := do m; return .null
  match op with
  | "start" => bound n [] args fun _ => do return .bool (← Link.connect)
  | "is_running" => bound n [] args fun _ => do return .bool (← Link.alive)
  | "close" => bound n [] args fun _ => unit Link.close
  | "refresh_view" => bound n [] args fun _ => unit Link.refresh
  | "__init__" => bound n [required "config"] args fun
    | [c] => unit (Link.reset c)
    | _ => pure .null
  | "__class__" => bound (linkName "__init__") [required "config"] args fun _ => pure .null
  | "__del__" => bound n [] args fun _ => unit Link.close
  | "__doc__" | "__module__" => throw (.notCallable "str")
  | "__dict__" => throw (.notCallable "dict")
  | "__weakref__" => throw (.notCallable "NoneType")
  | "_init_com" => bound n [] args fun _ => unit Link.initLibrary
  | "_cleanup_com" => bound n [] args fun _ => unit Link.releaseLibrary
  | "create_layer" => bound n [required "name", optional "color" (.int 7)] args fun
    | [name, c] => do return .bool (← Link.ensureLayer name c)
    | _ => pure .null
  | "draw_line" => bound n ([required "start", required "end"] ++ styleParams true) args fun
    | [a, b, l, c, w] => reply (Link.drawLine a b l c w)
    | _ => pure .null
  | "draw_circle" => bound n ([required "center", required "radius"] ++ styleParams true) args fun
    | [a, r, l, c, w] => reply (Link.drawCircle a r l c w)
    | _ => pure .null
  | "draw_arc" => bound n ([required "center", required "radius", required "start_angle",
      required "end_angle"] ++ styleParams true) args fun
    | [a, r, s, e, l, c, w] => reply (Link.drawArc a r s e l c w)
    | _ => pure .null
  | "draw_ellipse" => bound n ([required "center", required "major_axis", required "minor_axis",
      optional "rotation" (.float 0.0)] ++ styleParams true) args fun
    | [a, p, q, r, l, c, w] => reply (Link.drawEllipse a p q r l c w)
    | _ => pure .null
  | "draw_polyline" => bound n ([required "points", optional "closed" (.bool false)] ++
      styleParams true) args fun
    | [ps, k, l, c, w] => reply (Link.drawPolyline ps k l c w)
    | _ => pure .null
  | "draw_rectangle" => bound n ([required "corner1", required "corner2"] ++ styleParams true) args fun
    | [a, b, l, c, w] => reply (Link.drawRectangle a b l c w)
    | _ => pure .null
  | "draw_text" => bound n ([required "position", required "text", optional "height" (.float 2.5),
      optional "rotation" (.float 0.0)] ++ styleParams false) args fun
    | [p, t, h, r, l, c] => reply (Link.drawText p t h r l c)
    | _ => pure .null
  | "draw_hatch" => bound n ([required "boundary_points", optional "pattern_name" (.str "SOLID"),
      optional "pattern_scale" (.float 1.0)] ++ styleParams false) args fun
    | [ps, name, s, l, c] => reply (Link.drawHatch ps name s l c)
    | _ => pure .null
  | "add_dimension" => bound n ([required "start", required "end", required "text_position"] ++
      styleParams false) args fun
    | [a, b, t, l, c] => reply (Link.addDimension a b t l c)
    | _ => pure .null
  | "save_drawing" => bound n [required "file_path"] args fun
    | [p] => reply (Link.save Server.stepRoom p)
    | _ => pure .null
  | "_apply_entity_properties" => bound n [required "entity", optional "layer" .null,
      optional "color" .null, optional "lineweight" .null] args fun
    | [_, l, _, _] => unit (Link.applyToValue l)
    | _ => pure .null
  | "_create_variant_array" => bound n [required "points"] args fun
    | [ps] => Op.lift (Link.realArray ps)
    | _ => pure .null
  | "config" => do throw (.notCallable (← Op.link).config.kind)
  | "_com_initialized" => throw (.notCallable "bool")
  | "app" | "doc" | "model_space" => throw (.notCallable "NoneType")
  | _ => do
    match objectMethod "CADController" op args (← Op.link).attributes linkNames with
    | some call => call
    | none => throw (.noAttribute "CADController" op)

/-- Runs an operation that needs the service, making the service first if need be. -/
def withService {α : Type} (d : Desk) (op : Op α) : Except Fault α × Desk :=
  let (r, st) := (op.run).run d.station
  (r, ⟨st.host, st.disk, some st.service⟩)

/-- Carries out one step. -/
def step (d : Desk) : Step → Except Fault Value × Desk
  | .tool name args => withService d do return (← Server.callTool name args).toValue
  | .resource uri =>
    if Server.namesDrawing uri then withService d (Server.readResource uri)
    else (.error (.unknownResource uri.text), d)
  | .service op args => withService d (callService op args)
  | .link op args => withService d (callLink op args)
  | .refuse names => (.ok .null, { d with host := { d.host with refusing := names } })
  | .unplug dropped => (.ok .null, { d with host := { d.host with unplugged := dropped } })

/-- Carries out one step and reports it. -/
def report (d : Desk) (s : Step) : StepReport × Desk :=
  let (r, d') := step { d with host := { d.host with journal := #[] } } s
  (⟨r, d'.host.journal.toList, d'.service.map Service.drawing⟩, d')

/-- Carries out the steps in order; answers their reports and the final desk. -/
def runFrom (d : Desk) : List Step → List StepReport × Desk
  | [] => ([], d)
  | s :: rest =>
    let (rep, d') := report d s
    let (reps, d'') := runFrom d' rest
    (rep :: reps, d'')

/-- The desk a session starts from: in a lazy session no service yet, otherwise
a service with the given settings, or the shipped ones. -/
def start (host : Host) (disk : Disk) (settings : Option Settings) (lazy : Bool) : Desk :=
  ⟨host, disk, if lazy then none else some (Service.ofSettings (settings.getD Settings.shipped))⟩

/-- Runs a session: the reports of its steps and the drawing record at the end. -/
def run (host : Host) (disk : Disk) (settings : Option Settings) (lazy : Bool) (steps : List Step) :
    List StepReport × Option Drawing :=
  let (reps, d) := runFrom (start host disk settings lazy) steps
  (reps, d.service.map Service.drawing)

/-! ### Reading a session's request

A session arrives as one JSON request, which a reader walks recursively before the
session starts: one call for each value, and for an array or an object one more, the
walk over its items, which calls the reader on each of them.  A request nested deeper
than the call stack holds is turned away before any step runs. -/

/-- How many calls deep the reader of requests may go: the call stack holds a thousand
frames, and the calls that lead to the reader hold three of them. -/
def readRoom : Nat := 997

/-- Whether the reader of requests takes a request in. -/
def readable (request : Value) : Bool := request.readCalls ≤ readRoom

/-- The texts of a list, the other items left out. -/
def texts : Value → List String
  | .list xs => xs.filterMap fun | .str s => some s | _ => none
  | _ => []

/-- The entries of an object; nothing for any other value. -/
def fields : Value → List (String × Value)
  | .dict kvs => kvs
  | _ => []

/-- The step a request writes as an object: the first of the fields `tool`, `resource`,
`service`, `controller`, `set_fail` and `disconnect` it has decides the kind, and
`args` gives the arguments, no arguments when it is missing. -/
def stepOf (s : Value) : Step :=
  let field (key : String) := Value.lookup key (fields s)
  let args := (field "args").getD (.dict [])
  match field "tool", field "resource", field "service", field "controller", field "set_fail",
      field "disconnect" with
  | some n, _, _, _, _, _ => .tool n args
  | _, some u, _, _, _, _ => .resource u
  | _, _, some (.str m), _, _, _ => .service m (fields args)
  | _, _, _, some (.str m), _, _ => .link m ((fields args).map fun (k, v) => (k, v.asLinkArgument))
  | _, _, _, _, some names, _ => .refuse (texts names)
  | _, _, _, _, _, some d => .unplug d.truthy
  | _, _, _, _, _, _ => .refuse []

/-- The steps of a session's request, in order. -/
def stepsOf (request : Value) : List Step :=
  match Value.lookup "steps" (fields request) with
  | some (.list xs) => xs.map stepOf
  | _ => []

end Session

end Drafting
