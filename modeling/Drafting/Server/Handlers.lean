import Drafting.Service
import Drafting.Server.Tools

/-!
# Answering clients

What the server answers to each kind of client request: a tool call, the list
of resources and the current drawing, the list of prompts and a prompt.

A tool call never fails: a fault met while reading the arguments or while
drawing is answered as a refusal carrying the fault's message, and an unknown
tool name is refused too.  Required arguments are read in the order the tool
lists them, the optional ones after.
-/

namespace Drafting.Server

open Op

/-- The argument `key`, which must be there. -/
def needed (args : Value) (key : String) : Op Value := lift (args.index key)

/-- The argument `key`, or the default when it is missing. -/
def optional (args : Value) (key : String) (default : Value) : Op Value := lift (args.get key default)

/-- How many creations of a missing directory may nest inside one another below
an operation of the connection or the service that a session step calls
directly.  The call stack holds about a thousand frames; the session's own
calls hold some of them, and each nested creation holds one more. -/
def stepRoom : Nat := 989

/-- The same below a tool call.  A step awaits the tool handler through an event
loop, and the handler awaits the dispatch of the tool, which together hold
eleven frames more than a direct call of the service. -/
def toolRoom : Nat := stepRoom - 11

/-- Carries out a tool call, letting faults through; `room` is the room on the
call stack below the tool's service operation. -/
def runTool (room : Nat) (name : Value) (args : Value) : Op Reply :=
  match name with
  | .str "draw_line" => do
    Service.drawLine room (← needed args "start") (← needed args "end")
      (← optional args "layer" .null) (← optional args "color" .null)
      (← optional args "lineweight" .null)
  | .str "draw_circle" => do
    Service.drawCircle room (← needed args "center") (← needed args "radius")
      (← optional args "layer" .null) (← optional args "color" .null)
      (← optional args "lineweight" .null)
  | .str "draw_arc" => do
    Service.drawArc room (← needed args "center") (← needed args "radius")
      (← needed args "start_angle") (← needed args "end_angle") (← optional args "layer" .null)
      (← optional args "color" .null) (← optional args "lineweight" .null)
  | .str "draw_ellipse" => do
    Service.drawEllipse room (← needed args "center") (← needed args "major_axis")
      (← needed args "minor_axis") (← optional args "rotation" (.int 0))
      (← optional args "layer" .null) (← optional args "color" .null)
      (← optional args "lineweight" .null)
  | .str "draw_polyline" => do
    Service.drawPolyline room (← needed args "points") (← optional args "closed" (.bool false))
      (← optional args "layer" .null) (← optional args "color" .null)
      (← optional args "lineweight" .null)
  | .str "draw_rectangle" => do
    Service.drawRectangle room (← needed args "corner1") (← needed args "corner2")
      (← optional args "layer" .null) (← optional args "color" .null)
      (← optional args "lineweight" .null)
  | .str "draw_text" => do
    Service.drawText room (← needed args "position") (← needed args "text")
      (← optional args "height" (.float 2.5)) (← optional args "rotation" (.int 0))
      (← optional args "layer" .null) (← optional args "color" .null)
  | .str "draw_hatch" => do
    Service.drawHatch room (← needed args "boundary_points")
      (← optional args "pattern_name" (.str "SOLID")) (← optional args "pattern_scale" (.float 1.0))
      (← optional args "layer" .null) (← optional args "color" .null)
  | .str "add_dimension" => do
    Service.addDimension room (← needed args "start") (← needed args "end")
      (← needed args "text_position") (← optional args "layer" .null) (← optional args "color" .null)
  | .str "save_drawing" => do Service.save room (← needed args "file_path")
  | .str "process_command" => do Service.readAndDraw room (← needed args "command")
  | other => return .refused ("Unknown tool: " ++ other.text)

/-- Answers a tool call; a fault becomes a refusal with its message. -/
def callTool (name : Value) (args : Value) : Op Reply :=
  tryCatch (runTool toolRoom name args) fun f => pure (.refused f.message)

/-- The address of the current drawing. -/
def drawingUri : String := "drawing://current"

/-- Whether an address names the current drawing. -/
def namesDrawing (uri : Value) : Bool :=
  match uri with
  | .str s => s == drawingUri
  | _ => false

/-- The resources the server offers. -/
def resources : Value :=
  .list [.dict [("uri", .str drawingUri), ("name", .str "Current Drawing State"),
    ("description", .str "Current state of the AutoCAD drawing including all entities"),
    ("mimeType", .str "application/json")]]

/-- The resource at an address: the current drawing, or a fault for any other address. -/
def readResource (uri : Value) : Op Value := do
  if namesDrawing uri then return (← get).service.drawing.toValue
  throw (.unknownResource uri.text)

/-- The prompts the server offers. -/
def prompts : Value :=
  .list [.dict [("name", .str "cad-assistant"),
    ("description", .str "AutoCAD assistant system prompt for natural language CAD control"),
    ("arguments", .list [.dict [("name", .str "task"),
      ("description", .str "The drawing task to accomplish"), ("required", .bool false)]])]]

/-- The instructions of the assistant prompt, before the task. -/
def assistantBrief : String :=
  "You are an AutoCAD assistant that helps users create CAD drawings through natural language commands.\n\n" ++
  "You can:\n- Draw basic shapes: lines, circles, arcs, ellipses, rectangles, polylines\n" ++
  "- Add text and dimensions\n- Create hatch patterns for fills\n- Save drawings to DWG files\n\n" ++
  "When the user describes what they want to draw, use the appropriate tools to create the entities in AutoCAD.\n\n" ++
  "Coordinate system:\n- Use (x, y) or (x, y, z) coordinates\n- Positive X is right, positive Y is up\n" ++
  "- Angles are in degrees, counter-clockwise from positive X axis\n\n" ++
  "Colors (0-255 index):\n- 1: Red, 2: Yellow, 3: Green, 4: Cyan, 5: Blue, 6: Magenta, 7: White\n\n"

/-- The assistant prompt for a task; a missing or empty task leaves it waiting. -/
def assistantPrompt (task : Value) : Value :=
  let text := assistantBrief ++
    (if task.truthy then "Current task: " ++ task.text else "Waiting for drawing instructions...")
  .dict [("description", .str "AutoCAD assistant for natural language control"),
    ("messages", .list [.dict [("role", .str "user"), ("type", .str "text"), ("text", .str text)]])]

/-- The prompt of a name, with its arguments; an unknown name is a fault. -/
def getPrompt (name : Value) (arguments : Value) : Except Fault Value := do
  match name with
  | .str "cad-assistant" =>
    let task ← if arguments.truthy then arguments.get "task" (.str "") else pure (.str "")
    return assistantPrompt task
  | other => throw (.unknownPrompt other.text)

end Drafting.Server
