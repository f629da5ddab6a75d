import Drafting.Config
import Drafting.Drawing
import Drafting.Files
import Drafting.Host.Basic

/-!
# The station: server, connection and application together

`Station` holds everything an operation of the server can read or change:
the drawing application (`Host`), the working directory (`Disk`), and the
service with its settings, its record of the drawing and its connection to
the application (`Link`).

Operations run in `Op`: they change the station step by step and may stop
with a `Fault`; what they changed before stopping stays changed, as it does
in the application.
-/

namespace Drafting

/-- How the connection is configured: the application section of the server's
settings, or any other value put in its place when the connection is set up
anew by hand. -/
inductive LinkConfig where
  | section (s : CadSettings)
  | other (v : Value)

namespace LinkConfig

/-- The kind of value the configuration is. -/
def kind : LinkConfig → String
  | .section _ => "CADConfig"
  | .other v => v.kind

/-- Which application to drive; a value that is no settings section has no such field. -/
def application : LinkConfig → Except Fault Value
  | .section s => .ok s.application
  | .other v => .error (.noAttribute v.kind "type")

/-- The configuration as a value: a settings section as an object of its fields. -/
def toValue : LinkConfig → Value
  | .section s => s.toValue
  | .other v => v

/-- How long the application takes to start; a value that is no settings section has
no such field. -/
def startupWait : LinkConfig → Except Fault Value
  | .section s => .ok s.startupWait
  | .other v => .error (.noAttribute v.kind "startup_wait_time")

end LinkConfig

/-- The server's connection to the drawing application. -/
structure Link where
  /-- Which application to drive and how long it takes to start. -/
  config : LinkConfig
  /-- Connected to the application. -/
  app : Bool := false
  /-- Holding its active document. -/
  doc : Bool := false
  /-- Holding the document's model space. -/
  modelSpace : Bool := false
  /-- The automation library is in use on this thread. -/
  comReady : Bool := false

/-- The drawing service: settings, connection and record. -/
structure Service where
  settings : Settings
  link : Link
  drawing : Drawing := {}
  /-- Connected once and, as far as the service knows, still connected. -/
  ready : Bool := false

/-- The connection's attributes by name, in the order it first sets them.  The
application's objects it holds show as nothing. -/
def Link.attributes (l : Link) : Value :=
  .dict [("config", l.config.toValue), ("app", .null), ("doc", .null), ("model_space", .null),
    ("_com_initialized", .bool l.comReady)]

/-- The service's attributes by name, in the order it first sets them: the
settings and the record by their fields; the connection and the reader of
commands, which are no records, show as nothing. -/
def Service.attributes (s : Service) : Value :=
  .dict [("config", s.settings.toValue), ("controller", .null), ("nlp", .null),
    ("state", .dict [("entities", .list (s.drawing.entities.map Entity.toValue)),
      ("current_layer", .str s.drawing.currentLayer), ("last_command", .str s.drawing.lastCommand),
      ("last_result", .str s.drawing.lastResult)]),
    ("_initialized", .bool s.ready)]

/-- A service with the given settings and a fresh connection. -/
def Service.ofSettings (s : Settings) : Service :=
  ⟨s, ⟨.section s.cad, false, false, false, false⟩, {}, false⟩

/-- Everything an operation can read or change. -/
structure Station where
  host : Host
  disk : Disk
  service : Service

/-- An operation on the station that may stop with a fault. -/
abbrev Op := ExceptT Fault (StateM Station)

namespace Op

/-- The connection as it stands. -/
def link : Op Link := return (← get).service.link

/-- Changes the connection. -/
def modifyLink (f : Link → Link) : Op Unit :=
  modify fun s => { s with service := { s.service with link := f s.service.link } }

/-- Changes the service. -/
def modifyService (f : Service → Service) : Op Unit :=
  modify fun s => { s with service := f s.service }

/-- Asks the application for something; a refusal stops the operation. -/
def request (r : Request) : Op Unit := do
  let s ← get
  match s.host.grant r with
  | .ok h => set { s with host := h }
  | .error f => throw f

/-- Adds an entity and answers its number. -/
def addEntity (r : Request) : Op Nat := do
  request r
  return (← get).host.entities

/-- Lifts a computation that may fail. -/
def lift {α : Type} (x : Except Fault α) : Op α :=
  match x with
  | .ok a => pure a
  | .error f => throw f

end Op

end Drafting
