import Drafting.Value.Json
import Drafting.Value.Ops
import Drafting.Text.Utf8

/-!
# Settings

The server's settings: its name and version, which CAD application to drive
and how long to wait for it to start, and where drawings go.  They come from
an object with the three sections `server`, `cad` and `output`.

`Settings.ofValue` takes each field from its section when the key is there,
as whatever value it holds, and from the default otherwise; a section that is
present but not an object is a fault.  `Settings.load` reads the settings
file and never fails: a missing file, a directory, bytes that are not UTF-8,
a byte order mark, text that is not JSON, JSON that is not an object, and a
section that is not an object all give the defaults.
-/

namespace Drafting

/-- The server's name and version. -/
structure ServerSettings where
  name : Value := .str "AutoCAD MCP Server"
  version : Value := .str "1.0.0"

/-- Which CAD application to drive, how many seconds to wait for it to start,
and the pause between commands. -/
structure CadSettings where
  application : Value := .str "AUTOCAD"
  startupWait : Value := .int 20
  commandDelay : Value := .float 0.5

/-- Where drawings are saved by default. -/
structure OutputSettings where
  directory : Value := .str "./output"
  defaultFilename : Value := .str "drawing.dwg"

/-- The CAD section as an object of its fields. -/
def CadSettings.toValue (c : CadSettings) : Value :=
  .dict [("type", c.application), ("startup_wait_time", c.startupWait),
    ("command_delay", c.commandDelay)]

/-- All settings of the server. -/
structure Settings where
  server : ServerSettings := {}
  cad : CadSettings := {}
  output : OutputSettings := {}

namespace Settings

/-- Settings from an object of sections, each field from its section or by default. -/
def ofValue (data : Value) : Except Fault Settings := do
  let server ← data.get "server" (.dict [])
  let cad ← data.get "cad" (.dict [])
  let output ← data.get "output" (.dict [])
  let d : Settings := {}
  return {
    server := { name := ← server.get "name" d.server.name,
                version := ← server.get "version" d.server.version }
    cad := { application := ← cad.get "type" d.cad.application,
             startupWait := ← cad.get "startup_wait_time" d.cad.startupWait,
             commandDelay := ← cad.get "command_delay" d.cad.commandDelay }
    output := { directory := ← output.get "directory" d.output.directory,
                defaultFilename := ← output.get "default_filename" d.output.defaultFilename } }

/-- The settings as an object of sections. -/
def toValue (s : Settings) : Value :=
  .dict [("server", .dict [("name", s.server.name), ("version", s.server.version)]),
    ("cad", s.cad.toValue),
    ("output", .dict [("directory", s.output.directory),
      ("default_filename", s.output.defaultFilename)])]

/-- The settings file shipped with the server; it holds the defaults. -/
def shipped : Settings := {}

end Settings

/-- What stands at the path of a settings file. -/
inductive SettingsFile where
  /-- Nothing. -/
  | missing
  /-- A directory. -/
  | directory
  /-- A regular file with these bytes. -/
  | bytes (data : List UInt8)
  /-- The file shipped with the server. -/
  | shipped

/-- How many arrays and objects may stand open at once in a settings file: its
reader recurses once per level on a call stack of a thousand frames, about ten
of which are taken by the calls that lead to it. -/
def Settings.nestingRoom : Nat := 990

/-- The settings a text holds, when it is a JSON object of sections without a byte
order mark in front. -/
def Settings.ofText (text : List Char) : Option Settings :=
  if text.head?.map Char.toNat == some 0xFEFF then none
  else match Json.parseWithin Settings.nestingRoom (String.ofList text) with
    | some v => match Settings.ofValue v with
      | .ok s => some s
      | .error _ => none
    | none => none

/-- The settings read from a file, or the defaults when it cannot be read. -/
def Settings.load : SettingsFile → Settings
  | .missing | .directory => {}
  | .shipped => Settings.shipped
  | .bytes data => ((Text.decodeUtf8 data).bind Settings.ofText).getD {}

end Drafting
