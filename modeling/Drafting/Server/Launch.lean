import Drafting.Value.Basic

/-!
# Starting the server

The server starts by creating itself under the name `autocad-mcp`, opening
its standard streams, registering its handlers and running until the client
goes away.  `launch` follows this through for a transport that behaves in one
of four ways and answers the events in order with the exit status: none when
the server ends normally or is interrupted, 1 when it fails.
-/

namespace Drafting.Server

/-- The server's name. -/
def serverName : String := "autocad-mcp"

/-- How the standard streams behave. -/
inductive Transport where
  /-- Everything works. -/
  | working
  /-- Opening the streams fails. -/
  | unavailable
  /-- The user interrupts while the streams open. -/
  | interrupted
  /-- Running the server fails. -/
  | crashing

/-- A step of starting and running the server. -/
inductive Event where
  /-- The server was created under this name. -/
  | created (name : String)
  /-- The streams are being opened. -/
  | opened
  /-- The options sent to the client name these handlers. -/
  | announced (handlers : List String)
  /-- The server ran. -/
  | ran (name : String)
  /-- The streams were closed, after a fault of this kind if one happened. -/
  | closed (fault : Option String)

/-- The event as a list. -/
def Event.toValue : Event → Value
  | .created n => .list [.str "Server", .str n]
  | .opened => .list [.str "stdio_enter"]
  | .announced hs => .list [.str "create_initialization_options", .list (hs.map .str)]
  | .ran n => .list [.str "run", .str "read_stream", .str "write_stream",
      .dict [("server_name", .str n)]]
  | .closed f => .list [.str "stdio_exit", (f.map Value.str).getD .null]

/-- The handlers the server registers, in alphabetical order. -/
def handlerNames : List String :=
  ["call_tool", "get_prompt", "list_prompts", "list_resources", "list_tools", "read_resource"]

/-- The events of a run and its exit status. -/
def launch : Transport → List Event × Option Nat
  | .working =>
    ([.created serverName, .opened, .announced handlerNames, .ran serverName, .closed none], none)
  | .unavailable => ([.created serverName, .opened], some 1)
  | .interrupted => ([.created serverName, .opened], none)
  | .crashing =>
    ([.created serverName, .opened, .announced handlerNames, .ran serverName,
      .closed (some "RuntimeError")], some 1)

end Drafting.Server
