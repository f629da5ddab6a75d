import Drafting.Session
import Drafting.Server.Launch

/-!
# Messages on the standard streams

The server talks to its client in JSON-RPC 2.0 messages, one per line.
`Rpc.respond` answers one message against the session's desk: it lists and
calls tools, lists and reads resources, lists and fills in prompts.  A
message without an `id` is a notification and gets no answer; an unknown
method or a fault is answered with an error object.
-/

namespace Drafting.Rpc

/-- The field `key` of an object, or `null`. -/
def member (v : Value) (key : String) : Value :=
  match v with
  | .dict kvs => (Value.lookup key kvs).getD .null
  | _ => .null

/-- A successful answer to the message with this id. -/
def success (id result : Value) : Value :=
  .dict [("jsonrpc", .str "2.0"), ("id", id), ("result", result)]

/-- An error answer to the message with this id. -/
def failure (id : Value) (code : Int) (message : String) : Value :=
  .dict [("jsonrpc", .str "2.0"), ("id", id),
    ("error", .dict [("code", .int code), ("message", .str message)])]

/-- The answer to a method with its parameters, and the desk after it. -/
def answer (d : Desk) (method : String) (params : Value) : Except (Int × String) Value × Desk :=
  match method with
  | "initialize" =>
    (.ok (.dict [("protocolVersion", .str "2024-11-05"),
      ("capabilities", .dict [("tools", .dict []), ("resources", .dict []), ("prompts", .dict [])]),
      ("serverInfo", .dict [("name", .str Server.serverName), ("version", .str "1.0.0")])]), d)
  | "ping" => (.ok (.dict []), d)
  | "tools/list" => (.ok (.dict [("tools", .list (tools.map Tool.toValue))]), d)
  | "tools/call" =>
    let (r, d') := Session.withService d
      (Server.callTool (member params "name") (member params "arguments"))
    match r with
    | .ok reply =>
      (.ok (.dict [("content", .list [.dict [("type", .str "text"),
        ("text", .str reply.toValue.toJson)]]), ("isError", .bool false)]), d')
    | .error f => (.error (-32603, f.message), d')
  | "resources/list" => (.ok (.dict [("resources", Server.resources)]), d)
  | "resources/read" =>
    let uri := member params "uri"
    if Server.namesDrawing uri then
      let (r, d') := Session.withService d (Server.readResource uri)
      match r with
      | .ok v => (.ok (.dict [("contents", .list [.dict [("uri", uri),
          ("mimeType", .str "application/json"), ("text", .str v.toJson)]])]), d')
      | .error f => (.error (-32603, f.message), d')
    else (.error (-32603, (Fault.unknownResource uri.text).message), d)
  | "prompts/list" => (.ok (.dict [("prompts", Server.prompts)]), d)
  | "prompts/get" =>
    match Server.getPrompt (member params "name") (member params "arguments") with
    | .ok v =>
      let messages := match member v "messages" with
        | .list ms => ms.map fun m => .dict [("role", member m "role"),
            ("content", .dict [("type", member m "type"), ("text", member m "text")])]
        | _ => []
      (.ok (.dict [("description", member v "description"), ("messages", .list messages)]), d)
    | .error f => (.error (-32603, f.message), d)
  | _ => (.error (-32601, "Method not found"), d)

/-- Answers one message; a notification gets no answer. -/
def respond (d : Desk) (msg : Value) : Option Value × Desk :=
  let id := member msg "id"
  let method := match member msg "method" with
    | .str m => m
    | _ => ""
  let (r, d') := answer d method (member msg "params")
  match id with
  | .null => (none, d')
  | _ => match r with
    | .ok v => (some (success id v), d')
    | .error (code, message) => (some (failure id code message), d')

end Drafting.Rpc
