import Drafting.Server.Rpc

/-!
# The command line

`main` serves one client on the standard streams: it reads one JSON-RPC
message per line and writes each answer on a line of its own.  The drawing
application is the one `Host` describes, and drawings are saved under the
working directory.
-/

open Drafting

/-- Serves messages until the input ends. -/
partial def serve (stdin stdout : IO.FS.Stream) (d : Desk) : IO Unit := do
  let line ← stdin.getLine
  if line.isEmpty then return
  match Json.parse line with
  | none =>
    stdout.putStrLn (Rpc.failure .null (-32700) "Parse error").toJson
    stdout.flush
    serve stdin stdout d
  | some msg =>
    let (reply, d') := Rpc.respond d msg
    if let some r := reply then
      stdout.putStrLn r.toJson
      stdout.flush
    serve stdin stdout d'

/-- Starts the server on the standard streams. -/
def main : IO Unit := do
  let cwd := (← IO.getEnv "PWD").getD "."
  let desk := Session.start {} (Disk.ofWorkspace cwd []) none true
  serve (← IO.getStdin) (← IO.getStdout) desk
