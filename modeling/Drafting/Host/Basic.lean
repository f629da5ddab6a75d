import Drafting.Host.Request
import Drafting.Fault
import Drafting.Value.Ops

/-!
# The drawing application

`Host` is what the server can observe of the CAD application it drives:
whether a running instance can be reached or a new one started, how many
documents are open, the names in the layer table, how many entities the
model space holds, whether the connection has dropped, and which requests
the application currently refuses.

`Host.grant` is the application's side of a request: a refused request
fails before anything happens, and a granted one is written to the journal
and takes effect.  Entities are numbered from 1 in the order they are added,
and the model space only grows, so its last item is the last entity added.
-/

namespace Drafting

/-- The state of the drawing application as the server sees it. -/
structure Host where
  /-- A running instance accepts connections. -/
  reachable : Bool := true
  /-- A new instance can be started. -/
  launchable : Bool := true
  /-- The number of open documents the application reports; it is whatever the
  application says, not always a whole number. -/
  documents : Value := .int 1
  /-- Names in the layer table, in order. -/
  layers : List Value := [.str "0"]
  /-- Entities added to the model space so far. -/
  entities : Nat := 0
  /-- The connection dropped: the application no longer answers. -/
  unplugged : Bool := false
  /-- Names of the requests the application refuses. -/
  refusing : List String := []
  /-- Granted requests, in order. -/
  journal : Array Request := #[]

namespace Host

/-- Whether the application refuses the request. -/
def refuses (h : Host) (r : Request) : Bool :=
  match r.refusalName? with
  | some n => h.refusing.contains n
  | none => false

/-- The effect of a granted request on the application's state. -/
def record (h : Host) (r : Request) : Host :=
  let h := { h with journal := h.journal.push r }
  match r with
  | .addDocument => { h with documents := h.documents.succ }
  | .addLayer n => { h with layers := h.layers ++ [n] }
  | r => if r.addsEntity then { h with entities := h.entities + 1 } else h

/-- The application's answer to a request: the fault of a refusal, or its new state. -/
def grant (h : Host) (r : Request) : Except Fault Host :=
  match r.refusalName? with
  | some n => if h.refusing.contains n then .error (.hostFailed n) else .ok (h.record r)
  | none => .ok (h.record r)

end Host

end Drafting
