import Drafting.Station
import Drafting.Text.Case

/-!
# Connecting to the drawing application

The connection's life: taking the automation library into use, connecting to
a running application or starting one, opening a document, checking that the
application still answers, and closing.  Connecting never stops with a fault
once the application kind is known: each failure is caught and answered with
`false`.

Also here: refreshing the view, making sure a layer exists, and writing the
common properties (layer, colour, line weight) of a new entity; these three
swallow the application's refusals.
-/

namespace Drafting.Link

open Op

/-- The program identifier of each supported application, by its uppercased name. -/
def progId? : String → Option String
  | "AUTOCAD" => some "AutoCAD.Application"
  | "GCAD" => some "GCAD.Application"
  | "ZWCAD" => some "ZWCAD.Application"
  | _ => none

/-- Runs `m`, answering `fallback` when it stops with a fault; what `m` changed
before the fault stays changed. -/
def attempt {α : Type} (m : Op α) (fallback : α) : Op α :=
  tryCatch m fun _ => pure fallback

/-- Takes the automation library into use, unless it is; a refusal leaves it unused. -/
def initLibrary : Op Unit := do
  if (← link).comReady then return
  attempt (do request .comInit; modifyLink fun l => { l with comReady := true }) ()

/-- Stops using the automation library, if it is in use; a refusal leaves it in use. -/
def releaseLibrary : Op Unit := do
  if !(← link).comReady then return
  attempt (do request .comRelease; modifyLink fun l => { l with comReady := false }) ()

/-- Connects to a running instance of the application. -/
def attach (pid : String) : Op Unit := do
  request (.attach pid)
  if !(← get).host.reachable then throw (Fault.hostFailed "GetActiveObject")
  modifyLink fun l => { l with app := true }

/-- Starts a new instance of the application, shows it and waits for it to start. -/
def launch (pid : String) : Op Unit := do
  request (.launch pid)
  if !(← get).host.launchable then throw (Fault.hostFailed "Dispatch")
  modifyLink fun l => { l with app := true }
  request (.set .app .visible (.bool true))
  request (.pause (← lift (← link).config.startupWait))

/-- Takes the active document, opening one when none is open. -/
def openDocument : Op Unit := do
  if (← get).host.documents.isZero then request .addDocument
  modifyLink fun l => { l with doc := true, modelSpace := true }

/-- Connects to a running application of the configured kind, or starts one;
then takes its active document.  Answers whether it all worked.  The
application kind must be a text; an unknown kind answers `false` at once. -/
def connect : Op Bool := do
  initLibrary
  let application ← lift (← link).config.application
  let kind ← lift (application.textFor "upper")
  match progId? (Text.upper kind) with
  | none => return false
  | some pid =>
    let attached ← attempt (do attach pid; return true) false
    let started ← if attached then pure true else attempt (do launch pid; return true) false
    if !started then return false
    attempt (do openDocument; return true) false

/-- Whether the application is connected and still answers. -/
def alive : Op Bool := do
  return (← link).app && !(← get).host.unplugged

/-- Lets go of the application and its document and stops using the library. -/
def close : Op Unit := do
  modifyLink fun l => { l with app := false, doc := false, modelSpace := false }
  releaseLibrary

/-- Sets the connection up anew with another configuration: nothing held, the
library not in use.  The application is not told. -/
def reset (config : Value) : Op Unit :=
  modifyLink fun _ => ⟨.other config, false, false, false, false⟩

/-- Updates the application window and regenerates the view, when a document is
held; a refusal stops the refresh quietly. -/
def refresh : Op Unit := do
  if (← link).doc then
    attempt (do request .update; request .regen) ()

/-- Whether the layer table holds `name`, lowercase compared with lowercase; a
name that is not a text, in the table or asked for, is a fault. -/
def hasLayer (name : Value) : List Value → Except Fault Bool
  | [] => .ok false
  | l :: rest => do
    let have_ ← l.textFor "lower"
    let want ← name.textFor "lower"
    if Text.lower have_ == Text.lower want then return true else hasLayer name rest

/-- Makes sure a layer of this name exists, adding it with the colour when it does
not.  Answers whether the layer exists afterwards; nothing is done without a
document, and faults answer `false`. -/
def ensureLayer (name : Value) (colour : Value) : Op Bool := do
  if !(← link).doc then return false
  attempt (do
      if ← lift (hasLayer name (← get).host.layers) then return true
      request (.addLayer name)
      request (.set (.layer name.text) .color colour)
      return true) false

/-- Writes the layer (when truthy), colour and line weight (when given) of a new
entity, in that order, putting the layer into the table first; the first
refusal or fault ends the writing quietly. -/
def applyProperties (entity : Nat) (layer colour lineweight : Value) : Op Unit :=
  attempt (do
      if layer.truthy then
        let _ ← ensureLayer layer (.int 7)
        request (.set (.entity entity) .layer layer)
      match colour with
      | .null => pure ()
      | c => request (.set (.entity entity) .color c)
      match lineweight with
      | .null => pure ()
      | w => request (.set (.entity entity) .lineweight (← lift (validLineweight w)))) ()

/-- Writes the common properties onto a value that is no entity: a named layer is
put into the table first, and writing the first property then fails, quietly,
since a plain value takes no properties. -/
def applyToValue (layer : Value) : Op Unit := do
  if layer.truthy then
    let _ ← ensureLayer layer (.int 7)

/-- The array of reals built from the items of a value, as the interface passes
coordinates; a text is refused outright, and each item must be a real number. -/
def realArray (items : Value) : Except Fault Value := do
  if let .str _ := items then throw .textArray
  let xs ← items.elements
  return Request.reals (← xs.mapM Value.toReal)

end Drafting.Link
