import Mathlib
import Drafting.Proofs.Connection
import Drafting.Proofs.Tally

/-!
# The automation library is taken into use and out of it in turn

The connection takes the automation library into use (`Request.comInit`) when it connects
and ends that use (`Request.comRelease`) when it closes, and keeps a flag,
`Link.comReady`, saying whether the library is in use.  It asks for either only when the
flag says so, and sets the flag only when the application granted the request: a refused
request leaves no trace in the journal and is asked again later.

`Library.replay` checks a list of uses of the library (`true` taking it into use, `false`
ending its use) against a starting state: each use must change the state, and the answer
is the state after the last.  `Library.replay_eq_some_iff` says this in words of lists.
`Library.Reaches` relates two views of the station, the uses the journal holds and the
flag, when the uses between them replay from the first flag to the second.

Every operation of the connection keeps `Reaches` from any view it starts from: taking the
library into use and ending its use add one use that flips the flag, and the others leave
both the uses and the flag alone.  A direct call of any operation but the one that sets
the connection up anew, `__init__`, does the same; from it, one step and then a whole run
of steps that drive one connection grant uses that alternate from the flag the desk had,
and leave the flag at the last of them.

The specifications of this module are passed to `mvcgen` as local facts.
-/

namespace Drafting

open Std.Do

set_option mvcgen.warning false

/-- What a request does to the automation library: taking it into use (`true`), ending
its use (`false`), or nothing. -/
def Request.libraryUse : Request → Option Bool
  | .comInit => some true
  | .comRelease => some false
  | _ => none

/-- The uses of the library among requests, in order. -/
def Request.libraryUses (rs : List Request) : List Bool := rs.filterMap Request.libraryUse

@[simp] theorem Request.libraryUses_append (rs qs : List Request) :
    Request.libraryUses (rs ++ qs) = Request.libraryUses rs ++ Request.libraryUses qs :=
  List.filterMap_append

namespace Library

/-- Replays uses of the library from a state: each must change it; the state after the
last, or nothing when one does not. -/
def replay (inUse : Bool) : List Bool → Option Bool
  | [] => some inUse
  | u :: uses => if u = !inUse then replay u uses else none

@[simp] theorem replay_nil (b : Bool) : replay b [] = some b := rfl

theorem replay_append (b : Bool) (u v : List Bool) :
    replay b (u ++ v) = (replay b u).bind fun b' => replay b' v := by
  induction u generalizing b with
  | nil => simp [replay]
  | cons a u ih =>
    simp only [List.cons_append, replay]
    split <;> simp [ih]

theorem replay_flip (b : Bool) : replay b [!b] = some (!b) := by simp [replay]

/-- Uses replay from `b` to `b'` exactly when each differs from the one before it, the
first from `b`, and the last of them, or `b` when there is none, is `b'`. -/
theorem replay_eq_some_iff (b b' : Bool) (uses : List Bool) :
    replay b uses = some b' ↔ List.IsChain (· ≠ ·) (b :: uses) ∧ uses.getLastD b = b' := by
  induction uses generalizing b with
  | nil => simp
  | cons u uses ih =>
    -- for flags, changing the state is being its negation
    have hflip : (u = !b) ↔ b ≠ u := by cases b <;> cases u <;> simp
    simp only [replay, List.isChain_cons_cons, List.getLastD_cons]
    by_cases hu : u = !b
    · simp [hu, ih]
    · simp [hu, hflip.not.mp hu]

/-- From one view of the library to another: the uses of the second extend those of the
first by uses that replay from the first flag to the second. -/
def Reaches (x y : List Bool × Bool) : Prop :=
  ∃ uses, y.1 = x.1 ++ uses ∧ replay x.2 uses = some y.2

theorem Reaches.refl (x : List Bool × Bool) : Reaches x x := ⟨[], by simp, rfl⟩

theorem Reaches.trans {x y z : List Bool × Bool} (hxy : Reaches x y) (hyz : Reaches y z) :
    Reaches x z := by
  obtain ⟨u, hu, hru⟩ := hxy
  obtain ⟨v, hv, hrv⟩ := hyz
  refine ⟨u ++ v, by rw [hv, hu, List.append_assoc], ?_⟩
  rw [replay_append, hru]
  exact hrv

/-- One use more that flips the flag. -/
theorem Reaches.flip {x : List Bool × Bool} {L : List Bool} {b : Bool} (h : Reaches x (L, b)) :
    Reaches x (L ++ [!b], !b) :=
  h.trans ⟨[!b], rfl, replay_flip b⟩

end Library

open Library

/-- What the station shows of the library: the uses the application granted, in order,
and whether the connection counts the library in use. -/
def Station.library (σ : Station) : List Bool × Bool :=
  (Request.libraryUses σ.host.journal.toList, σ.service.link.comReady)

/-- A granted request is written at the end of the journal. -/
theorem Host.grant_journal {h h' : Host} {r : Request} (hgrant : h.grant r = .ok h') :
    h'.journal = h.journal.push r := by
  rw [Host.grant_eq_record hgrant]
  cases r <;> simp [Host.record] <;> split <;> simp

theorem Station.library_granted (σ : Station) {h : Host} {r : Request}
    (hgrant : σ.host.grant r = .ok h) :
    ({ σ with host := h } : Station).library =
      (σ.library.1 ++ r.libraryUse.toList, σ.library.2) := by
  simp only [Station.library, Host.grant_journal hgrant, Array.toList_push,
    Request.libraryUses_append]
  cases huse : r.libraryUse <;> simp [Request.libraryUses, huse]

namespace Op

variable (y : List Bool × Bool)

/-- A request adds its use of the library, if any, when granted; a refused one changes
nothing. -/
theorem request_library (r : Request) :
    ⦃fun σ => ⌜σ.library = y⌝⦄ request r
    ⦃post⟨fun _ σ => ⌜σ.library = (y.1 ++ r.libraryUse.toList, y.2)⌝,
      fun _ σ => ⌜σ.library = y⌝⟩⦄ := by
  unfold request
  mvcgen
  rename_i hbefore host hgrant
  rw [Station.library_granted _ hgrant, hbefore]

theorem addEntity_library (r : Request) :
    ⦃fun σ => ⌜σ.library = y⌝⦄ addEntity r
    ⦃post⟨fun _ σ => ⌜σ.library = (y.1 ++ r.libraryUse.toList, y.2)⌝,
      fun _ σ => ⌜σ.library = y⌝⟩⦄ := by
  have hrequest := @request_library
  unfold addEntity
  mvcgen [hrequest]
  all_goals simp_all

end Op

namespace Link

variable (x : List Bool × Bool)

/-- Taking the library into use asks for it only when it is not in use, and marks it in
use only when the application granted it. -/
theorem initLibrary_library :
    ⦃fun σ => ⌜Reaches x σ.library⌝⦄ initLibrary
    ⦃post⟨fun _ σ => ⌜Reaches x σ.library⌝, fun _ _ => ⌜False⌝⟩⦄ := by
  have hrequest := @Op.request_library
  unfold initLibrary attempt
  mvcgen [Op.link_answers, hrequest, Op.modifyLink_link]
  all_goals clear hrequest
  all_goals simp_all [Station.library, Request.libraryUse]
  -- left: the request granted, one use more that takes the library into use
  rename_i hreach _ _ _
  exact fun _ => hreach.flip

/-- Ending the use of the library asks for it only when it is in use, and marks it out of
use only when the application granted it. -/
theorem releaseLibrary_library :
    ⦃fun σ => ⌜Reaches x σ.library⌝⦄ releaseLibrary
    ⦃post⟨fun _ σ => ⌜Reaches x σ.library⌝, fun _ _ => ⌜False⌝⟩⦄ := by
  have hrequest := @Op.request_library
  unfold releaseLibrary attempt
  mvcgen [Op.link_answers, hrequest, Op.modifyLink_link]
  all_goals simp_all [Station.library, Request.libraryUse]
  -- left: the request granted, one use more that ends the use of the library
  rename_i hreach _ _ _
  exact fun _ => hreach.flip

variable (y : List Bool × Bool)

theorem attach_library (pid : String) :
    ⦃fun σ => ⌜σ.library = y⌝⦄ attach pid
    ⦃post⟨fun _ σ => ⌜σ.library = y⌝, fun _ σ => ⌜σ.library = y⌝⟩⦄ := by
  have hrequest := @Op.request_library
  unfold attach
  mvcgen [hrequest, Op.modifyLink_link]
  all_goals simp_all [Station.library, Request.libraryUse]

theorem launch_library (pid : String) :
    ⦃fun σ => ⌜σ.library = y⌝⦄ launch pid
    ⦃post⟨fun _ σ => ⌜σ.library = y⌝, fun _ σ => ⌜σ.library = y⌝⟩⦄ := by
  have hrequest := @Op.request_library
  unfold launch
  mvcgen [hrequest, Op.modifyLink_link, Op.link_answers]
  all_goals clear hrequest
  all_goals simp_all [Station.library, Request.libraryUse]

theorem openDocument_library :
    ⦃fun σ => ⌜σ.library = y⌝⦄ openDocument
    ⦃post⟨fun _ σ => ⌜σ.library = y⌝, fun _ σ => ⌜σ.library = y⌝⟩⦄ := by
  have hrequest := @Op.request_library
  unfold openDocument
  mvcgen [hrequest, Op.modifyLink_link]
  all_goals simp_all [Station.library, Request.libraryUse]

/-- Connecting takes the library into use first; the rest of it leaves the library alone. -/
theorem connect_library :
    ⦃fun σ => ⌜Reaches x σ.library⌝⦄ connect
    ⦃post⟨fun _ σ => ⌜Reaches x σ.library⌝, fun _ σ => ⌜Reaches x σ.library⌝⟩⦄ := by
  have hinit := @initLibrary_library
  have hattach := @attach_library
  have hlaunch := @launch_library
  have hopen := @openDocument_library
  unfold connect attempt
  mvcgen -trivial [hinit, Op.link_answers, hattach, hlaunch, hopen]
  -- the specifications start from the view at hand, which the view to reach extends
  all_goals grind [Reaches.trans, Reaches.refl]

theorem alive_library :
    ⦃fun σ => ⌜σ.library = y⌝⦄ alive
    ⦃post⟨fun _ σ => ⌜σ.library = y⌝, fun _ σ => ⌜σ.library = y⌝⟩⦄ := by
  unfold alive
  mvcgen [Op.link_answers]
  all_goals simp_all

/-- Closing lets go of the application, which leaves the library alone, and then ends the
use of the library. -/
theorem close_library :
    ⦃fun σ => ⌜Reaches x σ.library⌝⦄ close
    ⦃post⟨fun _ σ => ⌜Reaches x σ.library⌝, fun _ _ => ⌜False⌝⟩⦄ := by
  have hrelease := @releaseLibrary_library
  unfold close
  mvcgen [Op.modifyLink_link, hrelease]
  all_goals simp_all [Station.library]

theorem refresh_library :
    ⦃fun σ => ⌜σ.library = y⌝⦄ refresh
    ⦃post⟨fun _ σ => ⌜σ.library = y⌝, fun _ σ => ⌜σ.library = y⌝⟩⦄ := by
  have hrequest := @Op.request_library
  unfold refresh attempt
  mvcgen [Op.link_answers, hrequest]
  all_goals simp_all [Request.libraryUse]

theorem ensureLayer_library (name colour : Value) :
    ⦃fun σ => ⌜σ.library = y⌝⦄ ensureLayer name colour
    ⦃post⟨fun _ σ => ⌜σ.library = y⌝, fun _ σ => ⌜σ.library = y⌝⟩⦄ := by
  have hrequest := @Op.request_library
  unfold ensureLayer attempt
  mvcgen [Op.link_answers, hrequest]
  all_goals clear hrequest
  all_goals simp_all [Request.libraryUse]

theorem applyProperties_library (entity : Nat) (layer colour lineweight : Value) :
    ⦃fun σ => ⌜σ.library = y⌝⦄ applyProperties entity layer colour lineweight
    ⦃post⟨fun _ σ => ⌜σ.library = y⌝, fun _ σ => ⌜σ.library = y⌝⟩⦄ := by
  have hlayer := @ensureLayer_library
  have hrequest := @Op.request_library
  unfold applyProperties attempt
  mvcgen [hlayer, hrequest]
  all_goals clear hlayer hrequest
  all_goals simp_all [Request.libraryUse]

theorem applyToValue_library (layer : Value) :
    ⦃fun σ => ⌜σ.library = y⌝⦄ applyToValue layer
    ⦃post⟨fun _ σ => ⌜σ.library = y⌝, fun _ σ => ⌜σ.library = y⌝⟩⦄ := by
  have hlayer := @ensureLayer_library
  unfold applyToValue
  mvcgen [hlayer]
  all_goals simp_all

section Drawing

/-! The drawing operations add their entities, set their properties and refresh the
view; none of it asks for the library. -/

theorem drawLine_library (start finish layer colour lineweight : Value) :
    ⦃fun σ => ⌜σ.library = y⌝⦄ drawLine start finish layer colour lineweight
    ⦃post⟨fun _ σ => ⌜σ.library = y⌝, fun _ σ => ⌜σ.library = y⌝⟩⦄ := by
  have hadd := @Op.addEntity_library
  have hprops := @applyProperties_library
  have hrefresh := @refresh_library
  unfold drawLine drawing
  mvcgen [hadd, hprops, hrefresh]
  all_goals clear hadd hprops hrefresh
  all_goals simp_all [Request.libraryUse]

theorem drawCircle_library (center radius layer colour lineweight : Value) :
    ⦃fun σ => ⌜σ.library = y⌝⦄ drawCircle center radius layer colour lineweight
    ⦃post⟨fun _ σ => ⌜σ.library = y⌝, fun _ σ => ⌜σ.library = y⌝⟩⦄ := by
  have hadd := @Op.addEntity_library
  have hrequest := @Op.request_library
  have hprops := @applyProperties_library
  have hrefresh := @refresh_library
  unfold drawCircle drawing
  mvcgen [hadd, hrequest, hprops, hrefresh]
  all_goals clear hadd hrequest hprops hrefresh
  all_goals simp_all [Request.libraryUse]

theorem drawArc_library (center radius startAngle endAngle layer colour lineweight : Value) :
    ⦃fun σ => ⌜σ.library = y⌝⦄ drawArc center radius startAngle endAngle layer colour lineweight
    ⦃post⟨fun _ σ => ⌜σ.library = y⌝, fun _ σ => ⌜σ.library = y⌝⟩⦄ := by
  have hadd := @Op.addEntity_library
  have hrequest := @Op.request_library
  have hprops := @applyProperties_library
  have hrefresh := @refresh_library
  unfold drawArc drawing
  mvcgen [hadd, hrequest, hprops, hrefresh]
  all_goals clear hadd hrequest hprops hrefresh
  all_goals simp_all [Request.libraryUse]

theorem drawEllipse_library (center major minor rotation layer colour lineweight : Value) :
    ⦃fun σ => ⌜σ.library = y⌝⦄ drawEllipse center major minor rotation layer colour lineweight
    ⦃post⟨fun _ σ => ⌜σ.library = y⌝, fun _ σ => ⌜σ.library = y⌝⟩⦄ := by
  have hadd := @Op.addEntity_library
  have hrequest := @Op.request_library
  have hprops := @applyProperties_library
  have hrefresh := @refresh_library
  unfold drawEllipse drawing
  mvcgen [hadd, hrequest, hprops, hrefresh]
  all_goals clear hadd hrequest hprops hrefresh
  all_goals simp_all [Request.libraryUse]

theorem drawText_library (position content height rotation layer colour : Value) :
    ⦃fun σ => ⌜σ.library = y⌝⦄ drawText position content height rotation layer colour
    ⦃post⟨fun _ σ => ⌜σ.library = y⌝, fun _ σ => ⌜σ.library = y⌝⟩⦄ := by
  have hadd := @Op.addEntity_library
  have hrequest := @Op.request_library
  have hprops := @applyProperties_library
  have hrefresh := @refresh_library
  unfold drawText drawing
  mvcgen [hadd, hrequest, hprops, hrefresh]
  all_goals clear hadd hrequest hprops hrefresh
  all_goals simp_all [Request.libraryUse]

theorem addDimension_library (start finish label layer colour : Value) :
    ⦃fun σ => ⌜σ.library = y⌝⦄ addDimension start finish label layer colour
    ⦃post⟨fun _ σ => ⌜σ.library = y⌝, fun _ σ => ⌜σ.library = y⌝⟩⦄ := by
  have hadd := @Op.addEntity_library
  have hrequest := @Op.request_library
  have hprops := @applyProperties_library
  have hrefresh := @refresh_library
  unfold addDimension drawing
  mvcgen [hadd, hrequest, hprops, hrefresh]
  all_goals clear hadd hrequest hprops hrefresh
  all_goals simp_all [Request.libraryUse]

theorem drawPolyline_library (points closed layer colour lineweight : Value) :
    ⦃fun σ => ⌜σ.library = y⌝⦄ drawPolyline points closed layer colour lineweight
    ⦃post⟨fun _ σ => ⌜σ.library = y⌝, fun _ σ => ⌜σ.library = y⌝⟩⦄ := by
  have hadd := @Op.addEntity_library
  have hrequest := @Op.request_library
  have hprops := @applyProperties_library
  have hrefresh := @refresh_library
  unfold drawPolyline
  mvcgen [hadd, hrequest, hprops, hrefresh]
  all_goals clear hadd hrequest hprops hrefresh
  all_goals simp_all [Request.libraryUse]

theorem drawRectangle_library (corner1 corner2 layer colour lineweight : Value) :
    ⦃fun σ => ⌜σ.library = y⌝⦄ drawRectangle corner1 corner2 layer colour lineweight
    ⦃post⟨fun _ σ => ⌜σ.library = y⌝, fun _ σ => ⌜σ.library = y⌝⟩⦄ := by
  have hpolyline := @drawPolyline_library
  unfold drawRectangle
  mvcgen [hpolyline]
  all_goals simp_all

theorem drawHatch_library (boundary pattern scale layer colour : Value) :
    ⦃fun σ => ⌜σ.library = y⌝⦄ drawHatch boundary pattern scale layer colour
    ⦃post⟨fun _ σ => ⌜σ.library = y⌝, fun _ σ => ⌜σ.library = y⌝⟩⦄ := by
  have hpolyline := @drawPolyline_library
  have hadd := @Op.addEntity_library
  have hrequest := @Op.request_library
  have hprops := @applyProperties_library
  have hrefresh := @refresh_library
  unfold drawHatch
  mvcgen [hpolyline, hadd, hrequest, hprops, hrefresh]
  all_goals clear hpolyline hadd hrequest hprops hrefresh
  -- the boundary is a polyline, and the hatch's own requests (taking the boundary, adding
  -- the hatch, its scale, its loop and its evaluation) are no use of the library
  all_goals simp_all [Request.libraryUse]

end Drawing

theorem save_library (room : Nat) (path : Value) :
    ⦃fun σ => ⌜σ.library = y⌝⦄ save room path
    ⦃post⟨fun _ σ => ⌜σ.library = y⌝, fun _ σ => ⌜σ.library = y⌝⟩⦄ := by
  have hrequest := @Op.request_library
  unfold save
  mvcgen [hrequest]
  all_goals clear hrequest
  all_goals simp_all +zetaDelta [Station.library, Request.libraryUse]

end Link

-- the linters of flexible tactics and of unused variables break down on the forty
-- cases of the call
set_option linter.flexible false in
set_option linter.unusedVariables false in
/-- A direct call of any operation of the connection but setting it up anew keeps the
uses of the library alternating. -/
theorem Session.callLink_library (x : List Bool × Bool) (op : String)
    (args : List (String × Value)) (hop : op ≠ "__init__") :
    ⦃fun σ => ⌜Reaches x σ.library⌝⦄ Session.callLink op args
    ⦃post⟨fun _ σ => ⌜Reaches x σ.library⌝, fun _ σ => ⌜Reaches x σ.library⌝⟩⦄ := by
  -- the operations that use the library keep the view reached from x
  have hconnect := Link.connect_library x
  have hclose := Link.close_library x
  have hinit := Link.initLibrary_library x
  have hrelease := Link.releaseLibrary_library x
  -- the others leave the view as it is
  have halive := @Link.alive_library
  have hrefresh := @Link.refresh_library
  have hlayer := @Link.ensureLayer_library
  have hline := @Link.drawLine_library
  have hcircle := @Link.drawCircle_library
  have harc := @Link.drawArc_library
  have hellipse := @Link.drawEllipse_library
  have hpolyline := @Link.drawPolyline_library
  have hrectangle := @Link.drawRectangle_library
  have htext := @Link.drawText_library
  have hhatch := @Link.drawHatch_library
  have hdimension := @Link.addDimension_library
  have hsave := @Link.save_library
  have hvalue := @Link.applyToValue_library
  unfold Session.callLink Session.bound
  mvcgen -trivial [hconnect, halive, hclose, hrefresh, hinit, hrelease, hlayer, hline, hcircle, harc,
    hellipse, hpolyline, hrectangle, htext, hhatch, hdimension, hsave, hvalue]
  -- the specifications are spent; simp_all would only try to rewrite with them
  all_goals clear hconnect halive hclose hrefresh hinit hrelease hlayer hline hcircle harc
  all_goals clear hellipse hpolyline hrectangle htext hhatch hdimension hsave hvalue
  all_goals try simp_all
  -- left: the operations every object has, which change nothing
  rename_i hσ hm
  refine (Session.objectMethod_spec hm (fun σ => Reaches x σ.library)).entails_wp_of_post ?_ _ hσ
  simp
  exact fun _ _ hkept _ => hkept

/-- Whether the connection counts the library in use at a desk. -/
def Desk.libraryInUse (d : Desk) : Bool := d.station.service.link.comReady

/-- Whether a step drives the connection through its own operations: a direct call of one
of them other than setting the connection up anew, or a change to the application. -/
def Step.drivesConnection : Step → Bool
  | .link op _ => op != "__init__"
  | .refuse _ | .unplug _ => true
  | _ => false

namespace Session

/-- One step that drives the connection grants uses of the library that replay from the
flag the desk had to the flag it leaves. -/
theorem report_library (d : Desk) (s : Step) (hs : s.drivesConnection = true) :
    replay d.libraryInUse (Request.libraryUses (report d s).1.granted) =
      some (report d s).2.libraryInUse := by
  cases s with
  | link op args =>
    have hop : op ≠ "__init__" := by simpa [Step.drivesConnection] using hs
    -- the journal is cleared first, so the view reached is the step's own uses
    obtain ⟨uses, huses, hreplay⟩ :=
      withService_keeps (callLink_library ([], d.libraryInUse) op args hop)
        { d with host := { d.host with journal := #[] } } (Reaches.refl _)
    simp only [report, step]
    simp only [Station.library, List.nil_append] at huses hreplay
    rw [← huses] at hreplay
    exact hreplay
  | refuse names => simp [report, step, Desk.libraryInUse, Request.libraryUses, Desk.station]
  | unplug dropped => simp [report, step, Desk.libraryInUse, Request.libraryUses, Desk.station]
  | tool name args => simp [Step.drivesConnection] at hs
  | resource uri => simp [Step.drivesConnection] at hs
  | service op args => simp [Step.drivesConnection] at hs

/-- A run of steps that drive the connection grants uses of the library that replay from
the flag the desk had to the flag it leaves; by induction on the steps. -/
theorem runFrom_library (d : Desk) (steps : List Step)
    (hsteps : ∀ s ∈ steps, s.drivesConnection = true) :
    replay d.libraryInUse (Request.libraryUses ((runFrom d steps).1.flatMap StepReport.granted)) =
      some (runFrom d steps).2.libraryInUse := by
  induction steps generalizing d with
  | nil => rfl
  | cons s rest ih =>
    have hfirst := report_library d s (hsteps s (by simp))
    have hrest := ih (report d s).2 (fun s' hs' => hsteps s' (by simp [hs']))
    simp only [runFrom, List.flatMap_cons, Request.libraryUses_append]
    rw [replay_append, hfirst, Option.bind_some]
    exact hrest

/-- Over every run of direct calls of the connection's operations, other than setting it up
anew, and of changes to what the application refuses and whether it answers: the uses of
the library the application granted, taking it into use (`true`) and ending its use
(`false`), alternate, each unlike the one before it and the first unlike the flag the
desk had; and the flag the run leaves is the last of them, or the flag it had when there
is none.  A refused request leaves no trace, and is asked again by a later call.

The statement is about the uses granted because they are what the station keeps: a
request the application refuses changes neither the journal nor the flag, and the
connection passes over the refusal.  Each request for the library is made under the same
test of the flag whether it is granted or not (`Link.initLibrary` asks only when the flag
is clear, `Link.releaseLibrary` only when it is set), so a run in which the application
refuses neither request grants every use the connection asks for, and there the uses
granted are all the uses asked for. -/
theorem library_uses_alternate (d : Desk) (steps : List Step)
    (hsteps : ∀ s ∈ steps, s.drivesConnection = true) :
    let uses := Request.libraryUses ((runFrom d steps).1.flatMap StepReport.granted)
    List.IsChain (· ≠ ·) (d.libraryInUse :: uses) ∧
      uses.getLastD d.libraryInUse = (runFrom d steps).2.libraryInUse :=
  (replay_eq_some_iff _ _ _).mp (runFrom_library d steps hsteps)

/-- From a fresh connection, starting and closing it: both steps drive the connection, so
the uses granted alternate from the library out of use. -/
theorem library_uses_alternate_start_close :
    let d := start {} ⟨"/work", [], .empty, .empty⟩ none false
    let steps := [Step.link "start" [], .link "close" []]
    (∀ s ∈ steps, s.drivesConnection = true) ∧
      let uses := Request.libraryUses ((runFrom d steps).1.flatMap StepReport.granted)
      List.IsChain (· ≠ ·) (d.libraryInUse :: uses) ∧
        uses.getLastD d.libraryInUse = (runFrom d steps).2.libraryInUse :=
  ⟨by decide, library_uses_alternate _ _ (by decide)⟩

end Session

end Drafting
