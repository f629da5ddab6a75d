import Mathlib
import Drafting.Proofs.Record

/-!
# Arguments are checked before connecting

Each drawing operation of the service, and saving, first checks its arguments: the
counts of coordinates and points, a positive radius, axis, height or scale, a text,
pattern or path that is not empty or blank.  These checks read the arguments alone, so
a call refused by one of them, or stopped by a value one of them cannot read, leaves
the station exactly as it was: the application is not asked anything, and neither the
connection nor the service's readiness changes.

The colour is the exception.  It is checked after connecting, so a colour outside
`0 … 255` is refused by a service that may just have connected.
-/

namespace Drafting

open Std.Do

set_option mvcgen.warning false

/-- Whether a value is a sequence of at least `n` items; a value with no length is not. -/
def Value.hasAtLeast (v : Value) (n : Nat) : Bool :=
  match v.len with
  | .ok k => n ≤ k
  | .error _ => false

/-- One check that an operation of the service makes of its arguments before it
connects. -/
inductive ArgCheck where
  /-- A sequence of at least `n` items. -/
  | atLeast (v : Value) (n : Nat)
  /-- A sequence of points, each of two coordinates or more. -/
  | points (v : Value)
  /-- A number above zero. -/
  | positive (v : Value)
  /-- A number not below zero. -/
  | notNegative (v : Value)
  /-- A value that is not empty. -/
  | filled (v : Value)
  /-- A text that is not blank. -/
  | notBlank (v : Value)

/-- Whether the arguments pass the check; one that cannot be made does not pass. -/
def ArgCheck.passes : ArgCheck → Bool
  | atLeast v n => v.hasAtLeast n
  | points v =>
    match v.elements with
    | .ok ps => ps.all (·.hasAtLeast 2)
    | .error _ => false
  | positive v =>
    match v.compareInt .le 0 with
    | .ok b => !b
    | .error _ => false
  | notNegative v =>
    match v.compareInt .lt 0 with
    | .ok b => !b
    | .error _ => false
  | filled v => v.truthy
  | notBlank v =>
    match v.textFor "strip" with
    | .ok s => !(Text.strip s).isEmpty
    | .error _ => false

/-- A call of one of the service's drawing operations, or of saving, with its
arguments. -/
inductive Service.Call where
  | line (start finish layer colour lineweight : Value)
  | circle (center radius layer colour lineweight : Value)
  | arc (center radius startAngle endAngle layer colour lineweight : Value)
  | ellipse (center major minor rotation layer colour lineweight : Value)
  | polyline (points closed layer colour lineweight : Value)
  | rectangle (corner1 corner2 layer colour lineweight : Value)
  | text (position content height rotation layer colour : Value)
  | hatch (boundary pattern scale layer colour : Value)
  | dimension (start finish label layer colour : Value)
  | save (path : Value)

namespace Service.Call

/-- Runs the call with `room` on the call stack. -/
def run (room : Nat) : Call → Op Reply
  | line a b l c w => drawLine room a b l c w
  | circle a r l c w => drawCircle room a r l c w
  | arc a r s e l c w => drawArc room a r s e l c w
  | ellipse a p q r l c w => drawEllipse room a p q r l c w
  | polyline ps k l c w => drawPolyline room ps k l c w
  | rectangle a b l c w => drawRectangle room a b l c w
  | text p t h r l c => drawText room p t h r l c
  | hatch ps name s l c => drawHatch room ps name s l c
  | dimension a b t l c => addDimension room a b t l c
  | save p => Service.save room p

/-- The checks the call makes of its arguments before it connects, in order.  The
colour is checked after connecting and is not among them. -/
def checks : Call → List ArgCheck
  | line a b .. => [.atLeast a 2, .atLeast b 2]
  | circle a r .. => [.atLeast a 2, .positive r]
  | arc a r .. => [.atLeast a 2, .positive r]
  | ellipse a p q .. => [.atLeast a 2, .positive p, .notNegative q]
  | polyline ps .. => [.atLeast ps 2, .points ps]
  | rectangle a b .. => [.atLeast a 2, .atLeast b 2]
  | text p t h .. => [.atLeast p 2, .filled t, .positive h]
  | hatch ps name s .. => [.atLeast ps 3, .points ps, .filled name, .positive s]
  | dimension a b t .. => [.atLeast a 2, .atLeast b 2, .atLeast t 2]
  | save p => [.filled p, .notBlank p]

end Service.Call

namespace Service

/-- Counting the items of a value changes nothing and answers whether there are fewer
than `n`; a value with no length stops it. -/
theorem fewer_answers (σ₀ : Station) (v : Value) (n : Nat) :
    ⦃fun σ => ⌜σ = σ₀⌝⦄ fewer v n
    ⦃post⟨fun b σ => ⌜σ = σ₀ ∧ b = !v.hasAtLeast n⌝,
      fun _ σ => ⌜σ = σ₀ ∧ v.hasAtLeast n = false⌝⟩⦄ := by
  unfold fewer
  mvcgen
  all_goals simp_all [Value.hasAtLeast]
  all_goals grind

/-- Looking for a short point changes nothing, and finds none only when every point
has two coordinates or more. -/
theorem shortPoint_answers (σ₀ : Station) (points : List Value) :
    ⦃fun σ => ⌜σ = σ₀⌝⦄ shortPoint points
    ⦃post⟨fun o σ => ⌜σ = σ₀ ∧ (o = none → points.all (·.hasAtLeast 2))⌝,
      fun _ σ => ⌜σ = σ₀⌝⟩⦄ := by
  unfold shortPoint
  mvcgen [fewer_answers]
  -- going on, every point passed so far has two coordinates; an early answer names one
  case inv1 =>
    exact Invariant.withEarlyReturnNewDo
      (fun cursor _ σ => ⌜σ = σ₀ ∧
        (List.map Prod.fst ( List.Cursor.prefix cursor)).all (·.hasAtLeast 2)⌝)
      (fun r _ σ => ⌜σ = σ₀ ∧ r ≠ none⌝) ⟨fun _ σ => ⌜σ = σ₀⌝, ()⟩
  all_goals simp_all [List.zipIdx_map_fst]
  all_goals grind

/-- Connecting and drawing are never reached from a station that cannot be. -/
theorem drawChecked_unreached (room : Nat) (colour : Value) (shown : List Value)
    (command : Unit → String) (body : Op Reply)
    (Q : PostCond Reply (.except Fault (.arg Station .pure))) :
    ⦃fun _ => ⌜False⌝⦄ drawChecked room colour shown command body ⦃Q⦄ := by
  intro _ h
  exact h.elim

theorem ensureReady_unreached (Q : PostCond Bool (.except Fault (.arg Station .pure))) :
    ⦃fun _ => ⌜False⌝⦄ ensureReady ⦃Q⦄ := by
  intro _ h
  exact h.elim

-- saving strips the path; kept closed, `Text.strip` is not unfolded through its tables
attribute [local irreducible] Text.strip in
/-- A call whose arguments fail one of its checks, or hold a value a check cannot read,
is answered with a refusal or stopped with a fault, and leaves the station exactly as it
was: the application is asked nothing, and the connection and the readiness stay. -/
theorem Call.refused_before_connecting (room : Nat) (call : Call) (σ₀ : Station)
    (hfail : call.checks.all ArgCheck.passes = false) :
    ⦃fun σ => ⌜σ = σ₀⌝⦄ call.run room
    ⦃post⟨fun r σ => ⌜σ = σ₀ ∧ ∃ m, r = .refused m⌝, fun _ σ => ⌜σ = σ₀⌝⟩⦄ := by
  -- one case for each check of each call: the check named fails or cannot be made
  obtain ⟨check, hcheck, hfails⟩ := List.all_eq_false.mp hfail
  cases call
  all_goals
    simp only [Call.checks, List.mem_cons, List.not_mem_nil, or_false] at hcheck
    rcases hcheck with rfl | rfl | rfl | rfl
  all_goals
    simp only [Call.run, drawLine, drawCircle, drawArc, drawEllipse, drawPolyline,
      drawRectangle, drawText, drawHatch, addDimension, Service.save]
    mvcgen [fewer_answers, shortPoint_answers, drawChecked_unreached, ensureReady_unreached]
  all_goals simp_all [ArgCheck.passes, ← Option.eq_none_iff_forall_ne_some]
  -- left: a point found short that the search for one passed over
  all_goals grind

/-- A circle of radius zero on a station not yet connected: refused, the station kept. -/
theorem zero_radius_keeps_station :
    let σ : Station := ⟨{}, ⟨"/work", [], .empty, .empty⟩, Service.ofSettings Settings.shipped⟩
    let call := Call.circle (.list [.int 0, .int 0]) (.int 0) .null .null .null
    call.checks.all ArgCheck.passes = false ∧
      ⦃fun s => ⌜s = σ⌝⦄ call.run Server.stepRoom
      ⦃post⟨fun r s => ⌜s = σ ∧ ∃ m, r = .refused m⌝, fun _ s => ⌜s = σ⌝⟩⦄ :=
  ⟨by decide, Call.refused_before_connecting _ _ _ (by decide)⟩

/-- A line whose colour is out of range, on a station not yet connected: every check
before connecting passes, the service connects, and only then refuses the colour. -/
theorem colour_refused_after_connecting :
    let σ : Station := ⟨{}, ⟨"/work", [], .empty, .empty⟩, Service.ofSettings Settings.shipped⟩
    let call := Call.line (.list [.int 0, .int 0]) (.list [.int 1, .int 1]) .null (.int 300) .null
    let run := (call.run Server.stepRoom).run.run σ
    call.checks.all ArgCheck.passes = true ∧
      (match run.1 with
        | .ok (.refused m) => m
        | _ => "") = "Color must be between 0 and 255" ∧
      σ.host.journal.size = 0 ∧ run.2.host.journal.size = 2 ∧
      σ.service.ready = false ∧ run.2.service.ready = true := by
  refine ⟨?_, ?_, ?_, ?_, ?_, ?_⟩ <;> decide +kernel

end Service

end Drafting
