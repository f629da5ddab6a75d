import Mathlib
import Drafting.Proofs.Record

/-!
# What a session's answers say the record holds

A client sees the record only through answers.  An answer reports a drawn entity when it
is an object that starts with a true `success` and the entity's `type`, and it reports
success when it starts with a true `success`.  `Session.tally` reads a session's answers
the way a client would: the reports of drawn entities in order, and `"success"` once
some answer has reported success; building the service afresh by its constructor starts
both over.

`record_follows_answers` shows the service's record is exactly that tally after every
session whose steps carry arguments a readable request can carry
(`Session.argumentsDepth_of_readable`).  The one way the two could part is a literal too
deep to note, which stops a drawing operation after it recorded its entity; such
arguments nest hundreds of levels deeper than any request the reader takes in.
-/

namespace Drafting

open Std.Do

set_option mvcgen.warning false

namespace Value

/-- Whether an answer reports success: an object whose first entry is a true `success`. -/
def reportsSuccess : Value → Bool
  | .dict (("success", .bool true) :: _) => true
  | _ => false

/-- Whether an answer reports a drawn entity: a true `success`, then the entity's `type`. -/
def reportsDrawn : Value → Bool
  | .dict (("success", .bool true) :: ("type", _) :: _) => true
  | _ => false

/-- The answer itself when it reports a drawn entity; nothing otherwise. -/
def drawnReports (v : Value) : List Value := if v.reportsDrawn then [v] else []

/-- The outcome a client reads after an answer: success after a success, the outcome
before otherwise. -/
def outcome (v : Value) (before : String) : String := if v.reportsSuccess then "success" else before

end Value

/-- An answer reports a drawn entity exactly when it is one, and then reports it as the
record holds it. -/
theorem Reply.drawnReports_toValue (r : Reply) :
    r.toValue.drawnReports = r.drawnEntities.map Entity.toValue := by
  cases r <;> rfl

/-- An answer reports success exactly when the service counts it a success. -/
theorem Reply.outcome_toValue (r : Reply) (before : String) :
    r.toValue.outcome before = r.outcome before := by
  cases r <;> rfl

/-- The station's record, as the answers report its entities, is `vs`, with the
outcome `R`. -/
def Station.Reports (σ : Station) (vs : List Value) (R : String) : Prop :=
  σ.service.drawing.entities.map Entity.toValue = vs ∧ σ.service.drawing.lastResult = R

/-- The record of a station as answers report it: the reports of its entities and its
outcome. -/
def Station.ledger (σ : Station) : List Value × String :=
  (σ.service.drawing.entities.map Entity.toValue, σ.service.drawing.lastResult)

theorem Station.ledger_of_reports {σ : Station} {vs : List Value} {R : String}
    (h : σ.Reports vs R) : σ.ledger = (vs, R) := by
  rw [Station.ledger, h.1, h.2]

theorem Station.ledger_of_records {σ : Station} {E : List Entity} {R : String}
    (h : σ.Records E R) : σ.ledger = (E.map Entity.toValue, R) := by
  rw [Station.ledger, h.1, h.2]

/-- What the connection leaves alone includes the record. -/
theorem Station.ledger_of_rest {σ τ : Station} (h : τ.rest = σ.rest) : τ.ledger = σ.ledger := by
  simp only [Station.rest, Prod.mk.injEq] at h
  rw [Station.ledger, Station.ledger, h.2.1]

/-- An operation without parameters takes no named arguments, and binds nothing. -/
@[simp] theorem Signature.byName_no_params {name : String} {args : List (String × Value)}
    {vs : List Value} : (Signature.mk name []).byName args = .ok vs ↔ args = [] ∧ vs = [] := by
  cases args with
  | nil => simp [Signature.byName, Signature.fill, eq_comm]
  | cons a rest =>
    simp only [Signature.byName, List.find?_cons, List.any_nil, Bool.not_false, Bool.or_true,
      reduceCtorEq, false_and, iff_false]
    split <;> simp

/-- Whether a step's answer goes to the record: a tool call or a direct call of the service. -/
def Step.callsService : Step → Bool
  | .tool .. | .service .. => true
  | _ => false

/-- Whether a step builds the service afresh: its constructor, called by name without
arguments. -/
def Step.rebuilds : Step → Bool
  | .service op args => op == "__init__" && args.isEmpty
  | _ => false

namespace Session

/-- The record a client reads after one more step and its answer.  A fault changes
nothing; an answer of the constructor starts afresh, and one of a tool call or a direct
call of the service adds its report of a drawn entity and its outcome. -/
def tally (acc : List Value × String) (s : Step) : Except Fault Value → List Value × String
  | .error _ => acc
  | .ok v =>
    if s.rebuilds then ([], "")
    else if s.callsService then (acc.1 ++ v.drawnReports, v.outcome acc.2)
    else acc

/-- The record a client reads from a session's steps and their answers, in order. -/
def tallyRun : List Value × String → List Step → List (Except Fault Value) → List Value × String
  | acc, s :: steps, r :: rs => tallyRun (tally acc s r) steps rs
  | acc, _, _ => acc

variable (E : List Entity) (R : String)

/-- Binding named arguments gives values no deeper than the arguments and the defaults. -/
theorem lift_byName_depth (σ₀ : Station) (sig : Signature) (args : List (String × Value)) :
    ⦃fun σ => ⌜σ = σ₀⌝⦄ Op.lift (sig.byName args)
    ⦃post⟨fun vs σ => ⌜σ = σ₀ ∧ sig.byName args = .ok vs ∧
        ∀ v ∈ vs, v.reprDepth ≤ max (Value.entriesDepth args) sig.defaultsDepth⌝,
      fun _ σ => ⌜σ = σ₀⌝⟩⦄ :=
  Op.lift_of_ok σ₀ _ _ fun _ h => ⟨h, Signature.reprDepth_of_byName h⟩

/-- Drawing a shape from a parameter object given by name records what it draws, and keeps
the record on a fault when the arguments fit. -/
theorem callService_shape_record (op : String) (args : List (String × Value))
    (hargs : Value.entriesDepth args ≤ Server.stepRoom + 3) (shape : Command.Shape) :
    ⦃fun σ => ⌜σ.Records E R⌝⦄ callService.shape op args shape
    ⦃post⟨fun v σ => ⌜σ.Reports (E.map Entity.toValue ++ v.drawnReports) (v.outcome R)⌝,
      fun _ σ => ⌜σ.Records E R⌝⟩⦄ := by
  have hbind := lift_byName_depth
  have hshape := Service.drawShape_record E R
  mvcgen -trivial [callService.shape, bound, hbind, hshape]
  all_goals clear hbind hshape
  -- the answer is the reply as an object: read the reply's report back
  all_goals try simp only [Reply.drawnReports_toValue, Reply.outcome_toValue]
  all_goals simp_all [Station.Records, Station.Reports, Signature.defaultsDepth, Param.required,
    Value.drawnReports, Value.outcome, Value.reportsDrawn, Value.reportsSuccess]
  -- left: a fault of the drawing, whose object fits where it is noted since the arguments do
  intro hkeep
  apply hkeep
  omega

/-- The service operations that bind named arguments and answer with the reply of a drawing,
a save or a sentence read. -/
def replyOperations : List String :=
  ["draw_line", "draw_circle", "draw_arc", "draw_ellipse", "draw_polyline", "draw_rectangle",
    "draw_text", "draw_hatch", "add_dimension", "save_drawing", "process_natural_language"]

/-- An operation that answers with a reply records what the reply reports, and keeps the
record on a fault when its arguments fit where a direct call notes them. -/
theorem callService_reply_record (op : String) (hop : op ∈ replyOperations)
    (args : List (String × Value)) (hargs : Value.entriesDepth args ≤ Server.stepRoom + 3) :
    ⦃fun σ => ⌜σ.Records E R⌝⦄ callService op args
    ⦃post⟨fun v σ => ⌜σ.Reports (E.map Entity.toValue ++ v.drawnReports) (v.outcome R)⌝,
      fun _ σ => ⌜σ.Records E R⌝⟩⦄ := by
  have hbind := lift_byName_depth
  -- the record each operation starts from is this one, never another text in scope
  have hline := Service.drawLine_record E R
  have hcircle := Service.drawCircle_record E R
  have harc := Service.drawArc_record E R
  have hellipse := Service.drawEllipse_record E R
  have hpolyline := Service.drawPolyline_record E R
  have hrectangle := Service.drawRectangle_record E R
  have htext := Service.drawText_record E R
  have hhatch := Service.drawHatch_record E R
  have hdimension := Service.addDimension_record E R
  have hsave := Service.save_record E R
  have hsentence := Service.readAndDraw_record E R
  simp only [replyOperations, List.mem_cons, List.not_mem_nil, or_false] at hop
  -- one case for each operation; its equation picks its branch of the call by name
  rcases hop with rfl | rfl | rfl | rfl | rfl | rfl | rfl | rfl | rfl | rfl | rfl
  all_goals
    rw [callService]
    mvcgen -trivial [bound, hbind, hline, hcircle, harc, hellipse, hpolyline, hrectangle, htext,
      hhatch, hdimension, hsave, hsentence]
  all_goals clear hbind hline hcircle harc hellipse hpolyline hrectangle htext hhatch
  all_goals clear hdimension hsave hsentence
  -- every default is a scalar, so what is bound nests no deeper than the arguments
  all_goals try simp only [Signature.defaultsDepth, styleParams, Param.required, Param.optional,
    List.map_cons, List.map_nil, List.cons_append, List.nil_append, List.foldr_cons, List.foldr_nil,
    Option.getD_some, Option.getD_none, Value.reprDepth_null, Value.reprDepth_float,
    Value.reprDepth_bool, Value.reprDepth_str, ↓reduceIte, max_self] at *
  -- the answer is the reply as an object: read the reply's report back first
  all_goals try simp only [Reply.drawnReports_toValue, Reply.outcome_toValue]
  -- the faults keep the record, since the operands fit where they are noted
  all_goals grind [Station.Records, Station.Reports, Value.drawnReports, Value.outcome,
    Value.reportsDrawn, Value.reportsSuccess, Server.stepRoom]

/-- A direct call of a service operation records what it answers, as the answers report
it, and keeps the record on a fault when its arguments nest no deeper than the room of a
direct call lets it note; the constructor called with no arguments starts an empty
record. -/
theorem callService_record (op : String) (args : List (String × Value))
    (hargs : Value.entriesDepth args ≤ Server.stepRoom + 3) :
    ⦃fun σ => ⌜σ.Records E R⌝⦄ callService op args
    ⦃post⟨fun v σ => ⌜if op = "__init__" ∧ args = [] then σ.Reports [] ""
        else σ.Reports (E.map Entity.toValue ++ v.drawnReports) (v.outcome R)⌝,
      fun _ σ => ⌜σ.Records E R⌝⟩⦄ := by
  by_cases hop : op ∈ replyOperations
  · have hinit : ¬(op = "__init__" ∧ args = []) := by
      rintro ⟨rfl, -⟩
      simp [replyOperations] at hop
    simp only [hinit, if_false]
    exact callService_reply_record E R op hop args hargs
  have hbind := lift_byName_depth
  have hshape := callService_shape_record E R op args hargs
  unfold callService
  split
  -- the operations that answer with a reply are set apart above
  all_goals try exact absurd (by decide) hop
  all_goals mvcgen -trivial [bound, hbind, hshape]
  all_goals clear hbind hshape
  all_goals simp_all [Station.Records, Station.Reports, Value.drawnReports, Value.outcome,
    Value.reportsDrawn, Value.reportsSuccess]
  -- left: the operations every object has, which change nothing and report nothing
  rename_i hσ hm
  refine (objectMethod_spec hm (fun σ => σ.Records E R)).entails_wp_of_post ?_ _ hσ
  simp
  refine ⟨?_, ?_⟩
  · rintro v σ ⟨hentities, hresult⟩ hv
    rcases hv with rfl | rfl | rfl | ⟨xs, rfl⟩ <;> simp [hentities, hresult, Service.attributes]
  · simp only [ExceptConds.entails, Station.Records]
    exact ⟨fun _ _ hkept => hkept, trivial⟩

/-- The step of a tool call never faults, and its answer is recorded. -/
theorem toolStep_record (name args : Value) (hargs : args.reprDepth ≤ Server.toolRoom + 5) :
    ⦃fun σ => ⌜σ.Records E R⌝⦄ (do return (← Server.callTool name args).toValue : Op Value)
    ⦃post⟨fun v σ => ⌜σ.Reports (E.map Entity.toValue ++ v.drawnReports) (v.outcome R)⌝,
      fun _ _ => ⌜False⌝⟩⦄ := by
  have htool := Server.callTool_record E R name args hargs
  mvcgen [htool]
  rename_i hrecords
  rw [Reply.drawnReports_toValue, Reply.outcome_toValue]
  exact ⟨by rw [hrecords.1, List.map_append], hrecords.2⟩

/-- Reading the drawing changes nothing. -/
@[spec low] theorem readResource_keeps (σ₀ : Station) (uri : Value) :
    ⦃fun σ => ⌜σ = σ₀⌝⦄ Server.readResource uri
    ⦃post⟨fun _ σ => ⌜σ = σ₀⌝, fun _ σ => ⌜σ = σ₀⌝⟩⦄ := by
  mvcgen [Server.readResource]

/-- What a specification says of an operation holds of the step that runs it on the
desk's service. -/
theorem withService_of_triple {α : Type} {op : Op α} {P : Station → Prop}
    {Qok : α → Station → Prop} {Qerr : Fault → Station → Prop}
    (h : ⦃fun σ => ⌜P σ⌝⦄ op ⦃post⟨fun a σ => ⌜Qok a σ⌝, fun f σ => ⌜Qerr f σ⌝⟩⦄)
    (d : Desk) (hd : P d.station) :
    match (withService d op).1 with
    | .ok a => Qok a (withService d op).2.station
    | .error f => Qerr f (withService d op).2.station :=
  @Op.run_of_triple α op P (fun r σ => match r with
    | .ok a => Qok a σ
    | .error f => Qerr f σ) h d.station hd

/-- What every run of an operation leaves, whether it answers or faults, holds of the desk
the step leaves. -/
theorem withService_keeps {α : Type} {op : Op α} {P Q : Station → Prop}
    (h : ⦃fun σ => ⌜P σ⌝⦄ op ⦃post⟨fun _ σ => ⌜Q σ⌝, fun _ σ => ⌜Q σ⌝⟩⦄)
    (d : Desk) (hd : P d.station) : Q (withService d op).2.station := by
  have hrun := withService_of_triple h d hd
  generalize withService d op = out at hrun ⊢
  obtain ⟨r, d'⟩ := out
  cases r <;> exact hrun

/-- One step whose arguments a readable request can carry keeps the record a client reads
from the answers. -/
theorem step_tally (d : Desk) (s : Step) (hs : s.argumentsDepth ≤ argumentRoom) :
    (step d s).2.station.ledger = tally d.station.ledger s (step d s).1 := by
  obtain ⟨E, R, hrec⟩ : ∃ E R, d.station.Records E R := ⟨_, _, rfl, rfl⟩
  rw [Station.ledger_of_records hrec]
  cases s with
  | tool name args =>
    have hargs : args.reprDepth ≤ Server.toolRoom + 5 := by
      simp only [Step.argumentsDepth, argumentRoom, readRoom] at hs
      simp only [Server.toolRoom, Server.stepRoom]
      omega
    have h := withService_of_triple (toolStep_record E R name args hargs) d hrec
    simp only [step]
    generalize withService d _ = out at h ⊢
    obtain ⟨r, d'⟩ := out
    cases r with
    | error f => exact h.elim
    | ok v => simp [tally, Step.rebuilds, Step.callsService, Station.ledger_of_reports h]
  | resource uri =>
    simp only [step]
    split
    · have h := withService_of_triple (readResource_keeps d.station uri) d rfl
      generalize withService d _ = out at h ⊢
      obtain ⟨r, d'⟩ := out
      cases r <;> simp_all [tally, Step.rebuilds, Step.callsService, Station.ledger_of_records hrec]
    · simp [tally, Station.ledger_of_records hrec]
  | service op args =>
    have hargs : Value.entriesDepth args ≤ Server.stepRoom + 3 := by
      simp only [Step.argumentsDepth, argumentRoom, readRoom, Value.reprDepth_dict] at hs
      simp only [Server.stepRoom]
      omega
    have h := withService_of_triple (callService_record E R op args hargs) d hrec
    simp only [step]
    generalize withService d _ = out at h ⊢
    obtain ⟨r, d'⟩ := out
    cases r with
    | error f => simp [tally, Station.ledger_of_records h]
    | ok v =>
      split_ifs at h with hinit
      · simp [tally, Step.rebuilds, hinit, Station.ledger_of_reports h]
      · have hrebuilds : (Step.service op args).rebuilds = false := by
          simpa [Step.rebuilds] using hinit
        simp [tally, hrebuilds, Step.callsService, Station.ledger_of_reports h]
  | link op args =>
    have h := withService_of_triple (callLink_rest d.station.rest op args) d rfl
    simp only [step]
    generalize withService d _ = out at h ⊢
    obtain ⟨r, d'⟩ := out
    cases r <;>
      simp_all [tally, Step.rebuilds, Step.callsService, Station.ledger_of_rest h,
        Station.ledger_of_records hrec]
  | refuse names =>
    simp only [step, tally, Step.rebuilds, Step.callsService]
    exact Station.ledger_of_records hrec
  | unplug dropped =>
    simp only [step, tally, Step.rebuilds, Step.callsService]
    exact Station.ledger_of_records hrec

/-- A step's report: the record it leaves is the tally of the record before and of the
step's answer.  Clearing the journal first does not touch the record. -/
theorem report_tally (d : Desk) (s : Step) (hs : s.argumentsDepth ≤ argumentRoom) :
    (report d s).2.station.ledger = tally d.station.ledger s (report d s).1.result :=
  step_tally { d with host := { d.host with journal := #[] } } s hs

/-- A run of such steps keeps the record a client reads from the answers, step after
step; by induction on the steps. -/
theorem runFrom_tally (steps : List Step) (d : Desk)
    (hsteps : ∀ s ∈ steps, s.argumentsDepth ≤ argumentRoom) :
    (runFrom d steps).2.station.ledger =
      tallyRun d.station.ledger steps ((runFrom d steps).1.map StepReport.result) := by
  induction steps generalizing d with
  | nil => rfl
  | cons s rest ih =>
    simp only [runFrom, List.map_cons, tallyRun]
    rw [ih _ fun s' hs' => hsteps s' (by simp [hs']), report_tally d s (hsteps s (by simp))]

/-- The record a desk reports: its service's, or an empty one before the service is made. -/
theorem Desk.ledger_station (d : Desk) :
    d.station.ledger = (((d.service.map Service.drawing).getD {}).entities.map Entity.toValue,
      ((d.service.map Service.drawing).getD {}).lastResult) := by
  rcases d with ⟨host, disk, _ | service⟩ <;> rfl

/-- Over every session whose steps carry arguments a readable request can carry, from any
application, disk and settings, lazy or not, the record is what the answers report: the
entities that tool calls and direct calls of the service reported drawn, in order, and the
outcome `"success"` once one of them reported success, both since the service was last
built. -/
theorem record_follows_answers (host : Host) (disk : Disk) (settings : Option Settings)
    (lazy : Bool) (steps : List Step) (hsteps : ∀ s ∈ steps, s.argumentsDepth ≤ argumentRoom) :
    let record := (run host disk settings lazy steps).2.getD {}
    (record.entities.map Entity.toValue, record.lastResult) =
      tallyRun ([], "") steps ((run host disk settings lazy steps).1.map StepReport.result) := by
  have hstart : (start host disk settings lazy).station.ledger = ([], "") := by
    cases lazy <;> rfl
  have hrun := runFrom_tally steps (start host disk settings lazy) hsteps
  rw [hstart, Desk.ledger_station] at hrun
  exact hrun

/-- A session that draws a line, calls a tool no one offers, and draws a circle by a direct
call after the application refuses to add circles: the record holds the line alone. -/
theorem record_follows_line_and_refusal :
    let steps := [Step.tool (.str "draw_line")
        (.dict [("start", .list [.int 0, .int 0]), ("end", .list [.int 1, .int 1])]),
      .tool (.str "rotate") (.dict []), .refuse ["AddCircle"],
      .service "draw_circle" [("center", .list [.int 0, .int 0]), ("radius", .int 2)]]
    (∀ s ∈ steps, s.argumentsDepth ≤ argumentRoom) ∧
      let record := (run {} ⟨"/work", [], .empty, .empty⟩ none false steps).2.getD {}
      (record.entities.map Entity.toValue, record.lastResult) =
        tallyRun ([], "") steps
          ((run {} ⟨"/work", [], .empty, .empty⟩ none false steps).1.map StepReport.result) :=
  ⟨by decide, record_follows_answers _ _ _ _ _ (by decide)⟩

end Session

end Drafting
