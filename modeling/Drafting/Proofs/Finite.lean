import Mathlib
import Drafting.Proofs.Numerals
import Drafting.Proofs.Sent

/-!
# Answers hold finite doubles

JSON has no word for a double that is infinite or not a number.  The writer of answers
(`Value.toJson`) writes such a double as `Infinity`, `-Infinity` or `NaN`, which strict
readers refuse; `Value.finite` says that a value holds none.

The tools that draw from arguments pass the doubles they are given on as they are: every
value an answer reports, and every value the record keeps, is one of the arguments, an item
of one, a text, an integer, or the `0.0` a point of two coordinates is lifted with.  So an
answer to a tool call whose arguments hold finite doubles holds finite doubles, and so does
the record after it (`Server.callTool_finite`); a session of such calls, reads of the
drawing and changes to the application answers and records finite doubles only
(`session_answers_finite`).

A sentence is another matter: the tool that reads one computes doubles of its own.  A
numeral past the largest double stands for an infinity, and a dimension's label stands ten
units above the midpoint of its two points, computed as `(x0 + x1) / 2`
(`Command.dimensionParams`), a sum that overflows for points near the largest double.  A
sentence clear of both (`Command.readsFinite`) is drawn from finite doubles only
(`Service.readAndDraw_finite`), so the sentence tool answers and records finite doubles for
it like the other tools.
-/

namespace Drafting

open Std.Do

set_option mvcgen.warning false

/-- Whether a value is a sentence read into finite doubles; what is no text is never read. -/
def Value.readsFinite : Value → Bool
  | .str s => Command.readsFinite s
  | _ => true

/-- Whether the sentence that arguments give under `command` is read into finite doubles;
arguments without one there are refused before anything is read. -/
def Value.commandReadsFinite (args : Value) : Bool :=
  match args.index "command" with
  | .ok sentence => sentence.readsFinite
  | .error _ => true

/-! ### Points read from values -/

/-- A point read from a value holding finite doubles holds finite doubles. -/
theorem Point3.finite_of_ofValue {v : Value} {p : Point3} (hv : v.finite = true)
    (h : Point3.ofValue v = .ok p) : p.toValue.finite = true := by
  have hitem : ∀ i w, v.item i = .ok w → w.finite = true := fun _ _ => Value.finite_of_item hv
  unfold Point3.ofValue at h
  cases hn : v.len with
  | error f => simp [hn, bind, Except.bind] at h
  | ok n =>
    simp only [hn, bind, Except.bind] at h
    split at h
    · -- two coordinates and the lifted `0.0`
      cases h0 : v.item 0 <;> cases h1 : v.item 1 <;> simp [h0, h1, pure, Except.pure] at h
      subst h
      simp [Point3.toValue, hitem _ _ h0, hitem _ _ h1]
    · split at h
      · cases h0 : v.item 0 <;> cases h1 : v.item 1 <;> cases h2 : v.item 2 <;>
          simp [h0, h1, h2, pure, Except.pure] at h
        subst h
        simp [Point3.toValue, hitem _ _ h0, hitem _ _ h1, hitem _ _ h2]
      · simp [throw, throwThe, MonadExceptOf.throw] at h

/-- Points read from values holding finite doubles hold finite doubles; by induction on the
values. -/
theorem Point3.finite_of_mapM {vs : List Value} {ps : List Point3}
    (hvs : ∀ v ∈ vs, v.finite = true) (h : vs.mapM Point3.ofValue = .ok ps) :
    ∀ p ∈ ps, p.toValue.finite = true := by
  induction vs generalizing ps with
  | nil =>
    simp only [List.mapM_nil, pure, Except.pure, Except.ok.injEq] at h
    simp [← h]
  | cons v vs ih =>
    simp only [List.mapM_cons, bind, Except.bind] at h
    cases hv : Point3.ofValue v with
    | error f => simp [hv] at h
    | ok p =>
      cases hrest : vs.mapM Point3.ofValue with
      | error f => simp [hv, hrest] at h
      | ok qs =>
        simp only [hv, hrest, pure, Except.pure, Except.ok.injEq] at h
        subst h
        intro q hq
        rcases List.mem_cons.mp hq with rfl | hq
        · exact Point3.finite_of_ofValue (hvs v List.mem_cons_self) hv
        · exact ih (fun w hw => hvs w (List.mem_cons_of_mem _ hw)) hrest q hq

/-! ### What the drawing operations answer -/

/-- Whether the record of a station holds finite doubles. -/
def Station.finite (σ : Station) : Bool := σ.service.drawing.toValue.finite

theorem Drawing.finite_toValue (d : Drawing) :
    d.toValue.finite = true ↔ ∀ e ∈ d.entities, e.toValue.finite = true := by
  simp [Drawing.toValue]

theorem Reply.finite_refused (m : String) : (Reply.refused m).toValue.finite = true := by
  simp [Reply.toValue]

namespace Op

/-- Lifting the items of a value holding finite doubles gives a tuple holding them. -/
theorem lift_toTuple_finite (σ₀ : Station) (v : Value) :
    ⦃fun σ => ⌜σ = σ₀⌝⦄ lift v.toTuple
    ⦃post⟨fun t σ => ⌜σ = σ₀ ∧ (v.finite = true → t.finite = true)⌝,
      fun _ σ => ⌜σ = σ₀⌝⟩⦄ :=
  lift_of_ok σ₀ _ _ fun _ he hv => Value.finite_toTuple hv he

/-- Walking through a value holding finite doubles meets values holding them. -/
theorem lift_elements_finite (σ₀ : Station) (v : Value) :
    ⦃fun σ => ⌜σ = σ₀⌝⦄ lift v.elements
    ⦃post⟨fun xs σ => ⌜σ = σ₀ ∧ (v.finite = true → ∀ x ∈ xs, x.finite = true)⌝,
      fun _ σ => ⌜σ = σ₀⌝⟩⦄ :=
  lift_of_ok σ₀ _ _ fun _ he hv => Value.finite_of_elements hv he

/-- Lifting the items of values holding finite doubles, one after the other, gives tuples
holding them; by induction on the values. -/
theorem mapM_toTuple_finite (σ₀ : Station) (vs : List Value) :
    ⦃fun σ => ⌜σ = σ₀⌝⦄ vs.mapM (fun p => lift p.toTuple)
    ⦃post⟨fun ts σ => ⌜σ = σ₀ ∧
        ((∀ v ∈ vs, v.finite = true) → ∀ t ∈ ts, t.finite = true)⌝,
      fun _ σ => ⌜σ = σ₀⌝⟩⦄ := by
  induction vs generalizing σ₀ with
  | nil =>
    simp only [List.mapM_nil]
    mvcgen
  | cons v vs ih =>
    have htuple := lift_toTuple_finite
    simp only [List.mapM_cons]
    mvcgen [htuple, ih]
    all_goals clear htuple ih
    all_goals simp_all

theorem lift_toList_finite (σ₀ : Station) (v : Value) :
    ⦃fun σ => ⌜σ = σ₀⌝⦄ lift v.toList
    ⦃post⟨fun t σ => ⌜σ = σ₀ ∧ (v.finite = true → t.finite = true)⌝,
      fun _ σ => ⌜σ = σ₀⌝⟩⦄ :=
  lift_of_ok σ₀ _ _ fun _ he hv => Value.finite_toList hv he

/-- Lifting the items of values holding finite doubles, one after the other, gives lists
holding them; by induction on the values. -/
theorem mapM_toList_finite (σ₀ : Station) (vs : List Value) :
    ⦃fun σ => ⌜σ = σ₀⌝⦄ vs.mapM (fun p => lift p.toList)
    ⦃post⟨fun ts σ => ⌜σ = σ₀ ∧
        ((∀ v ∈ vs, v.finite = true) → ∀ t ∈ ts, t.finite = true)⌝,
      fun _ σ => ⌜σ = σ₀⌝⟩⦄ := by
  induction vs generalizing σ₀ with
  | nil =>
    simp only [List.mapM_nil]
    mvcgen
  | cons v vs ih =>
    have hlist := lift_toList_finite
    simp only [List.mapM_cons]
    mvcgen [hlist, ih]
    all_goals clear hlist ih
    all_goals simp_all

end Op

/-- Turning points holding finite doubles into tuples keeps them finite. -/
theorem Service.tuples_finite (σ₀ : Station) (points : Value) :
    ⦃fun σ => ⌜σ = σ₀⌝⦄ Service.tuples points
    ⦃post⟨fun t σ => ⌜σ = σ₀ ∧ (points.finite = true → t.finite = true)⌝,
      fun _ σ => ⌜σ = σ₀⌝⟩⦄ := by
  have helements := Op.lift_elements_finite
  have htuples := Op.mapM_toTuple_finite
  unfold Service.tuples
  mvcgen [helements, htuples]
  all_goals clear helements htuples
  all_goals simp_all

namespace Link

theorem point_finite (σ₀ : Station) (v : Value) :
    ⦃fun σ => ⌜σ = σ₀⌝⦄ point v
    ⦃post⟨fun p σ => ⌜σ = σ₀ ∧ (v.finite = true → p.toValue.finite = true)⌝,
      fun _ σ => ⌜σ = σ₀⌝⟩⦄ :=
  Op.lift_of_ok σ₀ _ _ fun _ he hv => Point3.finite_of_ofValue hv he

theorem mapM_point_finite (σ₀ : Station) (vs : List Value) :
    ⦃fun σ => ⌜σ = σ₀⌝⦄ vs.mapM point
    ⦃post⟨fun ps σ => ⌜σ = σ₀ ∧
        ((∀ v ∈ vs, v.finite = true) → ∀ p ∈ ps, p.toValue.finite = true)⌝,
      fun _ σ => ⌜σ = σ₀⌝⟩⦄ := by
  have hreads := mapM_point_reads σ₀ vs
  mvcgen [hreads]
  intro hσ he
  exact ⟨hσ, fun hvs => Point3.finite_of_mapM hvs he⟩

variable (x : Settings × Drawing × Bool)

theorem drawLine_finite (start finish layer colour lineweight : Value) :
    ⦃fun σ => ⌜σ.rest = x⌝⦄ drawLine start finish layer colour lineweight
    ⦃post⟨fun r σ => ⌜σ.rest = x ∧
        (start.finite = true → finish.finite = true → r.toValue.finite = true)⌝,
      fun _ σ => ⌜σ.rest = x⌝⟩⦄ := by
  have hpoint := point_finite
  unfold drawLine drawing
  mvcgen [hpoint]
  all_goals clear hpoint
  all_goals simp_all [refusal, Reply.toValue, Entity.toValue, Entity.fields]

theorem drawCircle_finite (center radius layer colour lineweight : Value) :
    ⦃fun σ => ⌜σ.rest = x⌝⦄ drawCircle center radius layer colour lineweight
    ⦃post⟨fun r σ => ⌜σ.rest = x ∧
        (center.finite = true → radius.finite = true → r.toValue.finite = true)⌝,
      fun _ σ => ⌜σ.rest = x⌝⟩⦄ := by
  have hpoint := point_finite
  unfold drawCircle drawing
  mvcgen [hpoint]
  all_goals clear hpoint
  all_goals simp_all [refusal, Reply.toValue, Entity.toValue, Entity.fields]

theorem drawArc_finite (center radius startAngle endAngle layer colour lineweight : Value) :
    ⦃fun σ => ⌜σ.rest = x⌝⦄ drawArc center radius startAngle endAngle layer colour lineweight
    ⦃post⟨fun r σ => ⌜σ.rest = x ∧
        (center.finite = true → radius.finite = true → startAngle.finite = true →
          endAngle.finite = true → r.toValue.finite = true)⌝,
      fun _ σ => ⌜σ.rest = x⌝⟩⦄ := by
  have hpoint := point_finite
  unfold drawArc drawing
  mvcgen [hpoint]
  all_goals clear hpoint
  all_goals simp_all [refusal, Reply.toValue, Entity.toValue, Entity.fields]

theorem drawEllipse_finite (center major minor rotation layer colour lineweight : Value) :
    ⦃fun σ => ⌜σ.rest = x⌝⦄ drawEllipse center major minor rotation layer colour lineweight
    ⦃post⟨fun r σ => ⌜σ.rest = x ∧
        (center.finite = true → major.finite = true → minor.finite = true →
          rotation.finite = true → r.toValue.finite = true)⌝,
      fun _ σ => ⌜σ.rest = x⌝⟩⦄ := by
  have hpoint := point_finite
  unfold drawEllipse drawing
  mvcgen [hpoint]
  all_goals clear hpoint
  all_goals simp_all [refusal, Reply.toValue, Entity.toValue, Entity.fields]

theorem drawPolyline_finite (points closed layer colour lineweight : Value) :
    ⦃fun σ => ⌜σ.rest = x⌝⦄ drawPolyline points closed layer colour lineweight
    ⦃post⟨fun r σ => ⌜σ.rest = x ∧
        (points.finite = true → closed.finite = true → r.toValue.finite = true)⌝,
      fun _ σ => ⌜σ.rest = x⌝⟩⦄ := by
  have helements := Op.lift_elements_finite
  have hpoints := mapM_point_finite
  unfold drawPolyline
  mvcgen [helements, hpoints]
  all_goals clear helements hpoints
  all_goals simp_all [refusal, Reply.toValue, Entity.toValue, Entity.fields]

theorem drawRectangle_finite (corner1 corner2 layer colour lineweight : Value) :
    ⦃fun σ => ⌜σ.rest = x⌝⦄ drawRectangle corner1 corner2 layer colour lineweight
    ⦃post⟨fun r σ => ⌜σ.rest = x ∧
        (corner1.finite = true → corner2.finite = true → r.toValue.finite = true)⌝,
      fun _ σ => ⌜σ.rest = x⌝⟩⦄ := by
  have hpoint := point_finite
  have hpolyline := drawPolyline_finite
  unfold drawRectangle
  mvcgen [hpoint, hpolyline]
  all_goals clear hpoint hpolyline
  all_goals simp_all +zetaDelta [Reply.toValue, Entity.toValue, Entity.fields, corners,
    Point3.toValue]

theorem drawText_finite (position content height rotation layer colour : Value) :
    ⦃fun σ => ⌜σ.rest = x⌝⦄ drawText position content height rotation layer colour
    ⦃post⟨fun r σ => ⌜σ.rest = x ∧
        (position.finite = true → content.finite = true → height.finite = true →
          rotation.finite = true → r.toValue.finite = true)⌝,
      fun _ σ => ⌜σ.rest = x⌝⟩⦄ := by
  have hpoint := point_finite
  unfold drawText drawing
  mvcgen [hpoint]
  all_goals clear hpoint
  all_goals simp_all [refusal, Reply.toValue, Entity.toValue, Entity.fields]

theorem drawHatch_finite (boundary pattern scale layer colour : Value) :
    ⦃fun σ => ⌜σ.rest = x⌝⦄ drawHatch boundary pattern scale layer colour
    ⦃post⟨fun r σ => ⌜σ.rest = x ∧
        (boundary.finite = true → pattern.finite = true → scale.finite = true →
          r.toValue.finite = true)⌝,
      fun _ σ => ⌜σ.rest = x⌝⟩⦄ := by
  have hpolyline := drawPolyline_finite
  unfold drawHatch
  mvcgen [hpolyline]
  all_goals clear hpolyline
  all_goals simp_all +zetaDelta [refusal, Reply.toValue, Entity.toValue, Entity.fields]

theorem addDimension_finite (start finish label layer colour : Value) :
    ⦃fun σ => ⌜σ.rest = x⌝⦄ addDimension start finish label layer colour
    ⦃post⟨fun r σ => ⌜σ.rest = x ∧
        (start.finite = true → finish.finite = true → label.finite = true →
          r.toValue.finite = true)⌝,
      fun _ σ => ⌜σ.rest = x⌝⟩⦄ := by
  have hpoint := point_finite
  unfold addDimension drawing
  mvcgen [hpoint]
  all_goals clear hpoint
  all_goals simp_all [refusal, Reply.toValue, Entity.toValue, Entity.fields]

/-- Saving answers a path or a refusal, both texts. -/
theorem save_finite (room : Nat) (path : Value) :
    ⦃fun σ => ⌜σ.rest = x⌝⦄ save room path
    ⦃post⟨fun r σ => ⌜σ.rest = x ∧ r.toValue.finite = true⌝, fun _ σ => ⌜σ.rest = x⌝⟩⦄ := by
  unfold save
  mvcgen
  all_goals simp_all +zetaDelta [Station.rest, refusal, Reply.toValue]

end Link

namespace Service

/-- The common tail of the drawing operations keeps the record's doubles finite, given a
body that keeps the record and answers finite doubles when `P` holds: the entity it records
is the one it answers. -/
theorem drawChecked_finite (P : Prop) (room : Nat) (colour : Value) (shown : List Value)
    (command : Unit → String) (body : Op Reply)
    (hbody : ∀ x, ⦃fun σ => ⌜σ.rest = x⌝⦄ body
      ⦃post⟨fun r σ => ⌜σ.rest = x ∧ (P → r.toValue.finite = true)⌝,
        fun _ σ => ⌜σ.rest = x⌝⟩⦄) :
    ⦃fun σ => ⌜σ.finite = true⌝⦄ drawChecked room colour shown command body
    ⦃post⟨fun r σ => ⌜P → r.toValue.finite = true ∧ σ.finite = true⌝,
      fun _ σ => ⌜P → σ.finite = true⌝⟩⦄ := by
  unfold drawChecked
  mvcgen [Op.modifyService, hbody]
  all_goals clear hbody
  all_goals simp_all +zetaDelta [Station.finite, Station.rest, Drawing.finite_toValue,
    Drawing.add, Reply.toValue]
  -- left: the record with the answered entity appended
  all_goals rintro hP e (he | rfl) <;> simp_all

theorem drawLine_finite (room : Nat) (start finish layer colour lineweight : Value) :
    ⦃fun σ => ⌜σ.finite = true⌝⦄ drawLine room start finish layer colour lineweight
    ⦃post⟨fun r σ => ⌜start.finite = true → finish.finite = true →
        r.toValue.finite = true ∧ σ.finite = true⌝,
      fun _ σ => ⌜start.finite = true → finish.finite = true → σ.finite = true⌝⟩⦄ := by
  have hchecked := drawChecked_finite (start.finite = true ∧ finish.finite = true)
  have htuple := Op.lift_toTuple_finite
  have hline := Link.drawLine_finite
  unfold drawLine
  mvcgen [hchecked, htuple, hline]
  all_goals clear hchecked htuple hline
  all_goals simp_all [Reply.finite_refused]

theorem drawCircle_finite (room : Nat) (center radius layer colour lineweight : Value) :
    ⦃fun σ => ⌜σ.finite = true⌝⦄ drawCircle room center radius layer colour lineweight
    ⦃post⟨fun r σ => ⌜center.finite = true → radius.finite = true →
        r.toValue.finite = true ∧ σ.finite = true⌝,
      fun _ σ => ⌜center.finite = true → radius.finite = true → σ.finite = true⌝⟩⦄ := by
  have hchecked := drawChecked_finite (center.finite = true ∧ radius.finite = true)
  have htuple := Op.lift_toTuple_finite
  have hcircle := Link.drawCircle_finite
  unfold drawCircle
  mvcgen [hchecked, htuple, hcircle]
  all_goals clear hchecked htuple hcircle
  all_goals simp_all [Reply.finite_refused]

theorem drawArc_finite (room : Nat) (center radius startAngle endAngle layer colour
    lineweight : Value) :
    ⦃fun σ => ⌜σ.finite = true⌝⦄
      drawArc room center radius startAngle endAngle layer colour lineweight
    ⦃post⟨fun r σ => ⌜center.finite = true → radius.finite = true →
        startAngle.finite = true → endAngle.finite = true →
        r.toValue.finite = true ∧ σ.finite = true⌝,
      fun _ σ => ⌜center.finite = true → radius.finite = true → startAngle.finite = true →
        endAngle.finite = true → σ.finite = true⌝⟩⦄ := by
  have hchecked := drawChecked_finite (center.finite = true ∧ radius.finite = true ∧
    startAngle.finite = true ∧ endAngle.finite = true)
  have htuple := Op.lift_toTuple_finite
  have harc := Link.drawArc_finite
  unfold drawArc
  mvcgen [hchecked, htuple, harc]
  all_goals clear hchecked htuple harc
  all_goals simp_all [Reply.finite_refused]

theorem drawEllipse_finite (room : Nat) (center major minor rotation layer colour
    lineweight : Value) :
    ⦃fun σ => ⌜σ.finite = true⌝⦄
      drawEllipse room center major minor rotation layer colour lineweight
    ⦃post⟨fun r σ => ⌜center.finite = true → major.finite = true → minor.finite = true →
        rotation.finite = true → r.toValue.finite = true ∧ σ.finite = true⌝,
      fun _ σ => ⌜center.finite = true → major.finite = true → minor.finite = true →
        rotation.finite = true → σ.finite = true⌝⟩⦄ := by
  have hchecked := drawChecked_finite (center.finite = true ∧ major.finite = true ∧
    minor.finite = true ∧ rotation.finite = true)
  have htuple := Op.lift_toTuple_finite
  have hellipse := Link.drawEllipse_finite
  unfold drawEllipse
  mvcgen [hchecked, htuple, hellipse]
  all_goals clear hchecked htuple hellipse
  all_goals simp_all [Reply.finite_refused]

theorem drawPolyline_finite (room : Nat) (points closed layer colour lineweight : Value) :
    ⦃fun σ => ⌜σ.finite = true⌝⦄ drawPolyline room points closed layer colour lineweight
    ⦃post⟨fun r σ => ⌜points.finite = true → closed.finite = true →
        r.toValue.finite = true ∧ σ.finite = true⌝,
      fun _ σ => ⌜points.finite = true → closed.finite = true → σ.finite = true⌝⟩⦄ := by
  have hchecked := drawChecked_finite (points.finite = true ∧ closed.finite = true)
  have htuples := tuples_finite
  have hpolyline := Link.drawPolyline_finite
  unfold drawPolyline
  mvcgen [hchecked, htuples, hpolyline]
  all_goals clear hchecked htuples hpolyline
  all_goals simp_all [Reply.finite_refused]

theorem drawRectangle_finite (room : Nat) (corner1 corner2 layer colour lineweight : Value) :
    ⦃fun σ => ⌜σ.finite = true⌝⦄ drawRectangle room corner1 corner2 layer colour lineweight
    ⦃post⟨fun r σ => ⌜corner1.finite = true → corner2.finite = true →
        r.toValue.finite = true ∧ σ.finite = true⌝,
      fun _ σ => ⌜corner1.finite = true → corner2.finite = true → σ.finite = true⌝⟩⦄ := by
  have hchecked := drawChecked_finite (corner1.finite = true ∧ corner2.finite = true)
  have htuple := Op.lift_toTuple_finite
  have hrectangle := Link.drawRectangle_finite
  unfold drawRectangle
  mvcgen [hchecked, htuple, hrectangle]
  all_goals clear hchecked htuple hrectangle
  all_goals simp_all [Reply.finite_refused]

theorem drawText_finite (room : Nat) (position content height rotation layer colour : Value) :
    ⦃fun σ => ⌜σ.finite = true⌝⦄ drawText room position content height rotation layer colour
    ⦃post⟨fun r σ => ⌜position.finite = true → content.finite = true →
        height.finite = true → rotation.finite = true →
        r.toValue.finite = true ∧ σ.finite = true⌝,
      fun _ σ => ⌜position.finite = true → content.finite = true → height.finite = true →
        rotation.finite = true → σ.finite = true⌝⟩⦄ := by
  have hchecked := drawChecked_finite (position.finite = true ∧ content.finite = true ∧
    height.finite = true ∧ rotation.finite = true)
  have htuple := Op.lift_toTuple_finite
  have htext := Link.drawText_finite
  unfold drawText
  mvcgen [hchecked, htuple, htext]
  all_goals clear hchecked htuple htext
  all_goals simp_all [Reply.finite_refused]

theorem drawHatch_finite (room : Nat) (boundary pattern scale layer colour : Value) :
    ⦃fun σ => ⌜σ.finite = true⌝⦄ drawHatch room boundary pattern scale layer colour
    ⦃post⟨fun r σ => ⌜boundary.finite = true → pattern.finite = true → scale.finite = true →
        r.toValue.finite = true ∧ σ.finite = true⌝,
      fun _ σ => ⌜boundary.finite = true → pattern.finite = true → scale.finite = true →
        σ.finite = true⌝⟩⦄ := by
  have hchecked := drawChecked_finite (boundary.finite = true ∧ pattern.finite = true ∧
    scale.finite = true)
  have htuples := tuples_finite
  have hhatch := Link.drawHatch_finite
  unfold drawHatch
  mvcgen [hchecked, htuples, hhatch]
  all_goals clear hchecked htuples hhatch
  all_goals simp_all [Reply.finite_refused]

theorem addDimension_finite (room : Nat) (start finish label layer colour : Value) :
    ⦃fun σ => ⌜σ.finite = true⌝⦄ addDimension room start finish label layer colour
    ⦃post⟨fun r σ => ⌜start.finite = true → finish.finite = true → label.finite = true →
        r.toValue.finite = true ∧ σ.finite = true⌝,
      fun _ σ => ⌜start.finite = true → finish.finite = true → label.finite = true →
        σ.finite = true⌝⟩⦄ := by
  have hchecked := drawChecked_finite (start.finite = true ∧ finish.finite = true ∧
    label.finite = true)
  have htuple := Op.lift_toTuple_finite
  have hdimension := Link.addDimension_finite
  unfold addDimension
  mvcgen [hchecked, htuple, hdimension]
  all_goals clear hchecked htuple hdimension
  all_goals simp_all [Reply.finite_refused]

-- saving strips the path; kept closed, `Text.strip` is not unfolded through its tables
attribute [local irreducible] Text.strip in
/-- Saving notes a text as the last command and answers texts only. -/
theorem save_finite (room : Nat) (path : Value) :
    ⦃fun σ => ⌜σ.finite = true⌝⦄ save room path
    ⦃post⟨fun r σ => ⌜r.toValue.finite = true ∧ σ.finite = true⌝,
      fun _ σ => ⌜σ.finite = true⌝⟩⦄ := by
  have hsave := Link.save_finite
  unfold save
  mvcgen [Op.modifyService, hsave]
  all_goals clear hsave
  all_goals simp_all +zetaDelta [Station.finite, Station.rest, Reply.finite_refused,
    Drawing.finite_toValue]

/-- Reading a parameter of an object holding finite doubles, or a finite default, gives
finite doubles. -/
theorem param_finite (σ₀ : Station) (params : Value) (key : String) (default : Value) :
    ⦃fun σ => ⌜σ = σ₀⌝⦄ param params key default
    ⦃post⟨fun v σ => ⌜σ = σ₀ ∧
        (params.finite = true → default.finite = true → v.finite = true)⌝,
      fun _ σ => ⌜σ = σ₀⌝⟩⦄ :=
  Op.lift_of_ok σ₀ _ _ fun _ he hv hd => Value.finite_of_get hv hd he

theorem pointList_finite (σ₀ : Station) (params : Value) (key : String) (default : Value) :
    ⦃fun σ => ⌜σ = σ₀⌝⦄ pointList params key default
    ⦃post⟨fun v σ => ⌜σ = σ₀ ∧
        (params.finite = true → default.finite = true → v.finite = true)⌝,
      fun _ σ => ⌜σ = σ₀⌝⟩⦄ := by
  have hget := Op.lift_of_ok σ₀ (params.get key default)
    (fun w => params.finite = true → default.finite = true → w.finite = true)
    fun _ he hv hd => Value.finite_of_get hv hd he
  have hlist := Op.lift_toList_finite
  unfold pointList
  mvcgen [hget, hlist]
  all_goals clear hget hlist
  all_goals simp_all

theorem pointLists_finite (σ₀ : Station) (params : Value) (key : String) (default : Value) :
    ⦃fun σ => ⌜σ = σ₀⌝⦄ pointLists params key default
    ⦃post⟨fun v σ => ⌜σ = σ₀ ∧
        (params.finite = true → default.finite = true → v.finite = true)⌝,
      fun _ σ => ⌜σ = σ₀⌝⟩⦄ := by
  have hget := Op.lift_of_ok σ₀ (params.get key default)
    (fun w => params.finite = true → default.finite = true → w.finite = true)
    fun _ he hv hd => Value.finite_of_get hv hd he
  have helements := Op.lift_elements_finite
  have hlists := Op.mapM_toList_finite
  unfold pointLists
  mvcgen [hget, helements, hlists]
  all_goals clear hget helements hlists
  all_goals simp_all
  -- left: the points read from the object, each turned into a list
  intro hparams hdefault
  simp_all

/-- Drawing a shape from a parameter object holding finite doubles answers and records finite
doubles: every default is finite. -/
theorem drawShape_finite (room : Nat) (shape : Command.Shape) (params : Value) :
    ⦃fun σ => ⌜σ.finite = true⌝⦄ drawShape room shape params
    ⦃post⟨fun r σ => ⌜params.finite = true → r.toValue.finite = true ∧ σ.finite = true⌝,
      fun _ σ => ⌜params.finite = true → σ.finite = true⌝⟩⦄ := by
  have hpoint := pointList_finite
  have hpoints := pointLists_finite
  have hparam := param_finite
  have hline := drawLine_finite
  have hcircle := drawCircle_finite
  have harc := drawArc_finite
  have hellipse := drawEllipse_finite
  have hpolyline := drawPolyline_finite
  have hrectangle := drawRectangle_finite
  have htext := drawText_finite
  have hhatch := drawHatch_finite
  have hdimension := addDimension_finite
  have h25 : (Value.float 2.5).finite = true := by decide +kernel
  have h1 : (Value.float 1.0).finite = true := by decide +kernel
  unfold drawShape
  split
  all_goals mvcgen [hpoint, hpoints, hparam, hline, hcircle, harc, hellipse, hpolyline,
    hrectangle, htext, hhatch, hdimension]
  all_goals clear hpoint hpoints hparam hline hcircle harc hellipse hpolyline
  all_goals clear hrectangle htext hhatch hdimension
  all_goals simp_all [ints]

/-- Carrying out a sentence that is read into finite doubles answers and records finite
doubles: the sentence noted as the last command is a text, and the shape is drawn from the
parameters it is read into. -/
theorem readAndDraw_finite (room : Nat) (sentence : Value) :
    ⦃fun σ => ⌜σ.finite = true⌝⦄ readAndDraw room sentence
    ⦃post⟨fun r σ => ⌜sentence.readsFinite = true → r.toValue.finite = true ∧ σ.finite = true⌝,
      fun _ σ => ⌜sentence.readsFinite = true → σ.finite = true⌝⟩⦄ := by
  have htext := fun (σ₀ : Station) => Op.lift_of_ok σ₀ (sentence.textFor "lower")
    (fun text => sentence = .str text) fun text h => by cases sentence <;> simp_all [Value.textFor]
  have hshape := drawShape_finite
  unfold readAndDraw
  mvcgen [Op.modifyService, htext, hshape]
  all_goals clear htext hshape
  all_goals simp_all +zetaDelta [Station.finite, Drawing.finite_toValue, Value.readsFinite,
    Reply.toValue, Command.Request.finite_confidence]
  -- left: the shape drawn from the parameters the sentence is read into
  all_goals
    intro hdraw hreads
    exact hdraw fun k v hkv => Command.Request.parameters_finite hreads (k, v) hkv

end Service

namespace Server

theorem needed_finite (σ₀ : Station) (args : Value) (key : String) :
    ⦃fun σ => ⌜σ = σ₀⌝⦄ needed args key
    ⦃post⟨fun v σ => ⌜σ = σ₀ ∧ args.index key = .ok v ∧ (args.finite = true → v.finite = true)⌝,
      fun _ σ => ⌜σ = σ₀⌝⟩⦄ :=
  Op.lift_of_ok σ₀ _ _ fun _ he => ⟨he, fun hv => Value.finite_of_index hv he⟩

theorem optional_finite (σ₀ : Station) (args : Value) (key : String) (default : Value) :
    ⦃fun σ => ⌜σ = σ₀⌝⦄ optional args key default
    ⦃post⟨fun v σ => ⌜σ = σ₀ ∧
        (args.finite = true → default.finite = true → v.finite = true)⌝,
      fun _ σ => ⌜σ = σ₀⌝⟩⦄ :=
  Op.lift_of_ok σ₀ _ _ fun _ he hv hd => Value.finite_of_get hv hd he

theorem runTool_finite (room : Nat) (name args : Value) (hargs : args.finite = true)
    (hsentence : name = .str "process_command" → args.commandReadsFinite = true) :
    ⦃fun σ => ⌜σ.finite = true⌝⦄ runTool room name args
    ⦃post⟨fun r σ => ⌜r.toValue.finite = true ∧ σ.finite = true⌝,
      fun _ σ => ⌜σ.finite = true⌝⟩⦄ := by
  have hneeded := needed_finite
  have hoptional := optional_finite
  have hline := Service.drawLine_finite
  have hcircle := Service.drawCircle_finite
  have harc := Service.drawArc_finite
  have hellipse := Service.drawEllipse_finite
  have hpolyline := Service.drawPolyline_finite
  have hrectangle := Service.drawRectangle_finite
  have htext := Service.drawText_finite
  have hhatch := Service.drawHatch_finite
  have hdimension := Service.addDimension_finite
  have hsave := Service.save_finite
  have hread := Service.readAndDraw_finite
  -- the defaults of the optional arguments hold finite doubles
  have hheight : (Value.float 2.5).finite = true := by decide +kernel
  have hscale : (Value.float 1.0).finite = true := by decide +kernel
  unfold runTool
  split
  all_goals mvcgen [hneeded, hoptional, hline, hcircle, harc, hellipse, hpolyline, hrectangle,
    htext, hhatch, hdimension, hsave, hread]
  all_goals clear hneeded hoptional hline hcircle harc hellipse hpolyline hrectangle htext
  all_goals clear hhatch hdimension hsave hread
  -- the sentence read is the one under `command`
  all_goals simp_all [Value.commandReadsFinite]

/-- A tool call whose arguments hold finite doubles, and whose sentence, for the tool that reads
one, is read into finite doubles, answers with finite doubles and keeps the record so: a fault
of a tool is answered as a refusal with its message. -/
theorem callTool_finite (name args : Value) (hargs : args.finite = true)
    (hsentence : name = .str "process_command" → args.commandReadsFinite = true) :
    ⦃fun σ => ⌜σ.finite = true⌝⦄ callTool name args
    ⦃post⟨fun r σ => ⌜r.toValue.finite = true ∧ σ.finite = true⌝,
      fun _ σ => ⌜σ.finite = true⌝⟩⦄ := by
  have hrun := runTool_finite toolRoom name args hargs hsentence
  unfold callTool
  mvcgen [hrun]
  all_goals clear hrun
  all_goals simp_all

/-- Reading the drawing answers with the record, which holds finite doubles. -/
theorem readResource_finite (uri : Value) :
    ⦃fun σ => ⌜σ.finite = true⌝⦄ readResource uri
    ⦃post⟨fun r σ => ⌜r.finite = true ∧ σ.finite = true⌝, fun _ σ => ⌜σ.finite = true⌝⟩⦄ := by
  unfold readResource
  mvcgen

end Server

/-! ### Sessions of tool calls -/

/-- The steps of a client that hands over finite doubles only: calls of every tool with
arguments that hold finite doubles, a sentence among them read into finite doubles, reads of
resources, and changes to the application. -/
def Step.finiteClient : Step → Bool
  | .tool (.str "process_command") args => args.finite && args.commandReadsFinite
  | .tool _ args => args.finite
  | .resource _ | .refuse _ | .unplug _ => true
  | .service _ _ | .link _ _ => false

theorem Step.finiteClient_tool {name args : Value}
    (h : (Step.tool name args).finiteClient = true) :
    args.finite = true ∧ (name = .str "process_command" → args.commandReadsFinite = true) := by
  by_cases hname : name = .str "process_command"
  · subst hname
    simpa [Step.finiteClient] using h
  · refine ⟨?_, fun h' => absurd h' hname⟩
    unfold Step.finiteClient at h
    split at h <;> simp_all

/-- Whether an answer holds finite doubles; a fault is answered with its message. -/
def answerFinite : Except Fault Value → Bool
  | .ok v => v.finite
  | .error _ => true

/-- Whether a step's report holds finite doubles: its answer and the record after it. -/
def StepReport.finite (rep : StepReport) : Bool :=
  answerFinite rep.result && rep.record.all fun D => D.toValue.finite

/-- Whether the record a desk keeps holds finite doubles; before its service is made a
desk keeps none. -/
def Desk.finite (d : Desk) : Bool := d.service.all fun s => s.drawing.toValue.finite

/-- The station of a desk keeping finite doubles keeps them; a service made on demand
starts with an empty record. -/
theorem Desk.station_finite {d : Desk} (hd : d.finite = true) : d.station.finite = true := by
  rcases d with ⟨host, disk, _ | service⟩
  · simp [Desk.station, Station.finite, Service.ofSettings, Drawing.toValue]
  · simpa [Desk.station, Station.finite, Desk.finite] using hd

/-- The record a desk reports holds finite doubles exactly when the desk keeps them. -/
theorem Desk.record_finite (d : Desk) :
    (d.service.map Service.drawing).all (fun D => D.toValue.finite) = d.finite := by
  rcases d with ⟨host, disk, _ | service⟩ <;> rfl

namespace Session

theorem finite_withService {α : Type} (d : Desk) (op : Op α) :
    (withService d op).2.finite = (withService d op).2.station.finite := rfl

/-- A step that runs an operation keeping the record finite, and answering with finite
doubles, does the same. -/
theorem withService_finite {op : Op Value}
    (h : ⦃fun σ => ⌜σ.finite = true⌝⦄ op
      ⦃post⟨fun v σ => ⌜v.finite = true ∧ σ.finite = true⌝, fun _ σ => ⌜σ.finite = true⌝⟩⦄)
    (d : Desk) (hd : d.finite = true) :
    answerFinite (withService d op).1 = true ∧ (withService d op).2.finite = true := by
  have hrun := withService_of_triple h d (Desk.station_finite hd)
  rw [finite_withService]
  generalize withService d op = out at hrun ⊢
  obtain ⟨r, d'⟩ := out
  cases r <;> simp_all [answerFinite]

theorem toolStep_finite (name args : Value) (hargs : args.finite = true)
    (hsentence : name = .str "process_command" → args.commandReadsFinite = true) :
    ⦃fun σ => ⌜σ.finite = true⌝⦄ (do return (← Server.callTool name args).toValue : Op Value)
    ⦃post⟨fun v σ => ⌜v.finite = true ∧ σ.finite = true⌝, fun _ σ => ⌜σ.finite = true⌝⟩⦄ := by
  have hcall := Server.callTool_finite name args hargs hsentence
  mvcgen [hcall]

/-- One step of a client handing over finite doubles answers with finite doubles and keeps
the record so. -/
theorem step_finite (d : Desk) (s : Step) (hs : s.finiteClient = true) (hd : d.finite = true) :
    answerFinite (step d s).1 = true ∧ (step d s).2.finite = true := by
  cases s with
  | tool name args =>
    obtain ⟨hargs, hsentence⟩ := Step.finiteClient_tool hs
    exact withService_finite (toolStep_finite name args hargs hsentence) d hd
  | resource uri =>
    simp only [step]
    split
    · exact withService_finite (Server.readResource_finite uri) d hd
    · exact ⟨rfl, hd⟩
  | refuse names => exact ⟨rfl, hd⟩
  | unplug dropped => exact ⟨rfl, hd⟩
  | service op args => simp [Step.finiteClient] at hs
  | link op args => simp [Step.finiteClient] at hs

theorem report_finite (d : Desk) (s : Step) (hs : s.finiteClient = true)
    (hd : d.finite = true) : (report d s).1.finite = true ∧ (report d s).2.finite = true := by
  obtain ⟨hr, hd'⟩ := step_finite { d with host := { d.host with journal := #[] } } s hs hd
  simp only [report]
  generalize step _ s = out at hr hd' ⊢
  obtain ⟨r, d'⟩ := out
  exact ⟨by simp [StepReport.finite, hr, Desk.record_finite, hd'], hd'⟩

/-- A run of such steps answers with finite doubles at every step; by induction on the
steps, the record staying finite from each step to the next. -/
theorem runFrom_finite (steps : List Step) (hsteps : ∀ s ∈ steps, s.finiteClient = true)
    (d : Desk) (hd : d.finite = true) :
    (∀ rep ∈ (runFrom d steps).1, rep.finite = true) ∧ (runFrom d steps).2.finite = true := by
  induction steps generalizing d with
  | nil => simp [runFrom, hd]
  | cons s rest ih =>
    obtain ⟨hfirst, hd'⟩ := report_finite d s (hsteps s (by simp)) hd
    obtain ⟨hrest, hlast⟩ := ih (fun s' hs' => hsteps s' (by simp [hs'])) _ hd'
    simp only [runFrom, List.mem_cons, forall_eq_or_imp]
    exact ⟨⟨hfirst, hrest⟩, hlast⟩

end Session

/-- Over every session of a client handing over finite doubles, from any application, disk
and settings: every answer holds finite doubles, and so does every record a step reports
and the record at the end. -/
theorem session_answers_finite (host : Host) (disk : Disk) (settings : Option Settings)
    (lazy : Bool) (steps : List Step) (hsteps : ∀ s ∈ steps, s.finiteClient = true) :
    (∀ rep ∈ (Session.run host disk settings lazy steps).1, rep.finite = true) ∧
      (Session.run host disk settings lazy steps).2.all (fun D => D.toValue.finite) = true := by
  have hstart : (Session.start host disk settings lazy).finite = true := by
    cases lazy <;> simp [Session.start, Desk.finite, Service.ofSettings, Drawing.toValue]
  obtain ⟨hreps, hlast⟩ := Session.runFrom_finite steps hsteps _ hstart
  simp only [Session.run]
  generalize Session.runFrom _ steps = out at hreps hlast ⊢
  obtain ⟨reps, d⟩ := out
  exact ⟨hreps, (Desk.record_finite d).trans hlast⟩

/-- A session that draws a circle, has a dimension between two points drawn from a sentence,
and reads the drawing back. -/
theorem sentence_session_answers_finite :
    let steps := [Step.tool (.str "draw_circle")
      (.dict [("center", .list [.int 0, .int 0]), ("radius", .int 5)]),
      .tool (.str "process_command")
        (.dict [("command", .str "add a dimension from (1, 2) to (3.5, 4)")]),
      .resource (.str "drawing://current")]
    (∀ s ∈ steps, s.finiteClient = true) ∧
      (∀ rep ∈ (Session.run {} ⟨"/work", [], .empty, .empty⟩ none false steps).1,
        rep.finite = true) ∧
      (Session.run {} ⟨"/work", [], .empty, .empty⟩ none false steps).2.all
        (fun D => D.toValue.finite) = true :=
  ⟨by decide +kernel, session_answers_finite _ _ _ _ _ (by decide +kernel)⟩

end Drafting
