import Mathlib
import Drafting.Proofs.Tally

/-!
# What a failed drawing leaves in the document

A drawing operation of the connection asks the application to add its entity and then
goes on: it sets properties, closes the polyline, turns the text, builds the hatch on
its boundary.  A step after the addition can fail, and the operation then reports a
refusal; nothing takes the added entity back.  So a refused drawing may leave entities
behind: a polyline or rectangle whose closing was refused, a text whose rotation was no
number or whose turning was refused, a hatch's boundary, and the hatch itself when a
step after adding it failed.

The specifications here count the entities of the application: each operation adds
exactly its own entities when it succeeds, at most the ones added before its failing
step when it is refused, and none when it stops with a fault.
-/

namespace Drafting

open Std.Do

set_option mvcgen.warning false

/-- A granted request adds one entity when it is an addition of an entity, none otherwise. -/
theorem Host.grant_entities {h h' : Host} {r : Request} (hgrant : h.grant r = .ok h') :
    h'.entities = h.entities + if r.addsEntity then 1 else 0 := by
  rw [Host.grant_eq_record hgrant]
  cases r <;> simp [Host.record, Request.addsEntity]

namespace Op

variable (n : Nat)

theorem request_count (r : Request) :
    ⦃fun σ => ⌜σ.host.entities = n⌝⦄ request r
    ⦃post⟨fun _ σ => ⌜σ.host.entities = n + if r.addsEntity then 1 else 0⌝,
      fun _ σ => ⌜σ.host.entities = n⌝⟩⦄ := by
  unfold request
  mvcgen
  rename_i hbefore host hgrant
  rw [Host.grant_entities hgrant, hbefore]

theorem addEntity_count (r : Request) (hadds : r.addsEntity = true) :
    ⦃fun σ => ⌜σ.host.entities = n⌝⦄ addEntity r
    ⦃post⟨fun _ σ => ⌜σ.host.entities = n + 1⌝, fun _ σ => ⌜σ.host.entities = n⌝⟩⦄ := by
  have hrequest := @request_count
  unfold addEntity
  mvcgen [hrequest]
  all_goals simp_all

end Op

/-- How a drawing that found `n` entities leaves their number `m`, read off its answer `r`:
a drawn entity comes with `added` more, and any other answer is a refusal after which at
most `left` more remain. -/
def Counted (n added left : Nat) (r : Reply) (m : Nat) : Prop :=
  (∀ e, r = .drawn e → m = n + added) ∧
    ((∀ e, r ≠ .drawn e) → r.succeeded = false ∧ n ≤ m ∧ m ≤ n + left)

namespace Link

variable (n : Nat)

/-- Making sure a layer exists adds layers, never entities, and never faults. -/
theorem ensureLayer_count (name colour : Value) :
    ⦃fun σ => ⌜σ.host.entities = n⌝⦄ ensureLayer name colour
    ⦃post⟨fun _ σ => ⌜σ.host.entities = n⌝, fun _ _ => ⌜False⌝⟩⦄ := by
  have hrequest := @Op.request_count
  unfold ensureLayer attempt
  mvcgen [hrequest]
  -- the specifications are spent; simp_all would only try to rewrite with them
  all_goals clear hrequest
  all_goals simp_all [Request.addsEntity]

/-- Writing properties adds layers, never entities, and never faults. -/
theorem applyProperties_count (entity : Nat) (layer colour lineweight : Value) :
    ⦃fun σ => ⌜σ.host.entities = n⌝⦄ applyProperties entity layer colour lineweight
    ⦃post⟨fun _ σ => ⌜σ.host.entities = n⌝, fun _ _ => ⌜False⌝⟩⦄ := by
  have hrequest := @Op.request_count
  have hlayer := @ensureLayer_count
  unfold applyProperties attempt
  mvcgen [hrequest, hlayer]
  all_goals clear hrequest hlayer
  all_goals simp_all [Request.addsEntity]

/-- Refreshing the view adds nothing and never faults. -/
theorem refresh_count :
    ⦃fun σ => ⌜σ.host.entities = n⌝⦄ refresh
    ⦃post⟨fun _ σ => ⌜σ.host.entities = n⌝, fun _ _ => ⌜False⌝⟩⦄ := by
  have hrequest := @Op.request_count
  unfold refresh attempt
  mvcgen [hrequest]
  all_goals simp_all [Request.addsEntity]

theorem drawLine_count (start finish layer colour lineweight : Value) :
    ⦃fun σ => ⌜σ.host.entities = n⌝⦄ drawLine start finish layer colour lineweight
    ⦃post⟨fun r σ => ⌜Counted n 1 0 r σ.host.entities⌝,
      fun _ σ => ⌜σ.host.entities = n⌝⟩⦄ := by
  have hadd := @Op.addEntity_count
  have hprops := @applyProperties_count
  have hrefresh := @refresh_count
  unfold drawLine drawing
  mvcgen [hadd, hprops, hrefresh]
  all_goals clear hadd hprops hrefresh
  all_goals simp_all [Counted, Reply.succeeded, refusal]

theorem drawCircle_count (center radius layer colour lineweight : Value) :
    ⦃fun σ => ⌜σ.host.entities = n⌝⦄ drawCircle center radius layer colour lineweight
    ⦃post⟨fun r σ => ⌜Counted n 1 0 r σ.host.entities⌝,
      fun _ σ => ⌜σ.host.entities = n⌝⟩⦄ := by
  have hadd := @Op.addEntity_count
  have hprops := @applyProperties_count
  have hrefresh := @refresh_count
  unfold drawCircle drawing
  mvcgen [hadd, hprops, hrefresh]
  all_goals clear hadd hprops hrefresh
  all_goals simp_all [Counted, Reply.succeeded, refusal]

theorem drawArc_count (center radius startAngle endAngle layer colour lineweight : Value) :
    ⦃fun σ => ⌜σ.host.entities = n⌝⦄ drawArc center radius startAngle endAngle layer colour lineweight
    ⦃post⟨fun r σ => ⌜Counted n 1 0 r σ.host.entities⌝,
      fun _ σ => ⌜σ.host.entities = n⌝⟩⦄ := by
  have hadd := @Op.addEntity_count
  have hprops := @applyProperties_count
  have hrefresh := @refresh_count
  unfold drawArc drawing
  mvcgen [hadd, hprops, hrefresh]
  all_goals clear hadd hprops hrefresh
  all_goals simp_all [Counted, Reply.succeeded, refusal]

theorem drawEllipse_count (center major minor rotation layer colour lineweight : Value) :
    ⦃fun σ => ⌜σ.host.entities = n⌝⦄ drawEllipse center major minor rotation layer colour lineweight
    ⦃post⟨fun r σ => ⌜Counted n 1 0 r σ.host.entities⌝,
      fun _ σ => ⌜σ.host.entities = n⌝⟩⦄ := by
  have hadd := @Op.addEntity_count
  have hprops := @applyProperties_count
  have hrefresh := @refresh_count
  unfold drawEllipse drawing
  mvcgen [hadd, hprops, hrefresh]
  all_goals clear hadd hprops hrefresh
  all_goals simp_all [Counted, Reply.succeeded, refusal]

theorem drawPolyline_count (points closed layer colour lineweight : Value) :
    ⦃fun σ => ⌜σ.host.entities = n⌝⦄ drawPolyline points closed layer colour lineweight
    ⦃post⟨fun r σ => ⌜Counted n 1 1 r σ.host.entities⌝,
      fun _ σ => ⌜σ.host.entities = n⌝⟩⦄ := by
  have hadd := @Op.addEntity_count
  have hrequest := @Op.request_count
  have hprops := @applyProperties_count
  have hrefresh := @refresh_count
  unfold drawPolyline
  mvcgen [hadd, hrequest, hprops, hrefresh]
  all_goals clear hadd hrequest hprops hrefresh
  all_goals simp_all [Counted, Reply.succeeded, refusal, Request.addsEntity]

theorem drawRectangle_count (corner1 corner2 layer colour lineweight : Value) :
    ⦃fun σ => ⌜σ.host.entities = n⌝⦄ drawRectangle corner1 corner2 layer colour lineweight
    ⦃post⟨fun r σ => ⌜Counted n 1 1 r σ.host.entities⌝,
      fun _ σ => ⌜σ.host.entities = n⌝⟩⦄ := by
  have hpolyline := @drawPolyline_count
  unfold drawRectangle
  mvcgen [hpolyline]
  all_goals clear hpolyline
  all_goals simp_all [Counted]

theorem drawText_count (position content height rotation layer colour : Value) :
    ⦃fun σ => ⌜σ.host.entities = n⌝⦄ drawText position content height rotation layer colour
    ⦃post⟨fun r σ => ⌜Counted n 1 1 r σ.host.entities⌝,
      fun _ σ => ⌜σ.host.entities = n⌝⟩⦄ := by
  have hadd := @Op.addEntity_count
  have hrequest := @Op.request_count
  have hprops := @applyProperties_count
  have hrefresh := @refresh_count
  unfold drawText drawing
  mvcgen [hadd, hrequest, hprops, hrefresh]
  all_goals clear hadd hrequest hprops hrefresh
  all_goals simp_all [Counted, Reply.succeeded, refusal, Request.addsEntity]

theorem drawHatch_count (boundary pattern scale layer colour : Value) :
    ⦃fun σ => ⌜σ.host.entities = n⌝⦄ drawHatch boundary pattern scale layer colour
    ⦃post⟨fun r σ => ⌜Counted n 2 2 r σ.host.entities⌝,
      fun _ σ => ⌜σ.host.entities = n⌝⟩⦄ := by
  have hpolyline := @drawPolyline_count
  have hadd := @Op.addEntity_count
  have hrequest := @Op.request_count
  have hprops := @applyProperties_count
  have hrefresh := @refresh_count
  unfold drawHatch
  mvcgen [hpolyline, hadd, hrequest, hprops, hrefresh]
  all_goals clear hpolyline hadd hrequest hprops hrefresh
  all_goals simp_all [Counted, Reply.succeeded, refusal, Request.addsEntity]
  all_goals omega

theorem addDimension_count (start finish label layer colour : Value) :
    ⦃fun σ => ⌜σ.host.entities = n⌝⦄ addDimension start finish label layer colour
    ⦃post⟨fun r σ => ⌜Counted n 1 0 r σ.host.entities⌝,
      fun _ σ => ⌜σ.host.entities = n⌝⟩⦄ := by
  have hadd := @Op.addEntity_count
  have hprops := @applyProperties_count
  have hrefresh := @refresh_count
  unfold addDimension drawing
  mvcgen [hadd, hprops, hrefresh]
  all_goals clear hadd hprops hrefresh
  all_goals simp_all [Counted, Reply.succeeded, refusal]

end Link

/-- The counts a drawing leaves, read off the answer as an object: a reported success
comes with `added` more entities, a reported failure with at most `left` more. -/
theorem Counted.reports {n added left m : Nat} {r : Reply} (h : Counted n added left r m) :
    (r.toValue.reportsSuccess = true → m = n + added) ∧
      (r.toValue.reportsSuccess = false → n ≤ m ∧ m ≤ n + left) := by
  obtain ⟨hdrawn, hrefused⟩ := h
  cases r with
  | drawn e => simp [hdrawn e rfl, Reply.toValue, Entity.toValue, Value.reportsSuccess]
  | saved path => simpa [Reply.succeeded] using hrefused (by simp)
  | refused reason => simpa [Reply.toValue, Value.reportsSuccess] using (hrefused (by simp)).2
  | unread sentence action confidence =>
    simpa [Reply.toValue, Value.reportsSuccess] using (hrefused (by simp)).2

/-- The drawing operations of the connection, by the names a call gives them. -/
def drawOperations : List String :=
  ["draw_line", "draw_circle", "draw_arc", "draw_ellipse", "draw_polyline", "draw_rectangle",
    "draw_text", "draw_hatch", "add_dimension"]

/-- The entities a drawing operation adds when it succeeds: a hatch adds its boundary too. -/
def drawnCount : String → Nat
  | "draw_hatch" => 2
  | _ => 1

/-- The most entities a refused drawing operation can leave: those it added before the step
that failed. -/
def leftoverBound : String → Nat
  | "draw_polyline" | "draw_rectangle" | "draw_text" => 1
  | "draw_hatch" => 2
  | _ => 0

/-- A drawing operation of the connection, called by name, adds its own entities when it
reports success, leaves at most those it added before its failing step when it reports
failure, and adds none when it stops with a fault. -/
theorem refused_draw_leftovers (n : Nat) (op : String) (hop : op ∈ drawOperations)
    (args : List (String × Value)) :
    ⦃fun σ => ⌜σ.host.entities = n⌝⦄ Session.callLink op args
    ⦃post⟨fun v σ => ⌜(v.reportsSuccess = true → σ.host.entities = n + drawnCount op) ∧
        (v.reportsSuccess = false → n ≤ σ.host.entities ∧ σ.host.entities ≤ n + leftoverBound op)⌝,
      fun _ σ => ⌜σ.host.entities = n⌝⟩⦄ := by
  simp only [drawOperations, List.mem_cons, List.not_mem_nil, or_false] at hop
  -- one case for each drawing operation, each run through the call by name
  rcases hop with rfl | rfl | rfl | rfl | rfl | rfl | rfl | rfl | rfl
  all_goals
    unfold Session.callLink
    mvcgen [Session.bound, Link.drawLine_count, Link.drawCircle_count, Link.drawArc_count,
      Link.drawEllipse_count, Link.drawPolyline_count, Link.drawRectangle_count,
      Link.drawText_count, Link.drawHatch_count, Link.addDimension_count]
  all_goals simp_all [drawnCount, leftoverBound]
  all_goals first | exact Counted.reports ‹_› | simp [Value.reportsSuccess]

/-- The bounds at work on a text whose rotation is no number, drawn on a connected station
whose drawing holds no entity yet. -/
theorem refused_draw_leftovers_text :
    let σ : Station := ⟨{}, ⟨"/work", [], .empty, .empty⟩,
      { Service.ofSettings Settings.shipped with
        link := ⟨.section Settings.shipped.cad, true, true, true, true⟩ }⟩
    let args := [("position", .list [.int 0, .int 0]), ("text", .str "hi"), ("rotation", .str "x")]
    let run := (Session.callLink "draw_text" args).run.run σ
    "draw_text" ∈ drawOperations ∧ σ.host.entities = 0 ∧
      match run.1 with
      | .ok v => (v.reportsSuccess = true → run.2.host.entities = 0 + drawnCount "draw_text") ∧
          (v.reportsSuccess = false →
            0 ≤ run.2.host.entities ∧ run.2.host.entities ≤ 0 + leftoverBound "draw_text")
      | .error _ => run.2.host.entities = 0 := by
  intro σ args run
  exact ⟨by decide, rfl, Op.run_of_triple (Q := fun (r : Except Fault Value) τ => match r with
      | .ok v => (v.reportsSuccess = true → τ.host.entities = 0 + drawnCount "draw_text") ∧
          (v.reportsSuccess = false →
            0 ≤ τ.host.entities ∧ τ.host.entities ≤ 0 + leftoverBound "draw_text")
      | .error _ => τ.host.entities = 0)
    (refused_draw_leftovers 0 "draw_text" (by decide) args) (σ := σ) rfl⟩

/-- A text whose rotation is no number, on a connected station: the connection adds the
text, fails to turn it and answers a refusal, and the text stays in the drawing. -/
theorem refused_text_stays :
    let σ : Station := ⟨{}, ⟨"/work", [], .empty, .empty⟩,
      { Service.ofSettings Settings.shipped with
        link := ⟨.section Settings.shipped.cad, true, true, true, true⟩ }⟩
    let run := (Session.callLink "draw_text"
      [("position", .list [.int 0, .int 0]), ("text", .str "hi"), ("rotation", .str "x")]).run.run σ
    run.1 = .ok (Reply.refused "must be real number, not str").toValue ∧
      run.2.host.entities = σ.host.entities + 1 := by
  -- the answer is compared with every definition open; the count is evaluated
  constructor
  · with_unfolding_all exact rfl
  · decide +kernel

end Drafting
