import Mathlib
import Drafting.Proofs.Sent

/-!
# A hatch is bounded by its own polyline

A hatch is drawn in two parts.  Its boundary is drawn first, as a closed polyline, and the
polyline is not kept: the hatch fetches the last item of the model space back, by its place,
and gives it to the new hatch as the outer loop.  That the loop is the hatch's own boundary
rests on the model space being appended to only, and on nothing being added between the
polyline and the fetch, though the polyline's drawing writes properties and refreshes the
view in between.

`HatchedOn` says what a drawn hatch has sent: the polyline added as entity `k` and closed at
once, at most an update and a regeneration of the view, which add no entity, the fetch of
place `k - 1`, the hatch added as entity `k + 1` and given the entity `k` as its outer loop.
`hatch_loops_own_boundary` says that every hatch drawn on the connection has sent exactly
that, whatever its boundary, pattern, scale and properties, and whatever the application
refuses.  The boundary is drawn with no layer, colour or line weight, so its drawing writes
no property (`applyProperties_none`).
-/

namespace Drafting

open Std.Do

set_option mvcgen.warning false

/-- What a drawn hatch has sent after the requests `J`, its boundary numbered `k`: the boundary
added and closed at once; at most the refreshing of the view; the fetch of the model space's
item at place `k - 1`; the hatch added as entity `k + 1` and scaled; and the entity `k` given to
the hatch as its outer loop. -/
def HatchedOn (k : Nat) (pattern scale : Value) (J J' : List Request) : Prop :=
  ∃ xs mid t, mid <+: [.update, .regen] ∧
    J ++ [.addPolyline xs, .set (.entity k) .closed (.bool true)] ++ mid ++
      [.item (k - 1), .addHatch t pattern, .set (.entity (k + 1)) .patternScale scale,
        .appendOuterLoop (k + 1) k] <+: J'

/-- A hatch whose requests continue past the outer loop was hatched on its boundary. -/
theorem HatchedOn.of_prefix {k t : Nat} {pattern scale : Value} {J J' mid rest : List Request}
    {xs : List Float} (hmid : mid <+: [.update, .regen])
    (h : J ++ [.addPolyline xs, .set (.entity k) .closed (.bool true)] ++ mid ++
      [.item (k - 1), .addHatch t pattern, .set (.entity (k + 1)) .patternScale scale,
        .appendOuterLoop (k + 1) k] ++ rest <+: J') :
    HatchedOn k pattern scale J J' :=
  ⟨xs, mid, t, hmid, (List.prefix_append _ rest).trans h⟩

namespace Link

/-- Writing no layer, colour or line weight writes nothing. -/
theorem applyProperties_none (σ₀ : Station) (entity : Nat) :
    ⦃fun σ => ⌜σ = σ₀⌝⦄ applyProperties entity .null .null .null
    ⦃post⟨fun _ σ => ⌜σ = σ₀⌝, fun _ _ => ⌜False⌝⟩⦄ := by
  unfold applyProperties attempt
  mvcgen

/-- Refreshing the view sends an update and a regeneration, or what of them was granted before
a refusal. -/
theorem refresh_sent (σ₀ : Station) :
    ⦃fun σ => ⌜σ = σ₀⌝⦄ refresh
    ⦃post⟨fun _ σ => ⌜∃ mid, mid <+: [.update, .regen] ∧ σ.sent = (σ₀.sent.1 ++ mid, σ₀.sent.2)⌝,
      fun _ _ => ⌜False⌝⟩⦄ := by
  have hrequest := @Op.request_sent
  unfold refresh attempt
  mvcgen [Op.link_answers, hrequest]
  all_goals clear hrequest
  all_goals simp_all [Request.addsEntity]
  -- without a document, or with the update refused, nothing is sent
  all_goals exact ⟨[], List.nil_prefix, by simp⟩

/-- A boundary that is drawn is added as the next entity and closed at once, and only the
refreshing of the view follows. -/
theorem drawPolyline_boundary (σ₀ : Station) (points : Value) :
    ⦃fun σ => ⌜σ = σ₀⌝⦄ drawPolyline points (.bool true) .null .null .null
    ⦃post⟨fun r σ => ⌜r.succeeded = true → ∃ e xs mid, r = .drawn e ∧ mid <+: [.update, .regen] ∧
        σ.sent = (σ₀.sent.1 ++ [.addPolyline xs, .set (.entity (σ₀.sent.2 + 1)) .closed (.bool true)] ++
          mid, σ₀.sent.2 + 1)⌝,
      fun _ _ => ⌜True⌝⟩⦄ := by
  have hpoints := @mapM_point_reads
  have hadd := @Op.addEntity_sent
  have hrequest := @Op.request_sent
  have hprops := @applyProperties_none
  have hrefresh := @refresh_sent
  unfold drawPolyline
  mvcgen [Op.link_answers, hpoints, hadd, hrequest, hprops, hrefresh]
  all_goals clear hpoints hadd hrequest hprops hrefresh
  all_goals simp_all [Reply.succeeded, refusal, Value.truthy, Request.addsEntity]
  -- drawn: the reals of the points went to the addition, and the refresh came last
  rename_i hrefreshed
  exact ⟨_, hrefreshed⟩

/-- A hatch that is drawn was bounded by its own polyline: its outer loop is the entity that
the boundary's addition made, closed at once, and fetched back from the last place of the model
space, to which only the refreshing of the view was sent in between. -/
theorem hatch_loops_own_boundary (σ₀ : Station) (boundary pattern scale layer colour : Value) :
    ⦃fun σ => ⌜σ = σ₀⌝⦄ drawHatch boundary pattern scale layer colour
    ⦃post⟨fun r σ => ⌜r.succeeded = true →
        HatchedOn (σ₀.sent.2 + 1) pattern scale σ₀.sent.1 σ.sent.1⌝,
      fun _ _ => ⌜True⌝⟩⦄ := by
  have hpolyline := @drawPolyline_boundary
  have hrequest := @Op.request_sent
  have hadd := @Op.addEntity_sent
  have hprops := @applyProperties_grows
  have hrefresh := @refresh_grows
  unfold drawHatch
  mvcgen [Op.link_answers, hpolyline, hrequest, hadd, hprops, hrefresh]
  all_goals clear hpolyline hrequest hadd hprops hrefresh
  all_goals simp_all +zetaDelta [Reply.succeeded, refusal, Request.addsEntity]
  rename_i hboundary _ _ _ _ _ _ hprops hrefreshed
  obtain ⟨xs, mid, hmid, hsent⟩ := hboundary
  -- the boundary's number is the count the hatch reads back before fetching the polyline
  simp only [Station.sent, Prod.mk.injEq] at hsent hprops hrefreshed ⊢
  obtain ⟨hjournal, hcount⟩ := hsent
  rw [hjournal, hcount] at hprops
  exact HatchedOn.of_prefix hmid (by simpa using hprops.trans hrefreshed)

end Link

end Drafting
