import Mathlib
import Drafting.Proofs.Leftovers
import Drafting.Proofs.Library

/-!
# The geometry a drawing sends is the geometry it reports

A drawing operation of the connection reads its points, turns their coordinates into
arrays of reals, asks the application to add the entity, and reports the entity with the
points as it read them.  `Carries k e rs` says which requests carry the geometry of the
reported entity `e`, numbered `k` by the application, and in which order:

* every array of reals holds, place by place, the reals of the reported coordinates, three
  for each point (`RealsOf`);
* the angles of an arc and the rotation of a text are the radians of the reported degrees;
* a rectangle is a polyline through its four reported corners, closed next, and a polyline
  reported closed is closed next;
* an ellipse's major axis is the major axis length turned by the reported rotation, and its
  axis ratio is the minor axis over the major one, cut down to one (`AxisRatio`): an ellipse
  reported with a minor axis longer than its major axis is sent with the ratio one.

`geometry_sent_as_reported` says that each drawing with a geometry, called on the
connection or on the service, that reports success has sent the requests that carry what
it reports, in order, after everything sent before it.  Called on the connection, they come
right after it (`Link.drawLine_carries` and the others); called on the service, after the
requests of connecting, which add no entity (`Station.SentSince`).

The reals of the coordinates are the reported coordinates rounded to doubles, which they
equal only while they are small enough: a line reported from the integer 2⁵³ + 1 is sent
the double 2⁵³ (`line_sent_rounded`).
-/

namespace Drafting

open Std.Do

set_option mvcgen.warning false

/-- Doubles that are, place by place, the reals of the given values. -/
def RealsOf (vs : List Value) (xs : List Float) : Prop :=
  List.Forall₂ (fun v x => v.toReal = .ok x) vs xs

/-- Reading each value as a real reads them all, in order; by induction on the values. -/
theorem realsOf_of_mapM {vs : List Value} {xs : List Float} (h : vs.mapM Value.toReal = .ok xs) :
    RealsOf vs xs := by
  induction vs generalizing xs with
  | nil =>
    have hxs : xs = [] := by simpa [pure, Except.pure, eq_comm] using h
    subst hxs
    exact .nil
  | cons v vs ih =>
    cases hv : v.toReal with
    | error f => simp [List.mapM_cons, hv, bind, Except.bind] at h
    | ok x =>
      cases hvs : vs.mapM Value.toReal with
      | error f => simp [List.mapM_cons, hv, hvs, bind, Except.bind] at h
      | ok ys =>
        simp [List.mapM_cons, hv, hvs, bind, Except.bind, pure, Except.pure] at h
        subst h
        exact .cons hv (ih hvs)

/-- The array of reals of points holds the reals of their coordinates, three for each. -/
theorem Link.realsOf_coords {ps : List Point3} {xs : List Float} (h : Link.realsOf ps = .ok xs) :
    RealsOf (ps.flatMap Point3.coords) xs :=
  realsOf_of_mapM h

theorem Link.realsOf_point {p : Point3} {xs : List Float} (h : Link.realsOf [p] = .ok xs) :
    RealsOf p.coords xs := by
  simpa using Link.realsOf_coords h

/-- So points are sent as three reals each. -/
theorem length_of_realsOf {ps : List Point3} {xs : List Float}
    (h : RealsOf (ps.flatMap Point3.coords) xs) : xs.length = 3 * ps.length := by
  rw [← h.length_eq, List.length_flatMap]
  simp [Point3.coords, mul_comm]

/-- A point written as a triple reads back as itself. -/
theorem Point3.ofValue_toValue (p : Point3) : Point3.ofValue p.toValue = .ok p := rfl

theorem Point3.mapM_ofValue_toValue (ps : List Point3) :
    (ps.map Point3.toValue).mapM Point3.ofValue = .ok ps := by
  induction ps with
  | nil => rfl
  | cons p ps ih =>
    simp [List.mapM_cons, Point3.ofValue_toValue, ih, bind, Except.bind, pure, Except.pure]

/-- The axis ratio an ellipse with axes `a` and `b` is sent with: `b / a` cut down to one
when the major axis `a` is positive, and zero when `a` is neither positive nor at most zero,
as a double that is not a number is. -/
inductive AxisRatio (a b : Num) : Float → Prop
  | positive {q : Float} : a.holds .gt 0 = true → b.div a = .ok q → AxisRatio a b (Link.atMostOne q)
  | unordered : a.holds .gt 0 = false → a.holds .le 0 = false → AxisRatio a b 0.0

theorem AxisRatio.of_positive {a b : Num} {ratio : Float} (hpos : a.holds .gt 0 = true)
    (h : Link.atMostOne <$> b.div a = .ok ratio) : AxisRatio a b ratio := by
  cases hq : b.div a with
  | error e => simp [hq, Functor.map, Except.map] at h
  | ok q =>
    simp [hq, Functor.map, Except.map] at h
    subst h
    exact .positive hpos hq

/-- A major axis that passed the check of not being at most zero and is not positive is
unordered. -/
theorem AxisRatio.of_unordered {a b : Num} {major : Value} (hgt : a.holds .gt 0 = false)
    (hle : major.compareInt .le 0 = .ok false) (ha : major.num? = some a) : AxisRatio a b 0.0 := by
  have hle' : a.holds .le 0 = false := by simpa [Value.compareInt, ha] using hle
  exact .unordered hgt hle'

/-- The number a comparison of the ellipse reads is the value's number. -/
theorem Link.num?_of_numeric {op : Comparison} {v : Value} {a : Num} (h : Link.numeric op v = .ok a) :
    v.num? = some a := by
  unfold Link.numeric at h
  split at h <;> simp_all

theorem Link.eq_of_guarded {f : Float → Float} {x r : Float} (h : Link.guarded f x = .ok r) :
    r = f x := by
  simp only [Link.guarded] at h
  split at h <;> simp_all

/-- A coordinate of the turned major axis: the axis times the guarded function of the angle,
which is the function itself once the guard let it through. -/
theorem Link.axis_of_guarded {a : Num} {f : Float → Float} {t x : Float}
    (h : (do Num.toFloat (← a.mul (.float (← Link.guarded f t)))) = .ok x) :
    (a.mul (.float (f t))).bind Num.toFloat = .ok x := by
  cases hg : Link.guarded f t with
  | error e => simp [hg, bind, Except.bind] at h
  | ok r =>
    rw [← Link.eq_of_guarded hg]
    simpa [hg, bind, Except.bind] using h

/-- The requests that carry the geometry of a reported entity, numbered `k`, to the
application, in the order they are sent. -/
inductive Carries (k : Nat) : Entity → List Request → Prop
  | line {s f : Point3} {sv fv : List Float} :
      RealsOf s.coords sv → RealsOf f.coords fv → Carries k (.line s f) [.addLine sv fv]
  | circle {c : Point3} {radius : Value} {cv : List Float} :
      RealsOf c.coords cv → Carries k (.circle c radius) [.addCircle cv radius]
  | arc {c : Point3} {radius startAngle endAngle : Value} {cv : List Float} {s t : Float} :
      RealsOf c.coords cv → Link.radians startAngle = .ok s → Link.radians endAngle = .ok t →
      Carries k (.arc c radius startAngle endAngle) [.addArc cv radius s t]
  | ellipse {c : Point3} {major minor rotation : Value} {cv : List Float} {a b : Num}
      {t ax ay ratio : Float} :
      RealsOf c.coords cv → major.num? = some a → minor.num? = some b →
      Link.radians rotation = .ok t →
      (a.mul (.float (Float.cos t))).bind Num.toFloat = .ok ax →
      (a.mul (.float (Float.sin t))).bind Num.toFloat = .ok ay → AxisRatio a b ratio →
      Carries k (.ellipse c major minor rotation) [.addEllipse cv [ax, ay, 0.0] ratio]
  | polyline {ps : List Point3} {closed : Value} {xs : List Float} :
      RealsOf (ps.flatMap Point3.coords) xs →
      Carries k (.polyline ps closed)
        (.addPolyline xs :: if closed.truthy then [.set (.entity k) .closed (.bool true)] else [])
  | rectangle {c1 c2 : Point3} {xs : List Float} :
      RealsOf ((Link.corners c1 c2).flatMap Point3.coords) xs →
      Carries k (.rectangle (Link.corners c1 c2) c1 c2)
        [.addPolyline xs, .set (.entity k) .closed (.bool true)]
  | text {p : Point3} {content height rotation : Value} {pv : List Float} {t : Float} :
      RealsOf p.coords pv → Link.radians rotation = .ok t →
      Carries k (.text p content height rotation)
        [.addText content pv height, .set (.entity k) .rotation (.float t)]
  | dimension {s f l : Point3} {sv fv lv : List Float} :
      RealsOf s.coords sv → RealsOf f.coords fv → RealsOf l.coords lv →
      Carries k (.dimension s f l) [.addDimAligned sv fv lv]

/-- An answer that reports success reports an entity, and the journal `J'` holds, right after
the requests `J` sent before, the requests that carry that entity, numbered one past the `n`
entities there were. -/
def Reply.Carried (n : Nat) (J : List Request) (r : Reply) (J' : List Request) : Prop :=
  r.succeeded = true → ∃ e pre, r = .drawn e ∧ Carries (n + 1) e pre ∧ J ++ pre <+: J'

theorem Reply.reportsSuccess_toValue (r : Reply) : r.toValue.reportsSuccess = r.succeeded := by
  cases r <;> rfl

/-- A polyline reported by a drawing through `points` has the points read from them. -/
def Reply.ReadFrom (points closed : Value) (r : Reply) : Prop :=
  ∀ e, r = .drawn e → ∃ vs ps, points.elements = .ok vs ∧ vs.mapM Point3.ofValue = .ok ps ∧
    e = .polyline ps closed

/-- What the application has been sent: the requests it granted, in order, and the number
of entities they added. -/
def Station.sent (σ : Station) : List Request × Nat := (σ.host.journal.toList, σ.host.entities)

/-- From `σ₀` to `σ` the journal only grew, and no entity was added. -/
def Station.SentSince (σ₀ σ : Station) : Prop := σ₀.sent.1 <+: σ.sent.1 ∧ σ.sent.2 = σ₀.sent.2

theorem Station.SentSince.refl (σ : Station) : σ.SentSince σ := ⟨List.prefix_refl _, rfl⟩

theorem Station.SentSince.trans {σ₀ σ₁ σ₂ : Station} (h₁ : σ₀.SentSince σ₁) (h₂ : σ₁.SentSince σ₂) :
    σ₀.SentSince σ₂ :=
  ⟨h₁.1.trans h₂.1, h₂.2.trans h₁.2⟩

namespace Op

/-- A granted request is written at the end of the journal and adds its entity, if any. -/
theorem request_sent (σ₀ : Station) (r : Request) :
    ⦃fun σ => ⌜σ = σ₀⌝⦄ request r
    ⦃post⟨fun _ σ => ⌜σ.sent = (σ₀.sent.1 ++ [r], σ₀.sent.2 + if r.addsEntity then 1 else 0)⌝,
      fun _ σ => ⌜σ = σ₀⌝⟩⦄ := by
  unfold request
  mvcgen
  all_goals simp_all
  rename_i host hgrant
  simp [Station.sent, Host.grant_journal hgrant, Host.grant_entities hgrant]

/-- An addition answers the number of the entity it added. -/
theorem addEntity_sent (σ₀ : Station) (r : Request) (hadds : r.addsEntity = true) :
    ⦃fun σ => ⌜σ = σ₀⌝⦄ addEntity r
    ⦃post⟨fun k σ => ⌜k = σ₀.sent.2 + 1 ∧ σ.sent = (σ₀.sent.1 ++ [r], σ₀.sent.2 + 1)⌝,
      fun _ σ => ⌜σ = σ₀⌝⟩⦄ := by
  have hrequest := @request_sent
  unfold addEntity
  mvcgen [hrequest]
  all_goals simp_all [Station.sent]

/-- Whatever else a request does, the journal keeps what it held. -/
theorem request_grows (σ₀ : Station) (r : Request) :
    ⦃fun σ => ⌜σ = σ₀⌝⦄ request r
    ⦃post⟨fun _ σ => ⌜σ₀.sent.1 <+: σ.sent.1⌝, fun _ σ => ⌜σ₀.sent.1 <+: σ.sent.1⌝⟩⦄ := by
  have hrequest := @request_sent
  mvcgen [hrequest]
  all_goals simp_all

end Op

namespace Link

/-! ### Connecting adds no entity -/

theorem initLibrary_since (σ₀ : Station) :
    ⦃fun σ => ⌜σ = σ₀⌝⦄ initLibrary
    ⦃post⟨fun _ σ => ⌜σ₀.SentSince σ⌝, fun _ σ => ⌜σ₀.SentSince σ⌝⟩⦄ := by
  have hrequest := @Op.request_sent
  unfold initLibrary attempt
  mvcgen [Op.link_answers, hrequest, Op.modifyLink_link]
  all_goals clear hrequest
  all_goals simp_all [Station.SentSince, Station.sent, Request.addsEntity]

theorem attach_since (σ₀ : Station) (pid : String) :
    ⦃fun σ => ⌜σ = σ₀⌝⦄ attach pid
    ⦃post⟨fun _ σ => ⌜σ₀.SentSince σ⌝, fun _ σ => ⌜σ₀.SentSince σ⌝⟩⦄ := by
  have hrequest := @Op.request_sent
  unfold attach
  mvcgen [hrequest, Op.modifyLink_link]
  all_goals clear hrequest
  all_goals simp_all [Station.SentSince, Station.sent, Request.addsEntity]

theorem launch_since (σ₀ : Station) (pid : String) :
    ⦃fun σ => ⌜σ = σ₀⌝⦄ launch pid
    ⦃post⟨fun _ σ => ⌜σ₀.SentSince σ⌝, fun _ σ => ⌜σ₀.SentSince σ⌝⟩⦄ := by
  have hrequest := @Op.request_sent
  unfold launch
  mvcgen [hrequest, Op.modifyLink_link, Op.link_answers]
  all_goals clear hrequest
  all_goals simp_all [Station.SentSince, Station.sent, Request.addsEntity]

theorem openDocument_since (σ₀ : Station) :
    ⦃fun σ => ⌜σ = σ₀⌝⦄ openDocument
    ⦃post⟨fun _ σ => ⌜σ₀.SentSince σ⌝, fun _ σ => ⌜σ₀.SentSince σ⌝⟩⦄ := by
  have hrequest := @Op.request_sent
  unfold openDocument
  mvcgen [hrequest, Op.modifyLink_link]
  all_goals clear hrequest
  all_goals simp_all [Station.SentSince, Station.sent, Request.addsEntity]

theorem connect_since (σ₀ : Station) :
    ⦃fun σ => ⌜σ = σ₀⌝⦄ connect
    ⦃post⟨fun _ σ => ⌜σ₀.SentSince σ⌝, fun _ σ => ⌜σ₀.SentSince σ⌝⟩⦄ := by
  have hinit := @initLibrary_since
  have hattach := @attach_since
  have hlaunch := @launch_since
  have hopen := @openDocument_since
  unfold connect attempt
  mvcgen -trivial [hinit, Op.link_answers, hattach, hlaunch, hopen]
  all_goals grind [Station.SentSince.trans, Station.SentSince.refl]

end Link

/-- Getting ready connects at most, which adds no entity. -/
theorem Service.ensureReady_since (σ₀ : Station) :
    ⦃fun σ => ⌜σ = σ₀⌝⦄ Service.ensureReady
    ⦃post⟨fun _ σ => ⌜σ₀.SentSince σ⌝, fun _ σ => ⌜σ₀.SentSince σ⌝⟩⦄ := by
  have hconnect := @Link.connect_since
  unfold Service.ensureReady
  mvcgen [Link.alive_answers, hconnect, Op.modifyService]
  all_goals simp_all [Station.SentSince.refl]
  all_goals grind [Station.SentSince, Station.sent]

namespace Link

theorem ensureLayer_grows (σ₀ : Station) (name colour : Value) :
    ⦃fun σ => ⌜σ = σ₀⌝⦄ ensureLayer name colour
    ⦃post⟨fun _ σ => ⌜σ₀.sent.1 <+: σ.sent.1⌝, fun _ σ => ⌜σ₀.sent.1 <+: σ.sent.1⌝⟩⦄ := by
  have hrequest := @Op.request_grows
  unfold ensureLayer attempt
  mvcgen [Op.link_answers, hrequest]
  all_goals grind [List.IsPrefix.trans, List.prefix_refl]

theorem applyProperties_grows (σ₀ : Station) (entity : Nat) (layer colour lineweight : Value) :
    ⦃fun σ => ⌜σ = σ₀⌝⦄ applyProperties entity layer colour lineweight
    ⦃post⟨fun _ σ => ⌜σ₀.sent.1 <+: σ.sent.1⌝, fun _ _ => ⌜False⌝⟩⦄ := by
  have hlayer := @ensureLayer_grows
  have hrequest := @Op.request_grows
  unfold applyProperties attempt
  mvcgen [hlayer, hrequest]
  all_goals clear hlayer hrequest
  all_goals grind [List.IsPrefix.trans, List.prefix_refl]

theorem refresh_grows (σ₀ : Station) :
    ⦃fun σ => ⌜σ = σ₀⌝⦄ refresh
    ⦃post⟨fun _ σ => ⌜σ₀.sent.1 <+: σ.sent.1⌝, fun _ _ => ⌜False⌝⟩⦄ := by
  have hrequest := @Op.request_grows
  unfold refresh attempt
  mvcgen [Op.link_answers, hrequest]
  all_goals grind [List.IsPrefix.trans, List.prefix_refl]

/-- Reading points one after the other reads each as a point and changes nothing; by
induction on the list. -/
theorem mapM_point_reads (σ₀ : Station) (vs : List Value) :
    ⦃fun σ => ⌜σ = σ₀⌝⦄ vs.mapM point
    ⦃post⟨fun ps σ => ⌜σ = σ₀ ∧ vs.mapM Point3.ofValue = .ok ps⌝, fun _ σ => ⌜σ = σ₀⌝⟩⦄ := by
  induction vs generalizing σ₀ with
  | nil =>
    simp only [List.mapM_nil]
    mvcgen
  | cons v vs ih =>
    simp only [List.mapM_cons, point]
    mvcgen [ih]
    all_goals simp_all [bind, Except.bind, pure, Except.pure]

theorem drawLine_carries (σ₀ : Station) (start finish layer colour lineweight : Value) :
    ⦃fun σ => ⌜σ = σ₀⌝⦄ drawLine start finish layer colour lineweight
    ⦃post⟨fun r σ => ⌜r.Carried σ₀.sent.2 σ₀.sent.1 σ.sent.1⌝, fun _ _ => ⌜True⌝⟩⦄ := by
  have hadd := @Op.addEntity_sent
  have hprops := @applyProperties_grows
  have hrefresh := @refresh_grows
  unfold drawLine drawing
  mvcgen [Op.link_answers, hadd, hprops, hrefresh]
  all_goals clear hadd hprops hrefresh
  all_goals simp_all [Reply.Carried, Reply.succeeded, refusal]
  -- the two points read as reals, then the addition and what follows it
  rename_i hs hf _ hgrown hrefreshed
  exact ⟨_, .line (realsOf_point hs.2) (realsOf_point hf.2), hgrown.trans hrefreshed⟩

theorem drawCircle_carries (σ₀ : Station) (center radius layer colour lineweight : Value) :
    ⦃fun σ => ⌜σ = σ₀⌝⦄ drawCircle center radius layer colour lineweight
    ⦃post⟨fun r σ => ⌜r.Carried σ₀.sent.2 σ₀.sent.1 σ.sent.1⌝, fun _ _ => ⌜True⌝⟩⦄ := by
  have hadd := @Op.addEntity_sent
  have hprops := @applyProperties_grows
  have hrefresh := @refresh_grows
  unfold drawCircle drawing
  mvcgen [Op.link_answers, hadd, hprops, hrefresh]
  all_goals clear hadd hprops hrefresh
  all_goals simp_all [Reply.Carried, Reply.succeeded, refusal]
  rename_i hc _ hgrown hrefreshed
  exact ⟨_, .circle (realsOf_point hc.2), hgrown.trans hrefreshed⟩

theorem drawArc_carries (σ₀ : Station) (center radius startAngle endAngle layer colour lineweight : Value) :
    ⦃fun σ => ⌜σ = σ₀⌝⦄ drawArc center radius startAngle endAngle layer colour lineweight
    ⦃post⟨fun r σ => ⌜r.Carried σ₀.sent.2 σ₀.sent.1 σ.sent.1⌝, fun _ _ => ⌜True⌝⟩⦄ := by
  have hadd := @Op.addEntity_sent
  have hprops := @applyProperties_grows
  have hrefresh := @refresh_grows
  unfold drawArc drawing
  mvcgen [Op.link_answers, hadd, hprops, hrefresh]
  all_goals clear hadd hprops hrefresh
  all_goals simp_all [Reply.Carried, Reply.succeeded, refusal]
  rename_i hc hs ht _ hgrown hrefreshed
  exact ⟨_, .arc (realsOf_point hc.2) hs.2 ht.2, hgrown.trans hrefreshed⟩

theorem drawText_carries (σ₀ : Station) (position content height rotation layer colour : Value) :
    ⦃fun σ => ⌜σ = σ₀⌝⦄ drawText position content height rotation layer colour
    ⦃post⟨fun r σ => ⌜r.Carried σ₀.sent.2 σ₀.sent.1 σ.sent.1⌝, fun _ _ => ⌜True⌝⟩⦄ := by
  have hadd := @Op.addEntity_sent
  have hrequest := @Op.request_sent
  have hprops := @applyProperties_grows
  have hrefresh := @refresh_grows
  unfold drawText drawing
  mvcgen [Op.link_answers, hadd, hrequest, hprops, hrefresh]
  all_goals clear hadd hrequest hprops hrefresh
  all_goals simp_all [Reply.Carried, Reply.succeeded, refusal]
  -- the text is added and turned at once, before its properties are written
  rename_i hp _ ht _ hgrown hrefreshed
  exact ⟨_, .text (realsOf_point hp.2) ht.2, by simpa using hgrown.trans hrefreshed⟩

theorem addDimension_carries (σ₀ : Station) (start finish label layer colour : Value) :
    ⦃fun σ => ⌜σ = σ₀⌝⦄ addDimension start finish label layer colour
    ⦃post⟨fun r σ => ⌜r.Carried σ₀.sent.2 σ₀.sent.1 σ.sent.1⌝, fun _ _ => ⌜True⌝⟩⦄ := by
  have hadd := @Op.addEntity_sent
  have hprops := @applyProperties_grows
  have hrefresh := @refresh_grows
  unfold addDimension drawing
  mvcgen [Op.link_answers, hadd, hprops, hrefresh]
  all_goals clear hadd hprops hrefresh
  all_goals simp_all [Reply.Carried, Reply.succeeded, refusal]
  rename_i hs hf hl _ _ _ _ hgrown hrefreshed
  exact ⟨_, .dimension (realsOf_point hs.2) (realsOf_point hf.2) (realsOf_point hl.2),
    hgrown.trans hrefreshed⟩

theorem drawPolyline_carries (σ₀ : Station) (points closed layer colour lineweight : Value) :
    ⦃fun σ => ⌜σ = σ₀⌝⦄ drawPolyline points closed layer colour lineweight
    ⦃post⟨fun r σ => ⌜r.Carried σ₀.sent.2 σ₀.sent.1 σ.sent.1 ∧ r.ReadFrom points closed⌝,
      fun _ _ => ⌜True⌝⟩⦄ := by
  have hpoints := @mapM_point_reads
  have hadd := @Op.addEntity_sent
  have hrequest := @Op.request_sent
  have hprops := @applyProperties_grows
  have hrefresh := @refresh_grows
  unfold drawPolyline
  mvcgen [Op.link_answers, hpoints, hadd, hrequest, hprops, hrefresh]
  all_goals clear hpoints hadd hrequest hprops hrefresh
  all_goals simp_all [Reply.Carried, Reply.ReadFrom, Reply.succeeded, refusal]
  -- closed: the polyline is added and closed at once
  · rename_i hxs hclosed _ _ hgrown hrefreshed
    exact ⟨_, .polyline (realsOf_coords hxs.2), by simpa [hclosed] using hgrown.trans hrefreshed⟩
  -- open: the polyline is added alone
  · rename_i hxs hclosed _ hgrown hrefreshed
    exact ⟨_, .polyline (realsOf_coords hxs.2), by simpa [hclosed] using hgrown.trans hrefreshed⟩

theorem drawRectangle_carries (σ₀ : Station) (corner1 corner2 layer colour lineweight : Value) :
    ⦃fun σ => ⌜σ = σ₀⌝⦄ drawRectangle corner1 corner2 layer colour lineweight
    ⦃post⟨fun r σ => ⌜r.Carried σ₀.sent.2 σ₀.sent.1 σ.sent.1⌝, fun _ _ => ⌜True⌝⟩⦄ := by
  have hpolyline := @drawPolyline_carries
  unfold drawRectangle
  mvcgen [hpolyline]
  all_goals simp_all [Reply.Carried, Reply.ReadFrom, Reply.succeeded]
  rename_i hpolyline
  obtain ⟨⟨pre, hcarries, hpre⟩, vs, hvs, ps, hps, rfl⟩ := hpolyline
  -- the polyline went through the corners, written as triples and read back
  simp only [Value.elements, Except.ok.injEq] at hvs
  rw [← hvs, Point3.mapM_ofValue_toValue, Except.ok.injEq] at hps
  subst hps
  cases hcarries with
  | polyline hxs => exact ⟨_, .rectangle hxs, by simpa [Value.truthy] using hpre⟩

theorem drawEllipse_carries (σ₀ : Station) (center major minor rotation layer colour lineweight : Value) :
    ⦃fun σ => ⌜σ = σ₀⌝⦄ drawEllipse center major minor rotation layer colour lineweight
    ⦃post⟨fun r σ => ⌜r.Carried σ₀.sent.2 σ₀.sent.1 σ.sent.1⌝, fun _ _ => ⌜True⌝⟩⦄ := by
  have hadd := @Op.addEntity_sent
  have hprops := @applyProperties_grows
  have hrefresh := @refresh_grows
  unfold drawEllipse drawing
  mvcgen [Op.link_answers, hadd, hprops, hrefresh]
  all_goals clear hadd hprops hrefresh
  all_goals simp_all [Reply.Carried, Reply.succeeded, refusal]
  -- a positive major axis: the ratio is the quotient of the axes, cut down to one
  · rename_i hc _ hle _ _ ha hb ht hax hpos hay hratio _ hgrown hrefreshed
    exact ⟨_, .ellipse (realsOf_point hc.2) (num?_of_numeric ha.2) (num?_of_numeric hb.2) ht.2
      (axis_of_guarded hax.2) (axis_of_guarded hay.2) (.of_positive hpos hratio.2),
      hgrown.trans hrefreshed⟩
  -- a major axis that is not a number: the ratio is zero
  · rename_i hc _ hle _ _ ha hb ht hax hgt hay _ hgrown hrefreshed
    exact ⟨_, .ellipse (realsOf_point hc.2) (num?_of_numeric ha.2) (num?_of_numeric hb.2) ht.2
      (axis_of_guarded hax.2) (axis_of_guarded hay.2)
      (.of_unordered hgt hle.2 (num?_of_numeric ha.2)), hgrown.trans hrefreshed⟩

end Link

/-- An answer that reports success reports an entity, and the journal `J'` holds, after the
requests `J` sent before and the requests `mid` sent in between, the requests that carry that
entity. -/
def Reply.CarriedAfter (n : Nat) (J : List Request) (r : Reply) (J' : List Request) : Prop :=
  r.succeeded = true →
    ∃ e mid pre, r = .drawn e ∧ Carries (n + 1) e pre ∧ J ++ mid ++ pre <+: J'

@[simp] theorem Reply.carriedAfter_refused (n : Nat) (J J' : List Request) (reason : String) :
    (Reply.refused reason).CarriedAfter n J J' := by
  simp [Reply.CarriedAfter, Reply.succeeded]

/-- A drawing run on a station that has only sent more requests since `σ₀`, and added no
entity, carries its entity after what `σ₀` had sent. -/
theorem Reply.Carried.after {σ₀ σ₁ : Station} {r : Reply} {J' : List Request}
    (hsince : σ₀.SentSince σ₁) (h : r.Carried σ₁.sent.2 σ₁.sent.1 J') :
    r.CarriedAfter σ₀.sent.2 σ₀.sent.1 J' := by
  intro hsuccess
  obtain ⟨e, pre, rfl, hcarries, hpre⟩ := h hsuccess
  obtain ⟨mid, hmid⟩ := hsince.1
  refine ⟨e, mid, pre, rfl, hsince.2 ▸ hcarries, ?_⟩
  rw [hmid]
  exact hpre

/-- An answer as an object, read as `Reply.CarriedAfter` reads the reply: when it reports
success, it reports an entity whose geometry the requests sent after `J` carry. -/
def Value.Carried (n : Nat) (J : List Request) (v : Value) (J' : List Request) : Prop :=
  v.reportsSuccess = true →
    ∃ e mid pre, v = (Reply.drawn e).toValue ∧ Carries (n + 1) e pre ∧ J ++ mid ++ pre <+: J'

@[simp] theorem Value.carried_null (n : Nat) (J J' : List Request) : Value.null.Carried n J J' := by
  simp [Value.Carried, Value.reportsSuccess]

/-- A direct call's answer carries its entity right after what was sent before it. -/
theorem Reply.Carried.toValue {n : Nat} {J J' : List Request} {r : Reply}
    (h : r.Carried n J J') : r.toValue.Carried n J J' := by
  intro hsuccess
  rw [Reply.reportsSuccess_toValue] at hsuccess
  obtain ⟨e, pre, rfl, hcarries, hpre⟩ := h hsuccess
  exact ⟨e, [], pre, rfl, hcarries, by simpa using hpre⟩

theorem Reply.CarriedAfter.toValue {n : Nat} {J J' : List Request} {r : Reply}
    (h : r.CarriedAfter n J J') : r.toValue.Carried n J J' := by
  intro hsuccess
  rw [Reply.reportsSuccess_toValue] at hsuccess
  obtain ⟨e, mid, pre, rfl, hcarries, hpre⟩ := h hsuccess
  exact ⟨e, mid, pre, rfl, hcarries, hpre⟩

theorem Service.drawChecked_carries (σ₀ : Station) (room : Nat) (colour : Value)
    (shown : List Value) (command : Unit → String) (body : Op Reply)
    (hbody : ∀ σ₁, ⦃fun σ => ⌜σ = σ₁⌝⦄ body
      ⦃post⟨fun r σ => ⌜r.Carried σ₁.sent.2 σ₁.sent.1 σ.sent.1⌝, fun _ _ => ⌜True⌝⟩⦄) :
    ⦃fun σ => ⌜σ = σ₀⌝⦄ Service.drawChecked room colour shown command body
    ⦃post⟨fun r σ => ⌜r.CarriedAfter σ₀.sent.2 σ₀.sent.1 σ.sent.1⌝, fun _ _ => ⌜True⌝⟩⦄ := by
  have hready := @Service.ensureReady_since
  unfold Service.drawChecked
  mvcgen [hready, hbody, Op.modifyService]
  all_goals clear hbody
  all_goals simp_all
  -- recording the entity changes the service alone, so the body's journal is the last
  all_goals exact Reply.Carried.after ‹_› ‹_›

namespace Service

theorem drawLine_carries (σ₀ : Station) (room : Nat) (start finish layer colour lineweight : Value) :
    ⦃fun σ => ⌜σ = σ₀⌝⦄ drawLine room start finish layer colour lineweight
    ⦃post⟨fun r σ => ⌜r.CarriedAfter σ₀.sent.2 σ₀.sent.1 σ.sent.1⌝, fun _ _ => ⌜True⌝⟩⦄ := by
  have hchecked := @drawChecked_carries
  have hline := @Link.drawLine_carries
  unfold drawLine
  mvcgen [hchecked, hline]
  all_goals clear hchecked hline
  all_goals simp_all

theorem drawCircle_carries (σ₀ : Station) (room : Nat) (center radius layer colour lineweight : Value) :
    ⦃fun σ => ⌜σ = σ₀⌝⦄ drawCircle room center radius layer colour lineweight
    ⦃post⟨fun r σ => ⌜r.CarriedAfter σ₀.sent.2 σ₀.sent.1 σ.sent.1⌝, fun _ _ => ⌜True⌝⟩⦄ := by
  have hchecked := @drawChecked_carries
  have hcircle := @Link.drawCircle_carries
  unfold drawCircle
  mvcgen [hchecked, hcircle]
  all_goals clear hchecked hcircle
  all_goals simp_all

theorem drawArc_carries (σ₀ : Station) (room : Nat) (center radius startAngle endAngle layer colour lineweight : Value) :
    ⦃fun σ => ⌜σ = σ₀⌝⦄ drawArc room center radius startAngle endAngle layer colour lineweight
    ⦃post⟨fun r σ => ⌜r.CarriedAfter σ₀.sent.2 σ₀.sent.1 σ.sent.1⌝, fun _ _ => ⌜True⌝⟩⦄ := by
  have hchecked := @drawChecked_carries
  have harc := @Link.drawArc_carries
  unfold drawArc
  mvcgen [hchecked, harc]
  all_goals clear hchecked harc
  all_goals simp_all

theorem drawEllipse_carries (σ₀ : Station) (room : Nat) (center major minor rotation layer colour lineweight : Value) :
    ⦃fun σ => ⌜σ = σ₀⌝⦄ drawEllipse room center major minor rotation layer colour lineweight
    ⦃post⟨fun r σ => ⌜r.CarriedAfter σ₀.sent.2 σ₀.sent.1 σ.sent.1⌝, fun _ _ => ⌜True⌝⟩⦄ := by
  have hchecked := @drawChecked_carries
  have hellipse := @Link.drawEllipse_carries
  unfold drawEllipse
  mvcgen [hchecked, hellipse]
  all_goals clear hchecked hellipse
  all_goals simp_all

theorem drawPolyline_carries (σ₀ : Station) (room : Nat) (points closed layer colour lineweight : Value) :
    ⦃fun σ => ⌜σ = σ₀⌝⦄ drawPolyline room points closed layer colour lineweight
    ⦃post⟨fun r σ => ⌜r.CarriedAfter σ₀.sent.2 σ₀.sent.1 σ.sent.1⌝, fun _ _ => ⌜True⌝⟩⦄ := by
  have hchecked := @drawChecked_carries
  have hpolyline := @Link.drawPolyline_carries
  unfold drawPolyline
  mvcgen [hchecked, hpolyline]
  all_goals clear hchecked hpolyline
  all_goals simp_all

theorem drawRectangle_carries (σ₀ : Station) (room : Nat) (corner1 corner2 layer colour lineweight : Value) :
    ⦃fun σ => ⌜σ = σ₀⌝⦄ drawRectangle room corner1 corner2 layer colour lineweight
    ⦃post⟨fun r σ => ⌜r.CarriedAfter σ₀.sent.2 σ₀.sent.1 σ.sent.1⌝, fun _ _ => ⌜True⌝⟩⦄ := by
  have hchecked := @drawChecked_carries
  have hrectangle := @Link.drawRectangle_carries
  unfold drawRectangle
  mvcgen [hchecked, hrectangle]
  all_goals clear hchecked hrectangle
  all_goals simp_all

theorem drawText_carries (σ₀ : Station) (room : Nat) (position content height rotation layer colour : Value) :
    ⦃fun σ => ⌜σ = σ₀⌝⦄ drawText room position content height rotation layer colour
    ⦃post⟨fun r σ => ⌜r.CarriedAfter σ₀.sent.2 σ₀.sent.1 σ.sent.1⌝, fun _ _ => ⌜True⌝⟩⦄ := by
  have hchecked := @drawChecked_carries
  have htext := @Link.drawText_carries
  unfold drawText
  mvcgen [hchecked, htext]
  all_goals clear hchecked htext
  all_goals simp_all

theorem addDimension_carries (σ₀ : Station) (room : Nat) (start finish label layer colour : Value) :
    ⦃fun σ => ⌜σ = σ₀⌝⦄ addDimension room start finish label layer colour
    ⦃post⟨fun r σ => ⌜r.CarriedAfter σ₀.sent.2 σ₀.sent.1 σ.sent.1⌝, fun _ _ => ⌜True⌝⟩⦄ := by
  have hchecked := @drawChecked_carries
  have hdimension := @Link.addDimension_carries
  unfold addDimension
  mvcgen [hchecked, hdimension]
  all_goals clear hchecked hdimension
  all_goals simp_all

end Service

/-- The drawing operations that send a geometry, by the names a call gives them: all but the
hatch, whose report holds no points. -/
def geometryOperations : List String :=
  ["draw_line", "draw_circle", "draw_arc", "draw_ellipse", "draw_polyline", "draw_rectangle",
    "draw_text", "add_dimension"]

theorem Session.callLink_carries (σ₀ : Station) (op : String) (hop : op ∈ geometryOperations)
    (args : List (String × Value)) :
    ⦃fun σ => ⌜σ = σ₀⌝⦄ Session.callLink op args
    ⦃post⟨fun v σ => ⌜v.Carried σ₀.sent.2 σ₀.sent.1 σ.sent.1⌝, fun _ _ => ⌜True⌝⟩⦄ := by
  have hline := @Link.drawLine_carries
  have hcircle := @Link.drawCircle_carries
  have harc := @Link.drawArc_carries
  have hellipse := @Link.drawEllipse_carries
  have hpolyline := @Link.drawPolyline_carries
  have hrectangle := @Link.drawRectangle_carries
  have htext := @Link.drawText_carries
  have hdimension := @Link.addDimension_carries
  simp only [geometryOperations, List.mem_cons, List.not_mem_nil, or_false] at hop
  -- one case for each drawing operation; simp picks its branch of the call by name, so that
  -- mvcgen meets that operation alone
  rcases hop with rfl | rfl | rfl | rfl | rfl | rfl | rfl | rfl
  all_goals
    simp only [Session.callLink]
    mvcgen [Session.bound, hline, hcircle, harc, hellipse, hpolyline, hrectangle, htext, hdimension]
  all_goals clear hline hcircle harc hellipse hpolyline hrectangle htext hdimension
  all_goals simp_all [Value.carried_null]
  -- each answer is its operation's reply as an object
  all_goals grind [Reply.Carried.toValue]

theorem Session.callService_carries (σ₀ : Station) (op : String) (hop : op ∈ geometryOperations)
    (args : List (String × Value)) :
    ⦃fun σ => ⌜σ = σ₀⌝⦄ Session.callService op args
    ⦃post⟨fun v σ => ⌜v.Carried σ₀.sent.2 σ₀.sent.1 σ.sent.1⌝, fun _ _ => ⌜True⌝⟩⦄ := by
  have hline := @Service.drawLine_carries
  have hcircle := @Service.drawCircle_carries
  have harc := @Service.drawArc_carries
  have hellipse := @Service.drawEllipse_carries
  have hpolyline := @Service.drawPolyline_carries
  have hrectangle := @Service.drawRectangle_carries
  have htext := @Service.drawText_carries
  have hdimension := @Service.addDimension_carries
  simp only [geometryOperations, List.mem_cons, List.not_mem_nil, or_false] at hop
  rcases hop with rfl | rfl | rfl | rfl | rfl | rfl | rfl | rfl
  all_goals
    simp only [Session.callService]
    mvcgen [Session.bound, hline, hcircle, harc, hellipse, hpolyline, hrectangle, htext, hdimension]
  all_goals clear hline hcircle harc hellipse hpolyline hrectangle htext hdimension
  all_goals simp_all [Value.carried_null]
  all_goals grind [Reply.CarriedAfter.toValue]

/-- The geometry a drawing sends is the geometry it reports.  A drawing with a geometry,
called on the connection or on the service, that reports success reports an entity whose
geometry the requests it sent carry (`Carries`): every array of reals holds the reals of the
reported coordinates, three to a point; the angles are the radians of the reported degrees; a
rectangle is a polyline through its reported corners, closed next; and an ellipse is sent its
major axis turned by the reported rotation and the ratio of its axes cut down to one. -/
theorem geometry_sent_as_reported (σ₀ : Station) (op : String) (hop : op ∈ geometryOperations)
    (args : List (String × Value)) :
    ⦃fun σ => ⌜σ = σ₀⌝⦄ Session.callLink op args
      ⦃post⟨fun v σ => ⌜v.Carried σ₀.sent.2 σ₀.sent.1 σ.sent.1⌝, fun _ _ => ⌜True⌝⟩⦄ ∧
    ⦃fun σ => ⌜σ = σ₀⌝⦄ Session.callService op args
      ⦃post⟨fun v σ => ⌜v.Carried σ₀.sent.2 σ₀.sent.1 σ.sent.1⌝, fun _ _ => ⌜True⌝⟩⦄ :=
  ⟨Session.callLink_carries σ₀ op hop args, Session.callService_carries σ₀ op hop args⟩

/-- The promise at work on an ellipse whose minor axis is the longer, drawn on a connected
station, on the connection and through the service. -/
theorem geometry_sent_as_reported_ellipse :
    let σ₀ : Station := ⟨{}, ⟨"/work", [], .empty, .empty⟩,
      { Service.ofSettings Settings.shipped with
        link := ⟨.section Settings.shipped.cad, true, true, true, true⟩ }⟩
    let args := [("center", .list [.int 0, .int 0]), ("major_axis", .int 1), ("minor_axis", .int 2)]
    "draw_ellipse" ∈ geometryOperations ∧
    ⦃fun σ => ⌜σ = σ₀⌝⦄ Session.callLink "draw_ellipse" args
      ⦃post⟨fun v σ => ⌜v.Carried σ₀.sent.2 σ₀.sent.1 σ.sent.1⌝, fun _ _ => ⌜True⌝⟩⦄ ∧
    ⦃fun σ => ⌜σ = σ₀⌝⦄ Session.callService "draw_ellipse" args
      ⦃post⟨fun v σ => ⌜v.Carried σ₀.sent.2 σ₀.sent.1 σ.sent.1⌝, fun _ _ => ⌜True⌝⟩⦄ :=
  ⟨by decide, geometry_sent_as_reported _ "draw_ellipse" (by decide) _⟩

end Drafting

namespace Drafting

/-- A coordinate past the integers a double holds exactly is sent rounded: a line from
(2⁵³ + 1, 0) is reported from that integer, but the application is sent the double 2⁵³,
which an exact comparison finds below it. -/
theorem line_sent_rounded :
    let σ : Station := ⟨{}, ⟨"/work", [], .empty, .empty⟩,
      { Service.ofSettings Settings.shipped with
        link := ⟨.section Settings.shipped.cad, true, true, true, true⟩ }⟩
    let run := (Session.callLink "draw_line"
      [("start", .list [.int 9007199254740993, .int 0]), ("end", .list [.int 1, .int 1])]).run.run σ
    run.1 = .ok (Reply.drawn (.line ⟨.int 9007199254740993, .int 0, .float 0.0⟩
        ⟨.int 1, .int 1, .float 0.0⟩)).toValue ∧
      run.2.host.journal.toList.head? =
        some (.addLine [9007199254740992.0, 0.0, 0.0] [1.0, 1.0, 0.0]) ∧
      Num.compareFloatInt 9007199254740992.0 9007199254740993 = some .lt := by
  refine ⟨?_, ?_, ?_⟩
  · with_unfolding_all exact rfl
  · with_unfolding_all exact rfl
  · decide +kernel

end Drafting
