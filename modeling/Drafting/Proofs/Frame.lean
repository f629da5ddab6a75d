import Mathlib
import Drafting.Session

/-!
# What the connection leaves alone

An operation of the connection reads and writes the drawing application, the disk and
the connection itself, and nothing else: the service's settings, its record of the
drawing and whether it counts itself ready stay as they were, whether the operation
answers or stops with a fault.  `Station.rest` is that untouched part.

Each operation has a specification saying that it keeps `Station.rest`, tagged `spec`
so that `mvcgen` assembles the specification of an operation from those of its parts.
The drawing operations also say what they answer: when they report success, they report
an entity of their own kind; saving reports a path.  `Op.run_of_triple` reads a
specification back as a fact about one run.
-/

namespace Drafting

open Std.Do

set_option mvcgen.warning false

/-- The part of the station no operation of the connection changes: the service's
settings, its record and whether it counts itself ready. -/
def Station.rest (σ : Station) : Settings × Drawing × Bool :=
  (σ.service.settings, σ.service.drawing, σ.service.ready)

/-- A specification of an operation holds of each run from a state meeting its
precondition. -/
theorem Op.run_of_triple {α : Type} {op : Op α} {P : Station → Prop}
    {Q : Except Fault α → Station → Prop}
    (h : ⦃fun σ => ⌜P σ⌝⦄ op ⦃post⟨fun a σ => ⌜Q (.ok a) σ⌝, fun e σ => ⌜Q (.error e) σ⌝⟩⦄)
    {σ : Station} (hσ : P σ) : Q (op.run.run σ).1 (op.run.run σ).2 := by
  have hwp : ⊢ₛ wp⟦op.run⟧ (⇓ r σ' => ⌜Q r σ'⌝) σ := by
    simp only [WP.ExceptT_run]
    exact fun _ => h σ hσ
  exact @StateM.of_wp_run_eq _ _ _ _ op.run rfl (fun x => Q x.1 x.2) hwp

/-- What the application grants is its record of the request. -/
theorem Host.grant_eq_record {h h' : Host} {r : Request} (hgrant : h.grant r = .ok h') :
    h' = h.record r := by
  unfold Host.grant at hgrant
  split at hgrant
  · split at hgrant <;> simp_all
  · simp_all

/-- An answer a drawing operation of the given kind can give: when it reports success, it
reports an entity of that kind. -/
def Reply.Draws (kind : String) (r : Reply) : Prop :=
  r.succeeded = true → ∃ e, r = .drawn e ∧ e.kind = kind

/-- An answer saving can give: when it reports success, it reports the path saved. -/
def Reply.Saves (r : Reply) : Prop :=
  r.succeeded = true → ∃ path, r = .saved path

namespace Op

/-- Reading the connection changes nothing and never faults. -/
@[spec low] theorem link_keeps (σ₀ : Station) :
    ⦃fun σ => ⌜σ = σ₀⌝⦄ link ⦃post⟨fun _ σ => ⌜σ = σ₀⌝, fun _ _ => ⌜False⌝⟩⦄ := by
  mvcgen [link]

/-- A computation that may fail answers its value or stops with its fault, and changes
nothing. -/
@[spec low] theorem lift_keeps {α : Type} (σ₀ : Station) (e : Except Fault α) :
    ⦃fun σ => ⌜σ = σ₀⌝⦄ lift e
    ⦃post⟨fun a σ => ⌜σ = σ₀ ∧ e = .ok a⌝, fun f σ => ⌜σ = σ₀ ∧ e = .error f⌝⟩⦄ := by
  mvcgen [lift]

/-- Lifting a computation whose every result satisfies `Q` answers a value satisfying `Q`,
and changes nothing. -/
theorem lift_of_ok {α : Type} (σ₀ : Station) (e : Except Fault α) (Q : α → Prop)
    (hQ : ∀ a, e = .ok a → Q a) :
    ⦃fun σ => ⌜σ = σ₀⌝⦄ lift e ⦃post⟨fun a σ => ⌜σ = σ₀ ∧ Q a⌝, fun _ σ => ⌜σ = σ₀⌝⟩⦄ := by
  mvcgen
  all_goals intro hσ he
  · exact ⟨hσ.trans ‹_›, hQ _ he⟩
  · exact hσ.trans ‹_›

variable (x : Settings × Drawing × Bool)

@[spec low] theorem request_rest (r : Request) :
    ⦃fun σ => ⌜σ.rest = x⌝⦄ request r ⦃post⟨fun _ σ => ⌜σ.rest = x⌝, fun _ σ => ⌜σ.rest = x⌝⟩⦄ := by
  mvcgen [request]

@[spec low] theorem addEntity_rest (r : Request) :
    ⦃fun σ => ⌜σ.rest = x⌝⦄ addEntity r ⦃post⟨fun _ σ => ⌜σ.rest = x⌝, fun _ σ => ⌜σ.rest = x⌝⟩⦄ := by
  mvcgen [addEntity] <;> simp_all

@[spec low] theorem modifyLink_rest (f : Link → Link) :
    ⦃fun σ => ⌜σ.rest = x⌝⦄ modifyLink f
    ⦃post⟨fun _ σ => ⌜σ.rest = x⌝, fun _ σ => ⌜σ.rest = x⌝⟩⦄ := by
  mvcgen [modifyLink]



/-- Running an operation that changes nothing on each item of a list changes nothing; by
induction on the list. -/
theorem mapM_keeps {α β : Type} (f : α → Op β)
    (hf : ∀ σ₀ a, ⦃fun σ => ⌜σ = σ₀⌝⦄ f a ⦃post⟨fun _ σ => ⌜σ = σ₀⌝, fun _ σ => ⌜σ = σ₀⌝⟩⦄)
    (σ₀ : Station) (xs : List α) :
    ⦃fun σ => ⌜σ = σ₀⌝⦄ xs.mapM f ⦃post⟨fun _ σ => ⌜σ = σ₀⌝, fun _ σ => ⌜σ = σ₀⌝⟩⦄ := by
  induction xs with
  | nil => mvcgen
  | cons a xs ih =>
    simp only [List.mapM_cons]
    mvcgen [hf, ih] <;> simp_all

end Op

/-- Lifting a point changes nothing. -/
@[spec low] theorem Link.point_keeps (σ₀ : Station) (v : Value) :
    ⦃fun σ => ⌜σ = σ₀⌝⦄ Link.point v ⦃post⟨fun _ σ => ⌜σ = σ₀⌝, fun _ σ => ⌜σ = σ₀⌝⟩⦄ := by
  mvcgen [Link.point] <;> simp_all

namespace Link

variable (x : Settings × Drawing × Bool)

@[spec low] theorem initLibrary_rest :
    ⦃fun σ => ⌜σ.rest = x⌝⦄ initLibrary ⦃post⟨fun _ σ => ⌜σ.rest = x⌝, fun _ σ => ⌜σ.rest = x⌝⟩⦄ := by
  mvcgen [initLibrary, attempt] <;> simp_all

@[spec low] theorem releaseLibrary_rest :
    ⦃fun σ => ⌜σ.rest = x⌝⦄ releaseLibrary
    ⦃post⟨fun _ σ => ⌜σ.rest = x⌝, fun _ σ => ⌜σ.rest = x⌝⟩⦄ := by
  mvcgen [releaseLibrary, attempt] <;> simp_all

@[spec low] theorem attach_rest (pid : String) :
    ⦃fun σ => ⌜σ.rest = x⌝⦄ attach pid ⦃post⟨fun _ σ => ⌜σ.rest = x⌝, fun _ σ => ⌜σ.rest = x⌝⟩⦄ := by
  mvcgen [attach] <;> simp_all

@[spec low] theorem launch_rest (pid : String) :
    ⦃fun σ => ⌜σ.rest = x⌝⦄ launch pid ⦃post⟨fun _ σ => ⌜σ.rest = x⌝, fun _ σ => ⌜σ.rest = x⌝⟩⦄ := by
  mvcgen [launch] <;> simp_all

@[spec low] theorem openDocument_rest :
    ⦃fun σ => ⌜σ.rest = x⌝⦄ openDocument ⦃post⟨fun _ σ => ⌜σ.rest = x⌝, fun _ σ => ⌜σ.rest = x⌝⟩⦄ := by
  mvcgen [openDocument] <;> simp_all

@[spec low] theorem connect_rest :
    ⦃fun σ => ⌜σ.rest = x⌝⦄ connect ⦃post⟨fun _ σ => ⌜σ.rest = x⌝, fun _ σ => ⌜σ.rest = x⌝⟩⦄ := by
  mvcgen -trivial [connect, attempt] <;> simp_all

@[spec low] theorem alive_rest :
    ⦃fun σ => ⌜σ.rest = x⌝⦄ alive ⦃post⟨fun _ σ => ⌜σ.rest = x⌝, fun _ σ => ⌜σ.rest = x⌝⟩⦄ := by
  mvcgen [alive]
  simp_all

@[spec low] theorem close_rest :
    ⦃fun σ => ⌜σ.rest = x⌝⦄ close ⦃post⟨fun _ σ => ⌜σ.rest = x⌝, fun _ σ => ⌜σ.rest = x⌝⟩⦄ := by
  mvcgen [close] <;> simp_all

@[spec low] theorem reset_rest (config : Value) :
    ⦃fun σ => ⌜σ.rest = x⌝⦄ reset config ⦃post⟨fun _ σ => ⌜σ.rest = x⌝, fun _ σ => ⌜σ.rest = x⌝⟩⦄ := by
  mvcgen [reset]

@[spec low] theorem refresh_rest :
    ⦃fun σ => ⌜σ.rest = x⌝⦄ refresh ⦃post⟨fun _ σ => ⌜σ.rest = x⌝, fun _ σ => ⌜σ.rest = x⌝⟩⦄ := by
  mvcgen [refresh, attempt] <;> simp_all

@[spec low] theorem ensureLayer_rest (name colour : Value) :
    ⦃fun σ => ⌜σ.rest = x⌝⦄ ensureLayer name colour
    ⦃post⟨fun _ σ => ⌜σ.rest = x⌝, fun _ σ => ⌜σ.rest = x⌝⟩⦄ := by
  mvcgen [ensureLayer, attempt] <;> simp_all

@[spec low] theorem applyProperties_rest (entity : Nat) (layer colour lineweight : Value) :
    ⦃fun σ => ⌜σ.rest = x⌝⦄ applyProperties entity layer colour lineweight
    ⦃post⟨fun _ σ => ⌜σ.rest = x⌝, fun _ σ => ⌜σ.rest = x⌝⟩⦄ := by
  mvcgen [applyProperties, attempt] <;> simp_all

@[spec low] theorem applyToValue_rest (layer : Value) :
    ⦃fun σ => ⌜σ.rest = x⌝⦄ applyToValue layer
    ⦃post⟨fun _ σ => ⌜σ.rest = x⌝, fun _ σ => ⌜σ.rest = x⌝⟩⦄ := by
  mvcgen [applyToValue] <;> simp_all


/-- Lifting each of a list of points changes nothing. -/
@[spec low] theorem mapM_point_keeps (σ₀ : Station) (vs : List Value) :
    ⦃fun σ => ⌜σ = σ₀⌝⦄ vs.mapM point ⦃post⟨fun _ σ => ⌜σ = σ₀⌝, fun _ σ => ⌜σ = σ₀⌝⟩⦄ :=
  Op.mapM_keeps point point_keeps σ₀ vs

@[spec low] theorem drawLine_rest (start finish layer colour lineweight : Value) :
    ⦃fun σ => ⌜σ.rest = x⌝⦄ drawLine start finish layer colour lineweight
    ⦃post⟨fun r σ => ⌜σ.rest = x ∧ r.Draws "line"⌝, fun _ σ => ⌜σ.rest = x⌝⟩⦄ := by
  mvcgen [drawLine, drawing] <;> simp_all [Reply.Draws, Reply.succeeded, Entity.kind, refusal]

@[spec low] theorem drawCircle_rest (center radius layer colour lineweight : Value) :
    ⦃fun σ => ⌜σ.rest = x⌝⦄ drawCircle center radius layer colour lineweight
    ⦃post⟨fun r σ => ⌜σ.rest = x ∧ r.Draws "circle"⌝, fun _ σ => ⌜σ.rest = x⌝⟩⦄ := by
  mvcgen [drawCircle, drawing] <;> simp_all [Reply.Draws, Reply.succeeded, Entity.kind, refusal]

@[spec low] theorem drawArc_rest (center radius startAngle endAngle layer colour lineweight : Value) :
    ⦃fun σ => ⌜σ.rest = x⌝⦄ drawArc center radius startAngle endAngle layer colour lineweight
    ⦃post⟨fun r σ => ⌜σ.rest = x ∧ r.Draws "arc"⌝, fun _ σ => ⌜σ.rest = x⌝⟩⦄ := by
  mvcgen [drawArc, drawing] <;> simp_all [Reply.Draws, Reply.succeeded, Entity.kind, refusal]

@[spec low] theorem drawEllipse_rest (center major minor rotation layer colour lineweight : Value) :
    ⦃fun σ => ⌜σ.rest = x⌝⦄ drawEllipse center major minor rotation layer colour lineweight
    ⦃post⟨fun r σ => ⌜σ.rest = x ∧ r.Draws "ellipse"⌝, fun _ σ => ⌜σ.rest = x⌝⟩⦄ := by
  mvcgen [drawEllipse, drawing] <;> simp_all [Reply.Draws, Reply.succeeded, Entity.kind, refusal]

@[spec low] theorem drawPolyline_rest (points closed layer colour lineweight : Value) :
    ⦃fun σ => ⌜σ.rest = x⌝⦄ drawPolyline points closed layer colour lineweight
    ⦃post⟨fun r σ => ⌜σ.rest = x ∧ r.Draws "polyline"⌝, fun _ σ => ⌜σ.rest = x⌝⟩⦄ := by
  mvcgen [drawPolyline] <;> simp_all [Reply.Draws, Reply.succeeded, Entity.kind, refusal]

@[spec low] theorem drawRectangle_rest (corner1 corner2 layer colour lineweight : Value) :
    ⦃fun σ => ⌜σ.rest = x⌝⦄ drawRectangle corner1 corner2 layer colour lineweight
    ⦃post⟨fun r σ => ⌜σ.rest = x ∧ r.Draws "rectangle"⌝, fun _ σ => ⌜σ.rest = x⌝⟩⦄ := by
  mvcgen [drawRectangle] <;> simp_all [Reply.Draws, Reply.succeeded, Entity.kind]

@[spec low] theorem drawText_rest (position content height rotation layer colour : Value) :
    ⦃fun σ => ⌜σ.rest = x⌝⦄ drawText position content height rotation layer colour
    ⦃post⟨fun r σ => ⌜σ.rest = x ∧ r.Draws "text"⌝, fun _ σ => ⌜σ.rest = x⌝⟩⦄ := by
  mvcgen [drawText, drawing] <;> simp_all [Reply.Draws, Reply.succeeded, Entity.kind, refusal]

@[spec low] theorem drawHatch_rest (boundary pattern scale layer colour : Value) :
    ⦃fun σ => ⌜σ.rest = x⌝⦄ drawHatch boundary pattern scale layer colour
    ⦃post⟨fun r σ => ⌜σ.rest = x ∧ r.Draws "hatch"⌝, fun _ σ => ⌜σ.rest = x⌝⟩⦄ := by
  mvcgen [drawHatch] <;> simp_all [Reply.Draws, Reply.succeeded, Entity.kind, refusal]

@[spec low] theorem addDimension_rest (start finish label layer colour : Value) :
    ⦃fun σ => ⌜σ.rest = x⌝⦄ addDimension start finish label layer colour
    ⦃post⟨fun r σ => ⌜σ.rest = x ∧ r.Draws "dimension"⌝, fun _ σ => ⌜σ.rest = x⌝⟩⦄ := by
  mvcgen [addDimension, drawing] <;> simp_all [Reply.Draws, Reply.succeeded, Entity.kind, refusal]

@[spec low] theorem save_rest (room : Nat) (path : Value) :
    ⦃fun σ => ⌜σ.rest = x⌝⦄ save room path
    ⦃post⟨fun r σ => ⌜σ.rest = x ∧ r.Saves⌝, fun _ σ => ⌜σ.rest = x⌝⟩⦄ := by
  mvcgen [save] <;> simp_all +zetaDelta [Station.rest, Reply.Saves, Reply.succeeded, refusal]

end Link

/-- The operations every object has change nothing: they answer nothing, the object's
attributes, its size or a list of names, or fault. -/
theorem Session.objectMethod_spec {cls op : String} {args : List (String × Value)}
    {attributes : Value} {names : List String} {call : Op Value}
    (h : Session.objectMethod cls op args attributes names = some call) (P : Station → Prop) :
    ⦃fun σ => ⌜P σ⌝⦄ call
    ⦃post⟨fun v σ => ⌜P σ ∧ (v = .null ∨ v = attributes ∨ v = .int 24 ∨ ∃ xs, v = .list xs)⌝,
      fun _ σ => ⌜P σ⌝⟩⦄ := by
  unfold Session.objectMethod at h
  -- split on whether named arguments were given, on the attributes and on the name
  repeat' split at h
  all_goals cases h <;> mvcgen <;> simp_all

/-- A direct call of an operation of the connection keeps the rest of the station,
whatever operation it names. -/
theorem Session.callLink_rest (x : Settings × Drawing × Bool) (op : String)
    (args : List (String × Value)) :
    ⦃fun σ => ⌜σ.rest = x⌝⦄ Session.callLink op args
    ⦃post⟨fun _ σ => ⌜σ.rest = x⌝, fun _ σ => ⌜σ.rest = x⌝⟩⦄ := by
  mvcgen [Session.callLink, Session.bound]
  all_goals try simp_all
  rename_i hσ hm
  refine (Session.objectMethod_spec hm (fun σ => σ.rest = x)).entails_wp_of_post ?_ _ hσ
  simp
  exact fun _ _ hrest _ => hrest

end Drafting
