import Mathlib
import Drafting.Proofs.Depth
import Drafting.Proofs.Frame

/-!
# The record follows the answers

The service keeps a record of the session: the entities drawn, in order, and the outcome
of the last successful command.  Each operation of the service keeps that record true to
what it answers: the entity it reports drawn is appended, a success is noted, and a
refusal or a fault leaves the record as it was.

There is one exception, and the specifications here name it.  A drawing operation
records its entity before it writes the note of its command, and writing a literal
nested deeper than the call stack holds stops the operation in between
(`Fault.reprTooDeep`): the entity is then recorded while the operation ends in a fault.
So each specification keeps the record on a fault only when the literals the operation
writes fit on the stack (`Service.literalFits`); a tool call and a direct call whose
arguments nest no deeper than the stack has room for keep it on every fault.
-/

namespace Drafting

open Std.Do

set_option mvcgen.warning false

/-- The entities an answer reports drawn: the entity of a drawing, none otherwise. -/
def Reply.drawnEntities : Reply → List Entity
  | .drawn e => [e]
  | _ => []

/-- The outcome the record notes after an answer: success after a success, the outcome
before otherwise. -/
def Reply.outcome (r : Reply) (before : String) : String :=
  if r.succeeded then "success" else before

/-- The station's record holds the entities `E` and notes the outcome `R`. -/
def Station.Records (σ : Station) (E : List Entity) (R : String) : Prop :=
  σ.service.drawing.entities = E ∧ σ.service.drawing.lastResult = R

namespace Service

/-- Connecting changes the connection and the readiness, never the record. -/
@[spec low] theorem ensureReady_record (D : Drawing) :
    ⦃fun σ => ⌜σ.service.drawing = D⌝⦄ ensureReady
    ⦃post⟨fun _ σ => ⌜σ.service.drawing = D⌝, fun _ σ => ⌜σ.service.drawing = D⌝⟩⦄ := by
  mvcgen [ensureReady, Op.modifyService] <;> simp_all +zetaDelta [Station.rest]

/-- Counting the items of a value changes nothing. -/
@[spec low] theorem fewer_keeps (σ₀ : Station) (v : Value) (n : Nat) :
    ⦃fun σ => ⌜σ = σ₀⌝⦄ fewer v n ⦃post⟨fun _ σ => ⌜σ = σ₀⌝, fun _ σ => ⌜σ = σ₀⌝⟩⦄ := by
  mvcgen [fewer] <;> simp_all

/-- Looking for a point with too few coordinates changes nothing; the loop keeps the
station as it found it. -/
@[spec low] theorem shortPoint_keeps (σ₀ : Station) (points : List Value) :
    ⦃fun σ => ⌜σ = σ₀⌝⦄ shortPoint points ⦃post⟨fun _ σ => ⌜σ = σ₀⌝, fun _ σ => ⌜σ = σ₀⌝⟩⦄ := by
  mvcgen [shortPoint]
  case inv1 => exact post⟨fun _ σ => ⌜σ = σ₀⌝, fun _ σ => ⌜σ = σ₀⌝⟩
  all_goals simp_all

/-- Turning points into tuples changes nothing. -/
@[spec low] theorem tuples_keeps (σ₀ : Station) (points : Value) :
    ⦃fun σ => ⌜σ = σ₀⌝⦄ tuples points ⦃post⟨fun _ σ => ⌜σ = σ₀⌝, fun _ σ => ⌜σ = σ₀⌝⟩⦄ := by
  have hitems := Op.mapM_keeps (fun p : Value => Op.lift p.toTuple) (fun _ _ => by mvcgen <;> simp_all)
  mvcgen [tuples, hitems] <;> simp_all

@[simp, grind =] theorem literalFits_iff (room : Nat) (v : Value) :
    literalFits room v = true ↔ v.reprDepth ≤ room + 4 := by
  simp [literalFits]

variable (E : List Entity) (R : String)

/-- The common tail of the drawing operations records what its body answers, given a
body that keeps the record and draws entities of one kind; a fault keeps the record
when the literals it notes fit. -/
theorem drawChecked_record (kind : String) (room : Nat) (colour : Value) (shown : List Value)
    (command : Unit → String) (body : Op Reply)
    (hbody : ∀ x, ⦃fun σ => ⌜σ.rest = x⌝⦄ body
      ⦃post⟨fun r σ => ⌜σ.rest = x ∧ r.Draws kind⌝, fun _ σ => ⌜σ.rest = x⌝⟩⦄) :
    ⦃fun σ => ⌜σ.Records E R⌝⦄ drawChecked room colour shown command body
    ⦃post⟨fun r σ => ⌜σ.Records (E ++ r.drawnEntities) (r.outcome R)⌝,
      fun _ σ => ⌜shown.all (literalFits room) = true → σ.Records E R⌝⟩⦄ := by
  mvcgen [drawChecked, Op.modifyService, hbody]
  all_goals clear hbody
  all_goals simp_all +zetaDelta [Station.Records, Station.rest, Drawing.add,
    Reply.drawnEntities, Reply.outcome, Reply.succeeded, Reply.Draws]

@[spec low] theorem drawLine_record (room : Nat) (start finish layer colour lineweight : Value) :
    ⦃fun σ => ⌜σ.Records E R⌝⦄ drawLine room start finish layer colour lineweight
    ⦃post⟨fun r σ => ⌜σ.Records (E ++ r.drawnEntities) (r.outcome R)⌝,
      fun _ σ => ⌜[start, finish].all (literalFits room) = true → σ.Records E R⌝⟩⦄ := by
  have hchecked := drawChecked_record E R "line"
  mvcgen [drawLine, hchecked]
  all_goals simp_all only [Station.Records, Reply.drawnEntities, Reply.outcome, Reply.succeeded,
    List.append_nil, if_false, Bool.false_eq_true, and_self, implies_true]

@[spec low] theorem drawCircle_record (room : Nat) (center radius layer colour lineweight : Value) :
    ⦃fun σ => ⌜σ.Records E R⌝⦄ drawCircle room center radius layer colour lineweight
    ⦃post⟨fun r σ => ⌜σ.Records (E ++ r.drawnEntities) (r.outcome R)⌝,
      fun _ σ => ⌜[center, radius].all (literalFits room) = true → σ.Records E R⌝⟩⦄ := by
  have hchecked := drawChecked_record E R "circle"
  mvcgen [drawCircle, hchecked]
  all_goals simp_all only [Station.Records, Reply.drawnEntities, Reply.outcome, Reply.succeeded,
    List.append_nil, if_false, Bool.false_eq_true, and_self, implies_true]

@[spec low] theorem drawArc_record (room : Nat) (center radius startAngle endAngle layer colour lineweight : Value) :
    ⦃fun σ => ⌜σ.Records E R⌝⦄ drawArc room center radius startAngle endAngle layer colour lineweight
    ⦃post⟨fun r σ => ⌜σ.Records (E ++ r.drawnEntities) (r.outcome R)⌝,
      fun _ σ => ⌜[center, radius, startAngle, endAngle].all (literalFits room) = true → σ.Records E R⌝⟩⦄ := by
  have hchecked := drawChecked_record E R "arc"
  mvcgen [drawArc, hchecked]
  all_goals simp_all only [Station.Records, Reply.drawnEntities, Reply.outcome, Reply.succeeded,
    List.append_nil, if_false, Bool.false_eq_true, and_self, implies_true]

@[spec low] theorem drawEllipse_record (room : Nat) (center major minor rotation layer colour lineweight : Value) :
    ⦃fun σ => ⌜σ.Records E R⌝⦄ drawEllipse room center major minor rotation layer colour lineweight
    ⦃post⟨fun r σ => ⌜σ.Records (E ++ r.drawnEntities) (r.outcome R)⌝,
      fun _ σ => ⌜[center, major, minor].all (literalFits room) = true → σ.Records E R⌝⟩⦄ := by
  have hchecked := drawChecked_record E R "ellipse"
  mvcgen [drawEllipse, hchecked]
  all_goals simp_all only [Station.Records, Reply.drawnEntities, Reply.outcome, Reply.succeeded,
    List.append_nil, if_false, Bool.false_eq_true, and_self, implies_true]

@[spec low] theorem drawPolyline_record (room : Nat) (points closed layer colour lineweight : Value) :
    ⦃fun σ => ⌜σ.Records E R⌝⦄ drawPolyline room points closed layer colour lineweight
    ⦃post⟨fun r σ => ⌜σ.Records (E ++ r.drawnEntities) (r.outcome R)⌝,
      fun _ σ => ⌜[closed].all (literalFits room) = true → σ.Records E R⌝⟩⦄ := by
  have hchecked := drawChecked_record E R "polyline"
  mvcgen [drawPolyline, hchecked]
  all_goals simp_all only [Station.Records, Reply.drawnEntities, Reply.outcome, Reply.succeeded,
    List.append_nil, if_false, Bool.false_eq_true, and_self, implies_true]

@[spec low] theorem drawRectangle_record (room : Nat) (corner1 corner2 layer colour lineweight : Value) :
    ⦃fun σ => ⌜σ.Records E R⌝⦄ drawRectangle room corner1 corner2 layer colour lineweight
    ⦃post⟨fun r σ => ⌜σ.Records (E ++ r.drawnEntities) (r.outcome R)⌝,
      fun _ σ => ⌜[corner1, corner2].all (literalFits room) = true → σ.Records E R⌝⟩⦄ := by
  have hchecked := drawChecked_record E R "rectangle"
  mvcgen [drawRectangle, hchecked]
  all_goals simp_all only [Station.Records, Reply.drawnEntities, Reply.outcome, Reply.succeeded,
    List.append_nil, if_false, Bool.false_eq_true, and_self, implies_true]

@[spec low] theorem drawText_record (room : Nat) (position content height rotation layer colour : Value) :
    ⦃fun σ => ⌜σ.Records E R⌝⦄ drawText room position content height rotation layer colour
    ⦃post⟨fun r σ => ⌜σ.Records (E ++ r.drawnEntities) (r.outcome R)⌝,
      fun _ σ => ⌜[content].all (literalFits room) = true → σ.Records E R⌝⟩⦄ := by
  have hchecked := drawChecked_record E R "text"
  mvcgen [drawText, hchecked]
  all_goals simp_all only [Station.Records, Reply.drawnEntities, Reply.outcome, Reply.succeeded,
    List.append_nil, if_false, Bool.false_eq_true, and_self, implies_true]

@[spec low] theorem drawHatch_record (room : Nat) (boundary pattern scale layer colour : Value) :
    ⦃fun σ => ⌜σ.Records E R⌝⦄ drawHatch room boundary pattern scale layer colour
    ⦃post⟨fun r σ => ⌜σ.Records (E ++ r.drawnEntities) (r.outcome R)⌝,
      fun _ σ => ⌜[pattern].all (literalFits room) = true → σ.Records E R⌝⟩⦄ := by
  have hchecked := drawChecked_record E R "hatch"
  mvcgen [drawHatch, hchecked]
  all_goals simp_all only [Station.Records, Reply.drawnEntities, Reply.outcome, Reply.succeeded,
    List.append_nil, if_false, Bool.false_eq_true, and_self, implies_true]

@[spec low] theorem addDimension_record (room : Nat) (start finish label layer colour : Value) :
    ⦃fun σ => ⌜σ.Records E R⌝⦄ addDimension room start finish label layer colour
    ⦃post⟨fun r σ => ⌜σ.Records (E ++ r.drawnEntities) (r.outcome R)⌝,
      fun _ σ => ⌜[start, finish].all (literalFits room) = true → σ.Records E R⌝⟩⦄ := by
  have hchecked := drawChecked_record E R "dimension"
  mvcgen [addDimension, hchecked]
  all_goals simp_all only [Station.Records, Reply.drawnEntities, Reply.outcome, Reply.succeeded,
    List.append_nil, if_false, Bool.false_eq_true, and_self, implies_true]

-- the blank-path check strips the path; kept closed, `Text.strip` is not unfolded
-- through its tables while the conditions are split
attribute [local irreducible] Text.strip in
@[spec low] theorem save_record (room : Nat) (path : Value) :
    ⦃fun σ => ⌜σ.Records E R⌝⦄ save room path
    ⦃post⟨fun r σ => ⌜σ.Records (E ++ r.drawnEntities) (r.outcome R)⌝,
      fun _ σ => ⌜σ.Records E R⌝⟩⦄ := by
  mvcgen [save, Op.modifyService]
  all_goals simp_all +zetaDelta [Station.Records, Station.rest, Reply.drawnEntities, Reply.outcome,
    Reply.Saves, Reply.succeeded]
  -- left: the answer of saving through the connection, which is no drawn entity
  all_goals split <;> simp_all

/-- Reading the parameters of a shape changes nothing. -/
@[spec low] theorem pointLists_keeps (σ₀ : Station) (params : Value) (key : String) (default : Value) :
    ⦃fun σ => ⌜σ = σ₀⌝⦄ pointLists params key default
    ⦃post⟨fun _ σ => ⌜σ = σ₀⌝, fun _ σ => ⌜σ = σ₀⌝⟩⦄ := by
  have hitems := Op.mapM_keeps (fun p : Value => Op.lift p.toList) (fun _ _ => by mvcgen <;> simp_all)
  mvcgen [pointLists, hitems] <;> simp_all

/-- An integer point of one coordinate or more is two levels deep. -/
@[simp, grind =] theorem reprDepth_ints (x : Int) (xs : List Int) : (ints (x :: xs)).reprDepth = 2 := by
  have hrest : Value.itemsDepth (xs.map Value.int) ≤ 1 :=
    Value.itemsDepth_le fun v hv => by
      obtain ⟨n, -, rfl⟩ := List.mem_map.1 hv
      simp
  simp only [ints, List.map_cons, Value.reprDepth_list, Value.itemsDepth_cons, Value.reprDepth_int]
  omega

/-- Reading a point of a parameter object, as a list, gives a value no deeper than the
object, the default, or two levels. -/
theorem pointList_depth (σ₀ : Station) (params : Value) (key : String) (default : Value) :
    ⦃fun σ => ⌜σ = σ₀⌝⦄ pointList params key default
    ⦃post⟨fun v σ => ⌜σ = σ₀ ∧ v.reprDepth ≤ max params.reprDepth (max default.reprDepth 2)⌝,
      fun _ σ => ⌜σ = σ₀⌝⟩⦄ := by
  have hget := Op.lift_of_ok σ₀ (params.get key default)
    (fun w => w.reprDepth ≤ max (params.reprDepth - 1) default.reprDepth)
    fun _ => Value.reprDepth_le_of_get
  have hlist := fun (σ₁ : Station) (w : Value) =>
    Op.lift_of_ok σ₁ w.toList (fun v => v.reprDepth ≤ max w.reprDepth 2) fun _ => Value.reprDepth_toList
  unfold pointList
  mvcgen [hget, hlist]
  all_goals clear hget hlist
  all_goals simp_all
  all_goals omega

/-- Reading a parameter gives the object's entry, below the object, or the default. -/
theorem param_depth (σ₀ : Station) (params : Value) (key : String) (default : Value) :
    ⦃fun σ => ⌜σ = σ₀⌝⦄ param params key default
    ⦃post⟨fun v σ => ⌜σ = σ₀ ∧ v.reprDepth ≤ max (params.reprDepth - 1) default.reprDepth⌝,
      fun _ σ => ⌜σ = σ₀⌝⟩⦄ :=
  Op.lift_of_ok σ₀ _ _ fun _ => Value.reprDepth_le_of_get

/-- Turning items into lists, one after the other, gives lists no deeper than the deepest
item, or two levels; by induction on the items. -/
theorem mapM_toList_depth (σ₀ : Station) (vs : List Value) :
    ⦃fun σ => ⌜σ = σ₀⌝⦄ vs.mapM (fun p => Op.lift p.toList)
    ⦃post⟨fun ws σ => ⌜σ = σ₀ ∧ Value.itemsDepth ws ≤ max (Value.itemsDepth vs) 2⌝,
      fun _ σ => ⌜σ = σ₀⌝⟩⦄ := by
  induction vs generalizing σ₀ with
  | nil =>
    simp only [List.mapM_nil]
    mvcgen
  | cons v vs ih =>
    have hlist := fun (σ₁ : Station) (w : Value) =>
      Op.lift_of_ok σ₁ w.toList (fun u => u.reprDepth ≤ max w.reprDepth 2)
        fun _ => Value.reprDepth_toList
    simp only [List.mapM_cons]
    mvcgen [hlist, ih]
    all_goals clear hlist ih
    all_goals simp_all
    omega

/-- Reading the points of a parameter object, each as a list, gives a list no deeper than
the object, the default, or three levels. -/
theorem pointLists_depth (σ₀ : Station) (params : Value) (key : String) (default : Value) :
    ⦃fun σ => ⌜σ = σ₀⌝⦄ pointLists params key default
    ⦃post⟨fun v σ => ⌜σ = σ₀ ∧ v.reprDepth ≤ max params.reprDepth (max default.reprDepth 3)⌝,
      fun _ σ => ⌜σ = σ₀⌝⟩⦄ := by
  have hget := Op.lift_of_ok σ₀ (params.get key default)
    (fun w => w.reprDepth ≤ max (params.reprDepth - 1) default.reprDepth)
    fun _ => Value.reprDepth_le_of_get
  have hitems := fun (σ₁ : Station) (w : Value) =>
    Op.lift_of_ok σ₁ w.elements (fun xs => Value.itemsDepth xs + 1 ≤ max w.reprDepth 2)
      fun _ => Value.reprDepth_of_items
  have hlists := mapM_toList_depth
  unfold pointLists
  mvcgen [hget, hitems, hlists]
  all_goals clear hget hitems hlists
  all_goals simp_all
  all_goals omega

/-- Drawing a shape from a parameter object keeps the record on a fault when the object
nests no deeper than the operation below it can note. -/
@[spec low] theorem drawShape_record (room : Nat) (shape : Command.Shape) (params : Value) :
    ⦃fun σ => ⌜σ.Records E R⌝⦄ drawShape room shape params
    ⦃post⟨fun r σ => ⌜σ.Records (E ++ r.drawnEntities) (r.outcome R)⌝,
      fun _ σ => ⌜params.reprDepth ≤ room + 3 → σ.Records E R⌝⟩⦄ := by
  have hpoint := pointList_depth
  have hpoints := pointLists_depth
  have hparam := param_depth
  mvcgen [drawShape, hpoint, hpoints, hparam]
  all_goals clear hpoint hpoints hparam
  -- each value read lies within the object or is a shallow default, so it fits one level down
  all_goals grind [Station.Records]

/-- Reading a sentence notes it as the last command, which the record's entities and
outcome do not include; what a sentence is read into nests four levels at most. -/
@[spec low] theorem readAndDraw_record (room : Nat) (sentence : Value) :
    ⦃fun σ => ⌜σ.Records E R⌝⦄ readAndDraw room sentence
    ⦃post⟨fun r σ => ⌜σ.Records (E ++ r.drawnEntities) (r.outcome R)⌝,
      fun _ σ => ⌜2 ≤ room → σ.Records E R⌝⟩⦄ := by
  have hshape := drawShape_record E R
  mvcgen [readAndDraw, Op.modifyService, hshape]
  all_goals clear hshape
  all_goals simp_all +zetaDelta [Station.Records, Reply.drawnEntities, Reply.outcome, Reply.succeeded]
  -- left: a shape drawn from what the sentence is read into, which fits one level down
  all_goals grind [Command.Request.entriesDepth_parameters]

/-- Rebuilding the service starts an empty record. -/
@[spec low] theorem rebuild_record (D : Drawing) :
    ⦃fun σ => ⌜σ.service.drawing = D⌝⦄ rebuild
    ⦃post⟨fun _ σ => ⌜σ.Records [] ""⌝, fun _ σ => ⌜σ.service.drawing = D⌝⟩⦄ := by
  mvcgen [rebuild, Op.modifyService]
  simp_all +zetaDelta [Station.rest]

end Service

namespace Server

variable (E : List Entity) (R : String)

theorem needed_depth (σ₀ : Station) (args : Value) (key : String) :
    ⦃fun σ => ⌜σ = σ₀⌝⦄ needed args key
    ⦃post⟨fun v σ => ⌜σ = σ₀ ∧ v.reprDepth < args.reprDepth⌝, fun _ σ => ⌜σ = σ₀⌝⟩⦄ :=
  Op.lift_of_ok σ₀ _ _ fun _ => Value.reprDepth_lt_of_index

theorem optional_depth (σ₀ : Station) (args : Value) (key : String) (default : Value) :
    ⦃fun σ => ⌜σ = σ₀⌝⦄ optional args key default
    ⦃post⟨fun v σ => ⌜σ = σ₀ ∧ v.reprDepth ≤ max (args.reprDepth - 1) default.reprDepth⌝,
      fun _ σ => ⌜σ = σ₀⌝⟩⦄ :=
  Op.lift_of_ok σ₀ _ _ fun _ => Value.reprDepth_le_of_get

/-- A tool whose arguments nest no deeper than its room lets it note keeps the record on
every fault. -/
theorem runTool_record (room : Nat) (name args : Value) (hroom : 2 ≤ room)
    (hargs : args.reprDepth ≤ room + 5) :
    ⦃fun σ => ⌜σ.Records E R⌝⦄ runTool room name args
    ⦃post⟨fun r σ => ⌜σ.Records (E ++ r.drawnEntities) (r.outcome R)⌝,
      fun _ σ => ⌜σ.Records E R⌝⟩⦄ := by
  have hneeded := needed_depth
  have hoptional := optional_depth
  unfold runTool
  split
  all_goals mvcgen [hneeded, hoptional]
  all_goals clear hneeded hoptional
  all_goals grind [Station.Records, Reply.drawnEntities, Reply.outcome, Reply.succeeded]

/-- A tool call whose arguments a readable request can carry never faults, and its answer
is recorded as the service's. -/
theorem callTool_record (name args : Value) (hargs : args.reprDepth ≤ toolRoom + 5) :
    ⦃fun σ => ⌜σ.Records E R⌝⦄ callTool name args
    ⦃post⟨fun r σ => ⌜σ.Records (E ++ r.drawnEntities) (r.outcome R)⌝, fun _ _ => ⌜False⌝⟩⦄ := by
  have hrun := runTool_record E R toolRoom name args (by decide) hargs
  mvcgen [callTool, hrun]
  all_goals clear hrun
  all_goals simp_all [Station.Records, Reply.drawnEntities, Reply.outcome, Reply.succeeded]

end Server

end Drafting
