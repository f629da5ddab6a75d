import Mathlib
import Drafting.Proofs.Validation
import Drafting.Proofs.Connection
import Drafting.Proofs.Sign

/-!
# A sentence is drawn by the operation it names

`Service.readAndDraw` carries out a sentence: it notes it as the last command, reads it, and,
when it names a shape, hands the parameters it read to the service's drawing operation of
that shape, with a default for each one missing.

The parameters read from a sentence always have what the operation checks first, but for the
sign of a few numbers (`Shape.params_wellFormed`): a polyline has two points or more and a
hatch three or more, since the readers fall back to default points; a text and a pattern name
are never empty, since the readers take no empty label or word; a minor axis is never below
zero, since a keyword number is read without a sign (`keywordNumber_not_below_zero`); and a
colour is a palette index up to 255.  So the only checks a sentence can fail are those of a
positive radius, major axis, height or pattern scale.

`sentence_drawn_as_read` puts it together: on a service whose configuration names its
application, a sentence never faults; one that names no shape is answered as unread; and one
that names a shape runs exactly the operation of that shape on the parameters read, whose
only failing checks are positivity checks, with a colour in range.
-/

namespace Drafting

open Std.Do

set_option mvcgen.warning false

/-- Comparing an integer is comparing it as an integer. -/
theorem Num.holds_int (op : Comparison) (m n : Int) :
    Num.holds op (.int m) n = match op with
      | .lt => decide (m < n)
      | .le => decide (m ≤ n)
      | .gt => decide (n < m)
      | .ge => decide (n ≤ m) := by
  cases op <;> rcases lt_trichotomy m n with h | h | h <;>
    simp [Num.holds, h, Int.compare_eq_lt.mpr, Int.compare_eq_gt.mpr] <;> omega

theorem Num.num?_toValue (n : Num) : n.toValue.num? = some n := by
  cases n <;> rfl

theorem Num.reprDepth_toValue (n : Num) : n.toValue.reprDepth = 1 := by
  cases n <;> rfl

namespace Command

open Text

/-! ### Labels and words are never empty -/

/-- A label read between two stops is never empty. -/
theorem between_ne_empty (stop : Char → Bool) (rest : List Char) {s : String}
    (h : (match rest.dropWhile (fun c => !stop c) with
      | _ :: _ =>
        if (rest.takeWhile (fun c => !stop c)).isEmpty then none
        else some (String.ofList (rest.takeWhile fun c => !stop c))
      | [] => none) = some s) : s ≠ "" := by
  split at h
  · split_ifs at h with hempty
    cases h
    simpa [String.ofList_eq_empty_iff] using hempty
  · cases h

theorem quotedAt_ne_empty {cs : List Char} {s : String} (h : quotedAt cs = some s) : s ≠ "" := by
  unfold quotedAt at h
  split at h
  · -- the plain, the double and the corner quotes each read between their two stops
    simp only [Option.orElse_eq_orElse, Option.orElse_eq_or, Option.or_eq_some_iff] at h
    rcases h with h | ⟨-, h | ⟨-, h⟩⟩
    all_goals
      split at h
      · exact between_ne_empty _ _ h
      · cases h
  · cases h

theorem keywordWordAt_ne_empty {keyword : String} {cs : List Char} {w : String}
    (h : keywordWordAt keyword cs = some w) : w ≠ "" := by
  unfold keywordWordAt at h
  dsimp only at h
  split_ifs at h with hkw hword
  cases h
  simpa [String.ofList_eq_empty_iff] using hword

theorem upperChar_ne_nil (c : Char) : upperChar c ≠ [] := by
  have hexpansions : ∀ e ∈ upperExpansions.toList, e.2.toList ≠ [] := by decide +kernel
  unfold upperChar
  split
  · rename_i e he
    exact hexpansions e (Array.mem_toList_iff.mpr (Array.mem_of_find?_eq_some he))
  · split <;> simp

theorem upper_ne_empty {w : String} (h : w ≠ "") : upper w ≠ "" := by
  unfold upper
  rw [ne_eq, String.ofList_eq_empty_iff, List.flatMap_eq_nil_iff]
  intro hall
  obtain ⟨c, cs, hcs⟩ := List.exists_cons_of_ne_nil (mt String.toList_eq_nil_iff.mp h)
  exact upperChar_ne_nil c (hall c (by simp [hcs]))

/-! ### The parameters of a sentence -/

/-- What the checks of a drawing ask of its parameters besides positive numbers: a minor axis
not below zero, two points or more for a polyline and three or more for a hatch, a text and a
pattern name that are not empty. -/
def Params.WellFormed : Params → Prop
  | .ellipse _ _ minor _ => minor.holds .lt 0 = false
  | .polyline ps _ => 2 ≤ ps.length
  | .text _ content _ _ => content ≠ ""
  | .hatch ps pattern _ => 3 ≤ ps.length ∧ pattern ≠ ""
  | _ => True

theorem keyed_not_below_zero {sentence keyword : String} {extra : Option String} {default : Num}
    (hdefault : default.holds .lt 0 = false) : (keyed sentence keyword extra default).holds .lt 0 = false := by
  unfold keyed
  split
  · rename_i x hx
    exact keywordNumber_not_below_zero hx
  · exact hdefault

/-- The parameters read from any sentence, for any shape, are well formed: every number after
a keyword is read without a sign, the readers of points fall back to enough default points,
and a quoted label and a pattern name are never empty. -/
theorem Shape.params_wellFormed (s : Shape) (sentence : String) : (s.params sentence).WellFormed := by
  cases s with
  | line =>
    show (lineParams sentence).WellFormed
    unfold lineParams
    split <;> trivial
  | circle | arc => trivial
  | ellipse => exact keyed_not_below_zero (by decide)
  | rectangle =>
    show (rectangleParams sentence).WellFormed
    unfold rectangleParams
    split <;> trivial
  | polyline =>
    show (polylineParams sentence).WellFormed
    unfold polylineParams
    split <;> simp [Params.WellFormed]
  | text =>
    show (quoted sentence.toList).getD "Text" ≠ ""
    cases hq : quoted sentence.toList with
    | none => decide
    | some s =>
      obtain ⟨_, hat⟩ := search_found hq
      exact quotedAt_ne_empty hat
  | dimension =>
    show (dimensionParams sentence).WellFormed
    unfold dimensionParams
    split <;> trivial
  | hatch =>
    show (hatchParams sentence).WellFormed
    unfold hatchParams
    refine ⟨?_, ?_⟩
    · split <;> simp
    · cases hw : keywordWord "pattern" sentence.toList with
      | none => decide
      | some w =>
        obtain ⟨_, hat⟩ := search_found hw
        exact upper_ne_empty (keywordWordAt_ne_empty hat)

/-- A colour a sentence names is a palette index up to 255. -/
theorem colour?_le {sentence : String} {c : Nat} (h : colour? sentence = some c) : c ≤ 255 := by
  have hpalette : ∀ col ∈ colourNames, col.2 ≤ 255 := by decide
  unfold colour? at h
  obtain ⟨matched, -, hc⟩ := Option.bind_eq_some_iff.mp h
  obtain ⟨col, hcol, rfl⟩ := Option.map_eq_some_iff.mp hc
  exact hpalette col (List.mem_of_find?_eq_some hcol)

/-! ### The call a sentence makes -/

/-- A point as the service's operations are handed it: the list of its two coordinates. -/
def Point.asList (p : Point) : Value := .list [p.1.toValue, p.2.toValue]

/-- The colour a sentence names, as the value the service's operations are handed. -/
def colourValue : Option Nat → Value
  | some c => .int c
  | none => .null

/-- The entry of the colour a sentence names, when it names one. -/
def colourEntries : Option Nat → List (String × Value)
  | some c => [("color", .int c)]
  | none => []

/-- The shape whose drawing takes these parameters; a save and a bare list of points are
drawn by none. -/
def Params.shape? : Params → Option Shape
  | .line .. => some .line
  | .circle .. => some .circle
  | .arc .. => some .arc
  | .ellipse .. => some .ellipse
  | .rectangle .. => some .rectangle
  | .polyline .. => some .polyline
  | .text .. => some .text
  | .dimension .. => some .dimension
  | .hatch .. => some .hatch
  | .save _ | .points _ => none

/-- The call of the service's drawing operation with these parameters, in the given colour, on
no layer and with no line weight, each point handed over as the list of its coordinates. -/
def Params.call (colour : Value) : Params → Option Service.Call
  | .line s f => some (.line s.asList f.asList .null colour .null)
  | .circle c r => some (.circle c.asList r.toValue .null colour .null)
  | .arc c r s e => some (.arc c.asList r.toValue s.toValue e.toValue .null colour .null)
  | .ellipse c a b r => some (.ellipse c.asList a.toValue b.toValue r.toValue .null colour .null)
  | .rectangle a b => some (.rectangle a.asList b.asList .null colour .null)
  | .polyline ps closed =>
    some (.polyline (.list (ps.map Point.asList)) (.bool closed) .null colour .null)
  | .text p s h r => some (.text p.asList (.str s) h.toValue r.toValue .null colour)
  | .dimension s f t => some (.dimension s.asList f.asList t.asList .null colour)
  | .hatch ps name scale =>
    some (.hatch (.list (ps.map Point.asList)) (.str name) scale.toValue .null colour)
  | .save _ | .points _ => none

/-- Each shape reads parameters of its own kind. -/
theorem Shape.params_shape? (s : Shape) (sentence : String) : (s.params sentence).shape? = some s := by
  cases s with
  | line =>
    show (lineParams sentence).shape? = _
    unfold lineParams
    split <;> rfl
  | rectangle =>
    show (rectangleParams sentence).shape? = _
    unfold rectangleParams
    split <;> rfl
  | polyline =>
    show (polylineParams sentence).shape? = _
    unfold polylineParams
    split <;> rfl
  | dimension =>
    show (dimensionParams sentence).shape? = _
    unfold dimensionParams
    split <;> rfl
  | circle | arc | ellipse | text | hatch => rfl

/-- What a sentence that names a shape asks for: that shape, its parameters and its colour. -/
theorem read_of_shape? {sentence : String} {s : Shape} (hs : shape? sentence = some s) :
    (read sentence).shape = some s ∧
      (read sentence).parameters = (s.params sentence).entries ++ colourEntries (colour? sentence) := by
  unfold read Request.parameters
  rw [hs]
  constructor
  · rfl
  · cases colour? sentence <;> rfl

/-- A call made with well-formed parameters fails no check of its arguments but those of a
positive number. -/
theorem Params.call_checks {p : Params} (hp : p.WellFormed) {colour : Value} {call : Service.Call}
    (hcall : p.call colour = some call) :
    ∀ c ∈ call.checks, c.passes = false → ∃ v, c = .positive v := by
  cases p <;> simp only [Params.call, Option.some.injEq, reduceCtorEq] at hcall
  all_goals
    subst hcall
    simp only [Params.WellFormed] at hp
    intro c hc hfails
    simp only [Service.Call.checks, List.mem_cons, List.not_mem_nil, or_false] at hc
  all_goals
    rcases hc with rfl | rfl | rfl | rfl
    all_goals
      first
        | exact ⟨_, rfl⟩
        | simp_all [ArgCheck.passes, Value.hasAtLeast, Value.len, Value.elements, Value.compareInt,
            Num.num?_toValue, Point.asList, Value.truthy]

/-- A colour a sentence names lies in `0 … 255`. -/
theorem colourOutside_colourValue (sentence : String) :
    Service.colourOutside (colourValue (colour? sentence)) = .ok false := by
  cases hc : colour? sentence with
  | none => rfl
  | some c =>
    have hle := colour?_le hc
    have hbelow : ¬ (c : Int) < 0 := by omega
    have habove : ¬ (255 : Int) < c := by omega
    simp only [colourValue, Service.colourOutside, Value.compareInt, Value.num?, Num.holds_int,
      hbelow, habove, decide_false]
    rfl

/-- A sentence that names no shape asks to draw nothing, with confidence 0.3. -/
theorem read_of_no_shape {sentence : String} (hs : shape? sentence = none) :
    (read sentence).shape = none ∧ (read sentence).action = (action? sentence).getD .draw ∧
      (read sentence).confidence = 0.3 := by
  unfold read
  rw [hs]
  exact ⟨rfl, rfl, rfl⟩

/-- Parameters of a shape make a call of its drawing. -/
theorem Params.call_of_shape? {p : Params} {s : Shape} (hs : p.shape? = some s) (colour : Value) :
    ∃ call, p.call colour = some call := by
  cases p <;> simp_all [Params.shape?, Params.call]

end Command

theorem Op.lift_ok {α : Type} (a : α) : Op.lift (.ok a : Except Fault α) = pure a := rfl

/-- Every operation meets the specification that asks nothing of it. -/
theorem Op.meets_trivial {α : Type} (x : Op α) :
    ⦃fun _ => ⌜True⌝⦄ x ⦃post⟨fun _ _ => ⌜True⌝, fun _ _ => ⌜True⌝⟩⦄ := by
  intro s _
  show (wp⟦x⟧ _ s).down
  simp only [wp, PredTrans.pushExcept, PredTrans.pushArg, PredTrans.apply, ExceptT.run, StateT.run,
    Id.run]
  obtain ⟨r, s'⟩ := x s
  cases r <;> exact True.intro

namespace Link

theorem drawing_total (body : Op Reply) :
    ⦃fun _ => ⌜True⌝⦄ drawing body ⦃post⟨fun _ _ => ⌜True⌝, fun _ _ => ⌜False⌝⟩⦄ := by
  have hbody := Op.meets_trivial body
  unfold drawing
  mvcgen [hbody]

theorem drawPolyline_total (points closed layer colour lineweight : Value) :
    ⦃fun _ => ⌜True⌝⦄ drawPolyline points closed layer colour lineweight
    ⦃post⟨fun _ _ => ⌜True⌝, fun _ _ => ⌜∃ f, points.len = .error f⌝⟩⦄ := by
  unfold drawPolyline
  mvcgen
  all_goals simp_all

theorem drawRectangle_total (corner1 corner2 layer colour lineweight : Value) :
    ⦃fun _ => ⌜True⌝⦄ drawRectangle corner1 corner2 layer colour lineweight
    ⦃post⟨fun _ _ => ⌜True⌝,
      fun _ _ => ⌜(∃ f, Point3.ofValue corner1 = .error f) ∨ ∃ f, Point3.ofValue corner2 = .error f⌝⟩⦄ := by
  have hpolyline := drawPolyline_total
  unfold drawRectangle point
  mvcgen [hpolyline]
  all_goals simp_all [Value.len]

theorem drawHatch_total (boundary pattern scale layer colour : Value) :
    ⦃fun _ => ⌜True⌝⦄ drawHatch boundary pattern scale layer colour
    ⦃post⟨fun _ _ => ⌜True⌝, fun _ _ => ⌜∃ f, boundary.len = .error f⌝⟩⦄ := by
  unfold drawHatch
  mvcgen
  all_goals simp_all

end Link

namespace Service

open Command

theorem mapM_lift_toList (ps : List Point) :
    (ps.map Point.toValue).mapM (fun p => Op.lift p.toList) = pure (ps.map Point.asList) := by
  induction ps with
  | nil => rfl
  | cons p ps ih =>
    simp only [List.map_cons, List.mapM_cons, ih]
    rfl

/-- Drawing a shape from the entries of its parameters reads back each parameter where the
entries put it: the operation of the shape runs on the parameters themselves. -/
theorem drawShape_entries (room : Nat) {p : Params} {s : Shape} (hs : p.shape? = some s)
    (colour : Option Nat) {call : Call} (hcall : p.call (colourValue colour) = some call) :
    drawShape room s (.dict (p.entries ++ colourEntries colour)) = call.run (room - 1) := by
  have hget : ∀ kvs key default, (Value.dict kvs).get key default = .ok ((Value.lookup key kvs).getD default) :=
    fun _ _ _ => rfl
  have htuple : ∀ xs, (Value.tuple xs).toList = .ok (.list xs) := fun _ => rfl
  have hlist : ∀ xs, (Value.list xs).elements = .ok xs := fun _ => rfl
  cases p <;> simp only [Params.shape?, Params.call, Option.some.injEq, reduceCtorEq] at hs hcall
  all_goals
    subst hs hcall
    cases colour <;>
      simp [-List.mapM_map, drawShape, pointList, pointLists, param, Params.entries, colourEntries,
        colourValue, hget, Value.lookup, htuple, hlist, Op.lift_ok, Point.toValue, Point.asList,
        mapM_lift_toList, Call.run]

/-! ### Drawing from a sentence never faults -/

/-- Counting the items of a value changes nothing, and faults only on a value without a length. -/
theorem fewer_total (σ₀ : Station) (v : Value) (n : Nat) :
    ⦃fun σ => ⌜σ = σ₀⌝⦄ fewer v n
    ⦃post⟨fun _ σ => ⌜σ = σ₀⌝, fun _ σ => ⌜σ = σ₀ ∧ ∃ f, v.len = .error f⌝⟩⦄ := by
  unfold fewer
  mvcgen
  all_goals simp_all

/-- Looking for a short point changes nothing, and faults only on a point without a length. -/
theorem shortPoint_total (σ₀ : Station) (points : List Value) :
    ⦃fun σ => ⌜σ = σ₀⌝⦄ shortPoint points
    ⦃post⟨fun _ σ => ⌜σ = σ₀⌝, fun _ σ => ⌜σ = σ₀ ∧ ∃ p ∈ points, ∃ f, p.len = .error f⌝⟩⦄ := by
  unfold shortPoint
  mvcgen [fewer_total]
  case inv1 =>
    exact Invariant.withEarlyReturnNewDo (fun _ _ σ => ⌜σ = σ₀⌝) (fun _ _ σ => ⌜σ = σ₀⌝)
      ⟨fun _ σ => ⌜σ = σ₀ ∧ ∃ p ∈ points, ∃ f, p.len = .error f⌝, ()⟩
  all_goals simp_all
  -- a point without a length is the current one of the walk through the points
  rename_i hsplit _ _ _ _
  intro f hf
  have hcur : _ ∈ points.zipIdx := hsplit ▸ List.mem_append_right _ List.mem_cons_self
  exact ⟨_, List.fst_mem_of_mem_zipIdx hcur, f, hf⟩

/-- Getting ready never faults on a configuration that names its application. -/
theorem ensureReady_total :
    ⦃fun σ => ⌜σ.service.link.config.namesKind = true⌝⦄ ensureReady
    ⦃post⟨fun _ _ => ⌜True⌝, fun _ _ => ⌜False⌝⟩⦄ := by
  mvcgen [ensureReady_ready]
  all_goals simp_all

/-- The common tail of the drawing operations never faults on a configuration that names its
application, with a colour that can be compared, shown values that fit the call stack and a body
that never faults. -/
theorem drawChecked_total (room : Nat) (colour : Value) (shown : List Value) (command : Unit → String)
    (body : Op Reply) (hcolour : ∃ b, colourOutside colour = .ok b)
    (hshown : shown.all (literalFits room) = true)
    (hbody : ⦃fun _ => ⌜True⌝⦄ body ⦃post⟨fun _ _ => ⌜True⌝, fun _ _ => ⌜False⌝⟩⦄) :
    ⦃fun σ => ⌜σ.service.link.config.namesKind = true⌝⦄ drawChecked room colour shown command body
    ⦃post⟨fun _ _ => ⌜True⌝, fun _ _ => ⌜False⌝⟩⦄ := by
  obtain ⟨b, hb⟩ := hcolour
  unfold drawChecked
  mvcgen [ensureReady_total, hbody, Op.modifyService]
  all_goals simp_all
  -- a shown value too deep to note is one of those that all fit
  obtain ⟨v, hv, hdeep⟩ := ‹∃ v ∈ shown, room + 4 < v.reprDepth›
  exact absurd (hshown v hv) (Nat.not_le.2 hdeep)

theorem mapM_lift_toTuple (ps : List Point) :
    (ps.map Point.asList).mapM (fun p => Op.lift p.toTuple) = pure (ps.map Point.toValue) := by
  induction ps with
  | nil => rfl
  | cons p ps ih =>
    simp only [List.map_cons, List.mapM_cons, ih]
    rfl

/-- Points handed over as lists turn into tuples without a fault. -/
theorem tuples_asList (ps : List Point) :
    tuples (.list (ps.map Point.asList)) = pure (.list (ps.map Point.toValue)) := by
  have hlist : (Value.list (ps.map Point.asList)).elements = .ok (ps.map Point.asList) := rfl
  unfold tuples
  simp only [hlist, Op.lift_ok, pure_bind, mapM_lift_toTuple]

/-- The call of a shape's drawing with any parameters, in a colour a sentence can name, never
faults on a configuration that names its application: every value the call reads has the
kind it is read as, and every value it shows fits the call stack. -/
theorem call_run_total {p : Params} {colour : Option Nat} {call : Call}
    (hcall : p.call (colourValue colour) = some call) (room : Nat) :
    ⦃fun σ => ⌜σ.service.link.config.namesKind = true⌝⦄ call.run room
    ⦃post⟨fun _ _ => ⌜True⌝, fun _ _ => ⌜False⌝⟩⦄ := by
  have hcolour : ∃ b, colourOutside (colourValue colour) = .ok b := by
    cases colour with
    | none => exact ⟨false, rfl⟩
    | some c =>
      have hbelow : ¬ (c : Int) < 0 := by omega
      refine ⟨decide ((255 : Int) < c), ?_⟩
      simp only [colourValue, colourOutside, Value.compareInt, Value.num?, Num.holds_int, hbelow,
        decide_false]
      rfl
  -- the points are lists, so reading them as tuples, walking and counting them are answered
  have htuple : ∀ xs, (Value.list xs).toTuple = .ok (.tuple xs) := fun _ => rfl
  have helements : ∀ xs, (Value.list xs).elements = .ok xs := fun _ => rfl
  have hlen : ∀ xs, (Value.list xs).len = .ok xs.length := fun _ => rfl
  have hpoint : ∀ x y, Point3.ofValue (.tuple [x, y]) = .ok ⟨x, y, .float 0.0⟩ := fun _ _ => rfl
  cases p <;> simp only [Params.call, Option.some.injEq, reduceCtorEq] at hcall
  all_goals
    subst hcall
    simp only [Call.run, drawLine, drawCircle, drawArc, drawEllipse, drawPolyline, drawRectangle,
      drawText, drawHatch, addDimension, tuples_asList, Link.drawLine, Link.drawCircle,
      Link.drawArc, Link.drawEllipse, Link.drawText, Link.addDimension, Point.asList, htuple,
      helements, hlen, Op.lift_ok, pure_bind]
    mvcgen [fewer_total, shortPoint_total, drawChecked_total, Link.drawing_total,
      Link.drawPolyline_total, Link.drawRectangle_total, Link.drawHatch_total]
  all_goals simp_all [Value.len, Value.compareInt, Num.num?_toValue, literalFits, Value.reprDepth,
    Value.itemsDepth, Num.reprDepth_toValue, Point.asList]


/-! ### Carrying out a sentence -/

/-- A sentence that names a shape is noted as the last command and drawn by the call of that
shape's operation on the parameters read from it. -/
theorem readAndDraw_of_shape? (room : Nat) {sentence : String} {s : Shape}
    (hs : shape? sentence = some s) {call : Call}
    (hcall : (s.params sentence).call (colourValue (colour? sentence)) = some call) :
    readAndDraw room (.str sentence) = (do
      Op.modifyService fun σ => { σ with drawing := { σ.drawing with lastCommand := sentence } }
      call.run (room - 1 - 1)) := by
  obtain ⟨hshape, hparameters⟩ := read_of_shape? hs
  have htext : (Value.str sentence).textFor "lower" = .ok sentence := rfl
  unfold readAndDraw
  simp only [htext, Op.lift_ok, pure_bind, hshape, hparameters]
  rw [drawShape_entries (room - 1) (Shape.params_shape? s sentence) _ hcall]

/-- A sentence that names no shape is noted as the last command and answered as unread. -/
theorem readAndDraw_of_no_shape (room : Nat) {sentence : String} (hs : shape? sentence = none) :
    readAndDraw room (.str sentence) = (do
      Op.modifyService fun σ => { σ with drawing := { σ.drawing with lastCommand := sentence } }
      pure (.unread sentence ((action? sentence).getD .draw) 0.3)) := by
  obtain ⟨hshape, haction, hconfidence⟩ := read_of_no_shape hs
  have htext : (Value.str sentence).textFor "lower" = .ok sentence := rfl
  unfold readAndDraw
  simp only [htext, Op.lift_ok, pure_bind, hshape, haction, hconfidence]

/-- Carrying out a sentence, on a service whose configuration names its application, never
faults, whatever the sentence.  A sentence that names no shape is answered as unread.  One
that names a shape notes the sentence and runs the drawing operation of that shape on the
parameters read from it, and whichever action it names; that call fails no check of its
arguments but those of a positive radius, major axis, height or pattern scale, and its colour
lies in `0 … 255`. -/
theorem sentence_drawn_as_read (room : Nat) (sentence : String) :
    ⦃fun σ => ⌜σ.service.link.config.namesKind = true⌝⦄ readAndDraw room (.str sentence)
    ⦃post⟨fun r _ => ⌜shape? sentence = none →
        r = .unread sentence ((action? sentence).getD .draw) 0.3⌝, fun _ _ => ⌜False⌝⟩⦄ ∧
    ∀ s, shape? sentence = some s → ∃ call,
      (s.params sentence).call (colourValue (colour? sentence)) = some call ∧
      readAndDraw room (.str sentence) = (do
        Op.modifyService fun σ => { σ with drawing := { σ.drawing with lastCommand := sentence } }
        call.run (room - 1 - 1)) ∧
      (∀ c ∈ call.checks, c.passes = false → ∃ v, c = .positive v) ∧
      colourOutside (colourValue (colour? sentence)) = .ok false := by
  constructor
  · cases hs : shape? sentence with
    | none =>
      rw [readAndDraw_of_no_shape room hs]
      mvcgen [Op.modifyService]
    | some s =>
      obtain ⟨call, hcall⟩ := Params.call_of_shape? (Shape.params_shape? s sentence)
        (colourValue (colour? sentence))
      have hrun := call_run_total hcall (room - 1 - 1)
      rw [readAndDraw_of_shape? room hs hcall]
      mvcgen [Op.modifyService, hrun]
      all_goals simp_all
  · intro s hs
    obtain ⟨call, hcall⟩ := Params.call_of_shape? (Shape.params_shape? s sentence)
      (colourValue (colour? sentence))
    exact ⟨call, hcall, readAndDraw_of_shape? room hs hcall,
      Params.call_checks (Shape.params_wellFormed s sentence) hcall,
      colourOutside_colourValue sentence⟩


/-- Both parts at work: a sentence that names no shape, on a service not yet connected, is
answered as unread; one that names a red circle is carried out by a call of the circle's drawing
on the parameters read from it, whose only possible refusal is of a radius that is not
positive, in a colour of the palette. -/
theorem sentence_drawn_as_read_hello :
    let σ : Station := ⟨{}, ⟨"/work", [], .empty, .empty⟩, Service.ofSettings Settings.shipped⟩
    let circle := "Draw a red circle at (100, 100) with radius 50"
    (σ.service.link.config.namesKind = true ∧ shape? "hello" = none ∧
      ((readAndDraw Server.stepRoom (.str "hello")).run.run σ).1 = .ok (.unread "hello" .draw 0.3)) ∧
    (shape? circle = some .circle ∧
      ∃ call, (Shape.circle.params circle).call (colourValue (colour? circle)) = some call ∧
        readAndDraw Server.stepRoom (.str circle) = (do
          Op.modifyService fun σ => { σ with drawing := { σ.drawing with lastCommand := circle } }
          call.run (Server.stepRoom - 1 - 1)) ∧
        (∀ c ∈ call.checks, c.passes = false → ∃ v, c = .positive v) ∧
        colourOutside (colourValue (colour? circle)) = .ok false) := by
  intro σ circle
  have hnamed : σ.service.link.config.namesKind = true := by decide
  have hs : shape? "hello" = none := by decide +kernel
  have haction : action? "hello" = none := by decide +kernel
  have hrun := Op.run_of_triple (Q := fun x _ => match x with
      | .ok r => shape? "hello" = none → r = Reply.unread "hello" ((action? "hello").getD .draw) 0.3
      | .error _ => False)
    (sentence_drawn_as_read Server.stepRoom "hello").1 hnamed
  have hcircle : shape? circle = some .circle := by decide +kernel
  refine ⟨⟨hnamed, hs, ?_⟩, hcircle, (sentence_drawn_as_read Server.stepRoom circle).2 .circle hcircle⟩
  revert hrun
  cases ((readAndDraw Server.stepRoom (.str "hello")).run.run σ).1 with
  | ok r =>
    intro hrun
    rw [hrun hs, haction]
    rfl
  | error e => exact False.elim

end Service


end Drafting
