import Mathlib
import Drafting.Proofs.Sentences

/-!
# What the schemas admit and what the service checks

Each tool advertises the arguments it takes with a schema (`tools`), and the service checks
the arguments again before it draws (`Service.Call.checks`, then the colour).  The two are
written apart, and they do not say the same thing.

`Schema.admits` reads a schema as JSON Schema reads the keywords the tools use: the type,
the items of an array and the bounds on their count, the properties of an object and the
required ones, and the bounds on a number, compared exactly.  The types are read as JSON
Schema draft 4 reads them: a truth value is no number, and an integer is a number written
without a fraction or an exponent, so `2.0` is a number and no integer (draft 6 and later
count it an integer too).

`admitted_arguments_checked` compares the two on the arguments a schema admits.  They are
read without a fault into a call of the service; the colour, when given, is in range; and
each check the service makes passes, except where the schemas leave open what the service
refuses.  A radius, an axis, a height or a scale may be zero by its schema (its minimum is
`0`), and the service wants it positive; a text, a pattern name or a path may be empty, or
blank, by its schema, and the service refuses it.  Each check fails exactly then
(`zero_radius_admitted_refused`).  Nor does the service refuse all the schemas refuse: it
counts the coordinates of a point from below only, and draws a point of four that a schema
of at most three does not admit (`four_coordinates_drawn_not_admitted`).
-/

namespace Drafting

/-! ### Reading a schema -/

/-- Whether a value is of a JSON type, as draft 4 of JSON Schema reads the types: an
integer is a number, a truth value is not, and a double is never an integer, even one with
no fractional part. -/
def JsonType.admits : JsonType → Value → Bool
  | .object, .dict _ | .array, .list _ | .number, .int _ | .number, .float _
  | .integer, .int _ | .string, .str _ | .boolean, .bool _ => true
  | _, _ => false

/-- Whether a number lies within the bounds, compared exactly. -/
def Num.within (mn mx : Option Int) (a : Num) : Bool :=
  mn.all (a.holds .ge ·) && mx.all (a.holds .le ·)

namespace Schema

/-- Whether an array has as many items as the bounds allow; other values are not counted. -/
def countWithin (lo hi : Option Nat) : Value → Bool
  | .list xs => lo.all (· ≤ xs.length) && hi.all (xs.length ≤ ·)
  | _ => true

/-- Whether a number lies within the bounds; other values are not bounded. -/
def boundWithin (mn mx : Option Int) : Value → Bool
  | .int n => (Num.int n).within mn mx
  | .float x => (Num.float x).within mn mx
  | _ => true

/-- Whether an object has the required properties; other values have no properties. -/
def requiredIn (req : List String) : Value → Bool
  | .dict kvs => req.all fun k => (Value.lookup k kvs).isSome
  | _ => true

mutual

/-- Whether a value meets a schema: its type, the bounds, the required properties, its
items and the properties it has.  The default and the description constrain nothing. -/
def admits : Schema → Value → Bool
  | .node t items props req lo hi mn mx _ _, v =>
    t.admits v && countWithin lo hi v && boundWithin mn mx v && requiredIn req v &&
      itemsAdmit items v && propsAdmit props v

/-- Whether each item of an array meets the schema of items, when there is one. -/
def itemsAdmit : Option Schema → Value → Bool
  | some s, .list xs => xs.all s.admits
  | _, _ => true

/-- Whether each property an object has meets its schema. -/
def propsAdmit : List (String × Schema) → Value → Bool
  | [], _ => true
  | (k, s) :: rest, v =>
    (match v with
      | .dict kvs => (Value.lookup k kvs).all s.admits
      | _ => true) && propsAdmit rest v

end

/-- What a schema node asks of every value, taken apart. -/
theorem admits_node_iff {t : JsonType} {items : Option Schema} {props : List (String × Schema)}
    {req : List String} {lo hi : Option Nat} {mn mx : Option Int} {d : Option Value}
    {desc : Option String} {v : Value} :
    (node t items props req lo hi mn mx d desc).admits v = true ↔
      t.admits v = true ∧ countWithin lo hi v = true ∧ boundWithin mn mx v = true ∧
        requiredIn req v = true ∧ itemsAdmit items v = true ∧ propsAdmit props v = true := by
  simp only [admits, Bool.and_eq_true, and_assoc]

theorem admits_withDefault (s : Schema) (d v : Value) :
    (s.withDefault d).admits v = s.admits v := by
  cases s
  simp only [withDefault, admits]

/-- A property an object has meets the schema the properties give it first. -/
theorem propsAdmit_lookup {props : List (String × Schema)} {kvs : List (String × Value)}
    {k : String} {s : Schema} {w : Value} (h : propsAdmit props (.dict kvs) = true)
    (hk : props.lookup k = some s) (hw : Value.lookup k kvs = some w) : s.admits w = true := by
  induction props with
  | nil => simp at hk
  | cons p rest ih =>
    obtain ⟨k', s'⟩ := p
    simp only [propsAdmit, Bool.and_eq_true] at h
    by_cases hkk : k = k'
    · subst hkk
      simp only [List.lookup_cons_self, Option.some.injEq] at hk
      subst hk
      simpa [hw] using h.1
    · have hne : (k == k') = false := by simpa using hkk
      simp only [List.lookup, hne] at hk
      exact ih h.2 hk

/-- An object admitted by an object schema: its entries, the required ones there, and each
property it has meeting its schema. -/
theorem object_admits {props : List (String × Schema)} {req : List String} {v : Value}
    (h : (object props req).admits v = true) :
    ∃ kvs, v = .dict kvs ∧ (∀ k ∈ req, (Value.lookup k kvs).isSome = true) ∧
      propsAdmit props (.dict kvs) = true := by
  obtain ⟨htype, -, -, hreq, -, hprops⟩ := admits_node_iff.mp h
  cases v with
  | dict kvs => exact ⟨kvs, rfl, by simpa [requiredIn] using hreq, hprops⟩
  | _ => simp [JsonType.admits] at htype

variable {props : List (String × Schema)} {req : List String} {args : Value} {k : String}
  {s : Schema}

/-- A required property of an admitted object is there, and meets its schema. -/
theorem index_of_admits (h : (object props req).admits args = true) (hreq : k ∈ req)
    (hk : props.lookup k = some s) : ∃ w, args.index k = .ok w ∧ s.admits w = true := by
  obtain ⟨kvs, rfl, hthere, hprops⟩ := object_admits h
  obtain ⟨w, hw⟩ := Option.isSome_iff_exists.mp (hthere k hreq)
  exact ⟨w, by simp [Value.index, hw], propsAdmit_lookup hprops hk hw⟩

/-- A property of an admitted object read with a default is the default when it is absent,
and meets its schema when it is there. -/
theorem get_of_admits (h : (object props req).admits args = true) (hk : props.lookup k = some s)
    (d : Value) : ∃ w, args.get k d = .ok w ∧ (w = d ∨ s.admits w = true) := by
  obtain ⟨kvs, rfl, -, hprops⟩ := object_admits h
  cases hw : Value.lookup k kvs with
  | none => exact ⟨d, by simp [Value.get, hw], .inl rfl⟩
  | some w => exact ⟨w, by simp [Value.get, hw], .inr (propsAdmit_lookup hprops hk hw)⟩

/-- A property read with a default its schema admits meets its schema, there or not. -/
theorem get_of_admits_default (h : (object props req).admits args = true)
    (hk : props.lookup k = some s) {d : Value} (hd : s.admits d = true) :
    ∃ w, args.get k d = .ok w ∧ s.admits w = true := by
  obtain ⟨w, hget, rfl | hw⟩ := get_of_admits h hk d
  · exact ⟨_, hget, hd⟩
  · exact ⟨w, hget, hw⟩

end Schema

/-! ### What the service's checks make of admitted values -/

/-- Whether a check meets a value the schemas leave open: a zero where the check wants a
positive number, an empty text where it wants one filled, a blank one where it wants one
not blank. -/
def ArgCheck.zeroOrBlank : ArgCheck → Bool
  | .positive v => v.isZero
  | .filled v => !v.truthy
  | .notBlank v =>
    match v.textFor "strip" with
    | .ok s => (Text.strip s).isEmpty
    | .error _ => false
  | _ => false

/-- The colour a call asks for; saving asks for none. -/
def Service.Call.colour : Service.Call → Value
  | .line _ _ _ c _ | .circle _ _ _ c _ | .arc _ _ _ _ _ c _ | .ellipse _ _ _ _ _ c _
  | .polyline _ _ _ c _ | .rectangle _ _ _ c _ | .text _ _ _ _ _ c | .hatch _ _ _ _ c
  | .dimension _ _ _ _ c => c
  | .save _ => .null

open Schema

/-- An array whose schema asks for `n` items or more has them. -/
theorem hasAtLeast_of_admits {items : Option Schema} {props : List (String × Schema)}
    {req : List String} {n : Nat} {hi : Option Nat} {mn mx : Option Int} {d : Option Value}
    {desc : Option String} {v : Value}
    (h : (node .array items props req (some n) hi mn mx d desc).admits v = true) :
    v.hasAtLeast n = true := by
  obtain ⟨htype, hcount, -⟩ := admits_node_iff.mp h
  cases v with
  | list xs =>
    simp only [countWithin, Option.all_some, Bool.and_eq_true, decide_eq_true_eq] at hcount
    simpa [Value.hasAtLeast, Value.len] using hcount.1
  | _ => simp [JsonType.admits] at htype

/-- A sequence long enough passes the check of its count, which no value leaves open. -/
theorem ArgCheck.atLeast_passes {v : Value} {n : Nat} (h : v.hasAtLeast n = true) :
    (ArgCheck.atLeast v n).passes = !(ArgCheck.atLeast v n).zeroOrBlank := by
  simp [ArgCheck.passes, ArgCheck.zeroOrBlank, h]

/-- A point its schema admits has two coordinates or more. -/
theorem point_passes {d : String} {v : Value} (h : (point d).admits v = true) :
    (ArgCheck.atLeast v 2).passes = !(ArgCheck.atLeast v 2).zeroOrBlank :=
  ArgCheck.atLeast_passes (hasAtLeast_of_admits h)

/-- Points their schema admits are at least `n`, each of two coordinates or more: both
checks pass. -/
theorem pointList_passes {n : Nat} {d : String} {v : Value}
    (h : (pointList n d).admits v = true) :
    (ArgCheck.atLeast v n).passes = !(ArgCheck.atLeast v n).zeroOrBlank ∧
      (ArgCheck.points v).passes = !(ArgCheck.points v).zeroOrBlank := by
  refine ⟨ArgCheck.atLeast_passes (hasAtLeast_of_admits h), ?_⟩
  obtain ⟨htype, -, -, -, hitems, -⟩ := admits_node_iff.mp h
  cases v with
  | list xs =>
    simp only [itemsAdmit, List.all_eq_true] at hitems
    simp only [ArgCheck.passes, ArgCheck.zeroOrBlank, Value.elements, List.all_eq_true,
      Bool.not_false]
    exact fun p hp => hasAtLeast_of_admits (hitems p hp)
  | _ => simp [JsonType.admits] at htype

/-- A number its schema keeps from below zero. -/
theorem nonNegative_num {d : String} {v : Value} (h : (nonNegative d).admits v = true) :
    ∃ a, v.num? = some a ∧ a.holds .ge 0 = true := by
  obtain ⟨htype, -, hbound, -⟩ := admits_node_iff.mp h
  cases v with
  | int n => exact ⟨_, rfl, by simpa [boundWithin, Num.within] using hbound⟩
  | float x => exact ⟨_, rfl, by simpa [boundWithin, Num.within] using hbound⟩
  | _ => simp [JsonType.admits] at htype

/-- A number not below a bound is not less than it. -/
theorem Num.holds_lt_of_ge {a : Num} {n : Int} (h : a.holds .ge n = true) :
    a.holds .lt n = false := by
  cases a with
  | int m => cases hc : compare m n <;> simp_all [Num.holds]
  | float x =>
    cases hc : Num.compareFloatInt x n with
    | none => simp [Num.holds, hc]
    | some o => cases o <;> simp_all [Num.holds]

/-- A number not below zero passes the check of being positive exactly when it is not zero,
and that of not being negative always. -/
theorem ArgCheck.positive_of_notBelow {v : Value}
    (h : ∃ a, v.num? = some a ∧ a.holds .ge 0 = true) :
    (ArgCheck.positive v).passes = !(ArgCheck.positive v).zeroOrBlank ∧
      (ArgCheck.notNegative v).passes = !(ArgCheck.notNegative v).zeroOrBlank := by
  obtain ⟨a, hnum, hge⟩ := h
  have hcmp : ∀ op, v.compareInt op 0 = .ok (a.holds op 0) := fun op => by
    simp [Value.compareInt, hnum]
  -- zero is the one number not below zero that is at most zero
  simp [ArgCheck.passes, ArgCheck.zeroOrBlank, hcmp, Value.isZero, hnum, hge,
    Num.holds_lt_of_ge hge]

/-- A text passes the checks of being filled and not blank exactly when it is neither empty
nor blank. -/
theorem ArgCheck.text_passes (s : String) :
    (ArgCheck.filled (.str s)).passes = !(ArgCheck.filled (.str s)).zeroOrBlank ∧
      (ArgCheck.notBlank (.str s)).passes = !(ArgCheck.notBlank (.str s)).zeroOrBlank := by
  simp [ArgCheck.passes, ArgCheck.zeroOrBlank, Value.textFor]

/-- A text its schema admits. -/
theorem text_str {d : String} {v : Value} (h : (text d).admits v = true) : ∃ s, v = .str s := by
  cases v with
  | str s => exact ⟨s, rfl⟩
  | _ => simp [text, admits, JsonType.admits] at h

/-- A colour its schema admits, or none, is not outside `0 … 255`. -/
theorem colourOutside_of_admits {v : Value} (h : v = .null ∨ colour.admits v = true) :
    Service.colourOutside v = .ok false := by
  rcases h with rfl | h
  · rfl
  · cases v with
    | int n =>
      obtain ⟨-, -, hbound, -⟩ := admits_node_iff.mp h
      simp only [boundWithin, Num.within, Option.all_some, Bool.and_eq_true, Num.holds_int,
        decide_eq_true_eq] at hbound
      have hlo : ¬n < 0 := by omega
      have hhi : ¬255 < n := by omega
      simp [Service.colourOutside, Value.compareInt, Value.num?, Num.holds_int, hlo, hhi, bind,
        Except.bind]
    | _ => simp [colour, admits, JsonType.admits] at h

/-! ### The tools -/

/-- The arguments `args` of the tool `name` are read without a fault into a call of the
service, whose colour is in range, and each of whose checks fails exactly where the value is
one the schemas leave open. -/
def CheckedUnlessOpen (name : String) (args : Value) : Prop :=
  ∃ call : Service.Call, (∀ room, Server.runTool room (.str name) args = call.run room) ∧
    Service.colourOutside call.colour = .ok false ∧
    ∀ c ∈ call.checks, c.passes = !c.zeroOrBlank

section Tools

variable {args : Value}

-- every lemma below unfolds the tool's call, the reading of its arguments and the service's
-- call; their equations are made once here rather than in each proof
attribute [local simp] Server.runTool Server.needed Server.optional Service.Call.run
  Service.Call.checks

theorem line_checked (h : (tools.get ⟨0, by decide⟩).inputSchema.admits args = true) :
    CheckedUnlessOpen "draw_line" args := by
  obtain ⟨a, ha, hpa⟩ := index_of_admits h (k := "start") (by decide) rfl
  obtain ⟨b, hb, hpb⟩ := index_of_admits h (k := "end") (by decide) rfl
  obtain ⟨l, hl, -⟩ := get_of_admits h (k := "layer") rfl .null
  obtain ⟨c, hc, hpc⟩ := get_of_admits h (k := "color") rfl .null
  obtain ⟨w, hw, -⟩ := get_of_admits h (k := "lineweight") rfl .null
  refine ⟨.line a b l c w, fun room => ?_, colourOutside_of_admits hpc, ?_⟩
  · simp [ha, hb, hl, hc, hw, Op.lift_ok]
  · simp [point_passes hpa, point_passes hpb]

theorem circle_checked (h : (tools.get ⟨1, by decide⟩).inputSchema.admits args = true) :
    CheckedUnlessOpen "draw_circle" args := by
  obtain ⟨a, ha, hpa⟩ := index_of_admits h (k := "center") (by decide) rfl
  obtain ⟨r, hr, hpr⟩ := index_of_admits h (k := "radius") (by decide) rfl
  obtain ⟨l, hl, -⟩ := get_of_admits h (k := "layer") rfl .null
  obtain ⟨c, hc, hpc⟩ := get_of_admits h (k := "color") rfl .null
  obtain ⟨w, hw, -⟩ := get_of_admits h (k := "lineweight") rfl .null
  refine ⟨.circle a r l c w, fun room => ?_, colourOutside_of_admits hpc, ?_⟩
  · simp [ha, hr, hl, hc, hw, Op.lift_ok]
  · simp [point_passes hpa, (ArgCheck.positive_of_notBelow (nonNegative_num hpr)).1]

theorem arc_checked (h : (tools.get ⟨2, by decide⟩).inputSchema.admits args = true) :
    CheckedUnlessOpen "draw_arc" args := by
  obtain ⟨a, ha, hpa⟩ := index_of_admits h (k := "center") (by decide) rfl
  obtain ⟨r, hr, hpr⟩ := index_of_admits h (k := "radius") (by decide) rfl
  obtain ⟨s, hs, -⟩ := index_of_admits h (k := "start_angle") (by decide) rfl
  obtain ⟨e, he, -⟩ := index_of_admits h (k := "end_angle") (by decide) rfl
  obtain ⟨l, hl, -⟩ := get_of_admits h (k := "layer") rfl .null
  obtain ⟨c, hc, hpc⟩ := get_of_admits h (k := "color") rfl .null
  obtain ⟨w, hw, -⟩ := get_of_admits h (k := "lineweight") rfl .null
  refine ⟨.arc a r s e l c w, fun room => ?_, colourOutside_of_admits hpc, ?_⟩
  · simp [ha, hr, hs, he, hl, hc, hw, Op.lift_ok]
  · simp [point_passes hpa, (ArgCheck.positive_of_notBelow (nonNegative_num hpr)).1]

theorem ellipse_checked (h : (tools.get ⟨3, by decide⟩).inputSchema.admits args = true) :
    CheckedUnlessOpen "draw_ellipse" args := by
  obtain ⟨a, ha, hpa⟩ := index_of_admits h (k := "center") (by decide) rfl
  obtain ⟨p, hp, hpp⟩ := index_of_admits h (k := "major_axis") (by decide) rfl
  obtain ⟨q, hq, hpq⟩ := index_of_admits h (k := "minor_axis") (by decide) rfl
  obtain ⟨r, hr, -⟩ := get_of_admits h (k := "rotation") rfl (.int 0)
  obtain ⟨l, hl, -⟩ := get_of_admits h (k := "layer") rfl .null
  obtain ⟨c, hc, hpc⟩ := get_of_admits h (k := "color") rfl .null
  obtain ⟨w, hw, -⟩ := get_of_admits h (k := "lineweight") rfl .null
  refine ⟨.ellipse a p q r l c w, fun room => ?_, colourOutside_of_admits hpc, ?_⟩
  · simp [ha, hp, hq, hr, hl, hc, hw, Op.lift_ok]
  · simp [point_passes hpa, (ArgCheck.positive_of_notBelow (nonNegative_num hpp)).1,
      (ArgCheck.positive_of_notBelow (nonNegative_num hpq)).2]

theorem polyline_checked (h : (tools.get ⟨4, by decide⟩).inputSchema.admits args = true) :
    CheckedUnlessOpen "draw_polyline" args := by
  obtain ⟨ps, hps, hpps⟩ := index_of_admits h (k := "points") (by decide) rfl
  obtain ⟨k, hk, -⟩ := get_of_admits h (k := "closed") rfl (.bool false)
  obtain ⟨l, hl, -⟩ := get_of_admits h (k := "layer") rfl .null
  obtain ⟨c, hc, hpc⟩ := get_of_admits h (k := "color") rfl .null
  obtain ⟨w, hw, -⟩ := get_of_admits h (k := "lineweight") rfl .null
  refine ⟨.polyline ps k l c w, fun room => ?_, colourOutside_of_admits hpc, ?_⟩
  · simp [hps, hk, hl, hc, hw, Op.lift_ok]
  · simp [(pointList_passes hpps).1, (pointList_passes hpps).2]

theorem rectangle_checked (h : (tools.get ⟨5, by decide⟩).inputSchema.admits args = true) :
    CheckedUnlessOpen "draw_rectangle" args := by
  obtain ⟨a, ha, hpa⟩ := index_of_admits h (k := "corner1") (by decide) rfl
  obtain ⟨b, hb, hpb⟩ := index_of_admits h (k := "corner2") (by decide) rfl
  obtain ⟨l, hl, -⟩ := get_of_admits h (k := "layer") rfl .null
  obtain ⟨c, hc, hpc⟩ := get_of_admits h (k := "color") rfl .null
  obtain ⟨w, hw, -⟩ := get_of_admits h (k := "lineweight") rfl .null
  refine ⟨.rectangle a b l c w, fun room => ?_, colourOutside_of_admits hpc, ?_⟩
  · simp [ha, hb, hl, hc, hw, Op.lift_ok]
  · simp [point_passes hpa, point_passes hpb]

theorem text_checked (h : (tools.get ⟨6, by decide⟩).inputSchema.admits args = true) :
    CheckedUnlessOpen "draw_text" args := by
  obtain ⟨p, hp, hpp⟩ := index_of_admits h (k := "position") (by decide) rfl
  obtain ⟨t, ht, hpt⟩ := index_of_admits h (k := "text") (by decide) rfl
  -- the height read is the default, which its schema admits, or one the schema admits
  obtain ⟨z, hz, hpz⟩ := get_of_admits_default h (k := "height") rfl (d := .float 2.5)
    (by decide +kernel)
  obtain ⟨r, hr, -⟩ := get_of_admits h (k := "rotation") rfl (.int 0)
  obtain ⟨l, hl, -⟩ := get_of_admits h (k := "layer") rfl .null
  obtain ⟨c, hc, hpc⟩ := get_of_admits h (k := "color") rfl .null
  obtain ⟨s, rfl⟩ := text_str hpt
  rw [admits_withDefault] at hpz
  refine ⟨.text p (.str s) z r l c, fun room => ?_, colourOutside_of_admits hpc, ?_⟩
  · simp [hp, ht, hz, hr, hl, hc, Op.lift_ok]
  · simp [point_passes hpp,
      (ArgCheck.text_passes s).1, (ArgCheck.positive_of_notBelow (nonNegative_num hpz)).1]

theorem hatch_checked (h : (tools.get ⟨7, by decide⟩).inputSchema.admits args = true) :
    CheckedUnlessOpen "draw_hatch" args := by
  obtain ⟨ps, hps, hpps⟩ := index_of_admits h (k := "boundary_points") (by decide) rfl
  obtain ⟨n, hn, hpn⟩ := get_of_admits_default h (k := "pattern_name") rfl (d := .str "SOLID")
    (by decide)
  obtain ⟨z, hz, hpz⟩ := get_of_admits_default h (k := "pattern_scale") rfl (d := .float 1.0)
    (by decide +kernel)
  obtain ⟨l, hl, -⟩ := get_of_admits h (k := "layer") rfl .null
  obtain ⟨c, hc, hpc⟩ := get_of_admits h (k := "color") rfl .null
  rw [admits_withDefault] at hpn hpz
  obtain ⟨s, rfl⟩ := text_str hpn
  refine ⟨.hatch ps (.str s) z l c, fun room => ?_, colourOutside_of_admits hpc, ?_⟩
  · simp [hps, hn, hz, hl, hc, Op.lift_ok]
  · simp [(pointList_passes hpps).1, (pointList_passes hpps).2, (ArgCheck.text_passes s).1,
      (ArgCheck.positive_of_notBelow (nonNegative_num hpz)).1]

theorem dimension_checked (h : (tools.get ⟨8, by decide⟩).inputSchema.admits args = true) :
    CheckedUnlessOpen "add_dimension" args := by
  obtain ⟨a, ha, hpa⟩ := index_of_admits h (k := "start") (by decide) rfl
  obtain ⟨b, hb, hpb⟩ := index_of_admits h (k := "end") (by decide) rfl
  obtain ⟨t, ht, hpt⟩ := index_of_admits h (k := "text_position") (by decide) rfl
  obtain ⟨l, hl, -⟩ := get_of_admits h (k := "layer") rfl .null
  obtain ⟨c, hc, hpc⟩ := get_of_admits h (k := "color") rfl .null
  refine ⟨.dimension a b t l c, fun room => ?_, colourOutside_of_admits hpc, ?_⟩
  · simp [ha, hb, ht, hl, hc, Op.lift_ok]
  · simp [point_passes hpa, point_passes hpb, point_passes hpt]

theorem save_checked (h : (tools.get ⟨9, by decide⟩).inputSchema.admits args = true) :
    CheckedUnlessOpen "save_drawing" args := by
  obtain ⟨p, hp, hpp⟩ := index_of_admits h (k := "file_path") (by decide) rfl
  obtain ⟨s, rfl⟩ := text_str hpp
  refine ⟨.save (.str s), fun room => ?_, rfl, ?_⟩
  · simp [hp, Op.lift_ok]
  · simp [(ArgCheck.text_passes s).1, (ArgCheck.text_passes s).2]

end Tools

/-- The arguments a tool's schema admits, for every tool but the one that reads a sentence,
are read without a fault into a call of the service, with a colour in range when one is
given; and each check the service makes of them fails exactly where the value is one the
schemas leave open: a radius, an axis, a height or a scale of zero, or an empty or blank
text, pattern name or path. -/
theorem admitted_arguments_checked (t : Tool) (ht : t ∈ tools)
    (hname : t.name ≠ "process_command") (args : Value)
    (hargs : t.inputSchema.admits args = true) :
    ∃ call : Service.Call, (∀ room, Server.runTool room (.str t.name) args = call.run room) ∧
      Service.colourOutside call.colour = .ok false ∧
      ∀ c ∈ call.checks, c.passes = !c.zeroOrBlank := by
  simp only [tools, List.mem_cons, List.not_mem_nil, or_false] at ht
  rcases ht with rfl | rfl | rfl | rfl | rfl | rfl | rfl | rfl | rfl | rfl | rfl
  · exact line_checked hargs
  · exact circle_checked hargs
  · exact arc_checked hargs
  · exact ellipse_checked hargs
  · exact polyline_checked hargs
  · exact rectangle_checked hargs
  · exact text_checked hargs
  · exact hatch_checked hargs
  · exact dimension_checked hargs
  · exact save_checked hargs
  · exact absurd rfl hname

/-- A circle of radius zero at the origin meets its schema, and the service reads it. -/
theorem admitted_zero_radius :
    let args : Value := .dict [("center", .list [.int 0, .int 0]), ("radius", .int 0)]
    tools.get ⟨1, by decide⟩ ∈ tools ∧
      (tools.get ⟨1, by decide⟩).name ≠ "process_command" ∧
      (tools.get ⟨1, by decide⟩).inputSchema.admits args = true ∧
      ∃ call : Service.Call,
        (∀ room,
          Server.runTool room (.str (tools.get ⟨1, by decide⟩).name) args = call.run room) ∧
        Service.colourOutside call.colour = .ok false ∧
        ∀ c ∈ call.checks, c.passes = !c.zeroOrBlank :=
  ⟨List.get_mem _ _, by decide, by decide,
    admitted_arguments_checked _ (List.get_mem _ _) (by decide) _ (by decide)⟩

/-- The circle of radius zero its schema admits is refused, as a radius the schema leaves
open. -/
theorem zero_radius_admitted_refused :
    let args : Value := .dict [("center", .list [.int 0, .int 0]), ("radius", .int 0)]
    let σ : Station :=
      ⟨{}, ⟨"/work", [], .empty, .empty⟩, Service.ofSettings Settings.shipped⟩
    (tools.get ⟨1, by decide⟩).inputSchema.admits args = true ∧
      (ArgCheck.positive (.int 0)).zeroOrBlank = true ∧
      (match ((Server.callTool (.str "draw_circle") args).run.run σ).1 with
        | .ok (.refused m) => m
        | _ => "") = "Radius must be positive" := by
  refine ⟨?_, ?_, ?_⟩ <;> decide

/-- The other way round, a line from a point of four coordinates is drawn, though its schema
allows a point at most three. -/
theorem four_coordinates_drawn_not_admitted :
    let args : Value := .dict [("start", .list [.int 0, .int 0, .int 0, .int 0]),
      ("end", .list [.int 1, .int 1])]
    let σ : Station :=
      ⟨{}, ⟨"/work", [], .empty, .empty⟩, Service.ofSettings Settings.shipped⟩
    (tools.get ⟨0, by decide⟩).inputSchema.admits args = false ∧
      (match ((Server.callTool (.str "draw_line") args).run.run σ).1 with
        | .ok (.refused _) => false
        | .ok _ => true
        | .error _ => false) = true :=
  ⟨by decide, by decide +kernel⟩

end Drafting
