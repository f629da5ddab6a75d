import Mathlib
import Drafting.Session

/-!
# How deeply the arguments of a session nest

A drawing operation writes the literals of some of its arguments into the note of its
command, and a literal nested deeper than the call stack holds stops it there
(`Service.literalFits`).  The values a session hands over come from its request, and the
reader of requests turns away a request nested deeper than its own room
(`Session.readable`).  This module bounds the nesting of what the service sees by the
nesting of what it was given.

Each way the service reads a value keeps the bound: the value under a key of an object
lies one level below the object (`reprDepth_lt_of_index`), the items of a sequence one
level below it, and the characters of a text and the keys of an object are flat
(`reprDepth_of_elements`).  Binding named arguments answers the values given or the
defaults (`Signature.reprDepth_of_byName`), and what a sentence is read into is at most
three levels deep (`Command.Request.entriesDepth_parameters`).

The reader of requests spends two calls on each array or object
(`two_mul_reprDepth_le_readCalls`), so the arguments of a step of a readable request are at
most `Session.argumentRoom` levels deep (`Session.argumentsDepth_of_readable`), far within
what the drawing operations can note.
-/

namespace Drafting

namespace Value

/-! ### Nesting of values -/

@[simp, grind =] theorem reprDepth_null : null.reprDepth = 1 := rfl
@[simp, grind =] theorem reprDepth_bool (b : Bool) : (bool b).reprDepth = 1 := rfl
@[simp, grind =] theorem reprDepth_int (n : Int) : (int n).reprDepth = 1 := rfl
@[simp, grind =] theorem reprDepth_float (x : Float) : (float x).reprDepth = 1 := rfl
@[simp, grind =] theorem reprDepth_str (s : String) : (str s).reprDepth = 1 := rfl
@[simp, grind =] theorem reprDepth_list (xs : List Value) : (list xs).reprDepth = itemsDepth xs + 1 := rfl
@[simp, grind =] theorem reprDepth_tuple (xs : List Value) : (tuple xs).reprDepth = itemsDepth xs + 1 := rfl
@[simp, grind =] theorem reprDepth_dict (kvs : List (String × Value)) :
    (dict kvs).reprDepth = entriesDepth kvs + 1 := rfl
@[simp, grind =] theorem itemsDepth_nil : itemsDepth [] = 0 := rfl
@[simp, grind =] theorem itemsDepth_cons (x : Value) (rest : List Value) :
    itemsDepth (x :: rest) = max x.reprDepth (itemsDepth rest) := rfl
@[simp, grind =] theorem entriesDepth_nil : entriesDepth [] = 0 := rfl
@[simp, grind =] theorem entriesDepth_cons (k : String) (v : Value) (rest : List (String × Value)) :
    entriesDepth ((k, v) :: rest) = max v.reprDepth (entriesDepth rest) := rfl

theorem le_itemsDepth {x : Value} {xs : List Value} (h : x ∈ xs) :
    x.reprDepth ≤ itemsDepth xs := by
  induction xs with
  | nil => simp at h
  | cons y rest ih =>
    simp only [itemsDepth]
    rcases List.mem_cons.1 h with rfl | h
    · exact le_max_left _ _
    · exact (ih h).trans (le_max_right _ _)

theorem itemsDepth_le {xs : List Value} {n : Nat} (h : ∀ x ∈ xs, x.reprDepth ≤ n) :
    itemsDepth xs ≤ n := by
  induction xs with
  | nil => exact Nat.zero_le n
  | cons y rest ih =>
    simp only [itemsDepth]
    exact max_le (h y (by simp)) (ih fun x hx => h x (by simp [hx]))

theorem entriesDepth_le {kvs : List (String × Value)} {n : Nat}
    (h : ∀ kv ∈ kvs, kv.2.reprDepth ≤ n) : entriesDepth kvs ≤ n := by
  induction kvs with
  | nil => exact Nat.zero_le n
  | cons kv rest ih =>
    obtain ⟨k, v⟩ := kv
    simp only [entriesDepth]
    exact max_le (h (k, v) (by simp)) (ih fun kv hkv => h kv (by simp [hkv]))

theorem le_entriesDepth_of_lookup {kvs : List (String × Value)} {k : String} {v : Value}
    (h : lookup k kvs = some v) : v.reprDepth ≤ entriesDepth kvs := by
  induction kvs with
  | nil => simp [lookup] at h
  | cons kv rest ih =>
    obtain ⟨k', w⟩ := kv
    simp only [lookup] at h
    simp only [entriesDepth]
    split at h
    · cases h
      exact le_max_left _ _
    · exact (ih h).trans (le_max_right _ _)

/-- The value under a key of an object lies one level below the object. -/
theorem reprDepth_lt_of_index {v w : Value} {k : String} (h : v.index k = .ok w) :
    w.reprDepth < v.reprDepth := by
  cases v with
  | dict kvs =>
    simp only [index] at h
    split at h
    · rename_i hk
      cases h
      have hle := le_entriesDepth_of_lookup hk
      simp only [reprDepth]
      omega
    · cases h
  | _ => simp [index] at h

/-- The value under a key of an object lies below it, or it is the default. -/
theorem reprDepth_of_get {v w d : Value} {k : String} (h : v.get k d = .ok w) :
    w.reprDepth < v.reprDepth ∨ w = d := by
  cases v with
  | dict kvs =>
    simp only [get, Except.ok.injEq] at h
    subst h
    cases hk : lookup k kvs with
    | none => exact .inr rfl
    | some w =>
      have hle := le_entriesDepth_of_lookup hk
      left
      simp only [Option.getD_some, reprDepth]
      omega
  | _ => simp [get] at h

/-- The same, as a bound: one level less than the object, or the default's. -/
theorem reprDepth_le_of_get {v w d : Value} {k : String} (h : v.get k d = .ok w) :
    w.reprDepth ≤ max (v.reprDepth - 1) d.reprDepth := by
  rcases reprDepth_of_get h with hlt | rfl <;> omega

/-- Walking through a value meets its items, one level below it, or flat texts: the
characters of a text and the keys of an object. -/
theorem reprDepth_of_elements {v x : Value} {xs : List Value} (h : v.elements = .ok xs)
    (hx : x ∈ xs) : x.reprDepth < v.reprDepth ∨ x.reprDepth = 1 := by
  cases v with
  | str s =>
    simp only [elements, Except.ok.injEq] at h
    subst h
    obtain ⟨c, -, rfl⟩ := List.mem_map.1 hx
    exact .inr rfl
  | list ys =>
    simp only [elements, Except.ok.injEq] at h
    subst h
    have := le_itemsDepth hx
    left
    simp only [reprDepth]
    omega
  | tuple ys =>
    simp only [elements, Except.ok.injEq] at h
    subst h
    have := le_itemsDepth hx
    left
    simp only [reprDepth]
    omega
  | dict kvs =>
    simp only [elements, Except.ok.injEq] at h
    subst h
    obtain ⟨kv, -, rfl⟩ := List.mem_map.1 hx
    exact .inr rfl
  | _ => simp [elements] at h

/-- The items of a value as a sequence are no deeper than the value, or two levels. -/
theorem reprDepth_of_items {v : Value} {xs : List Value} (h : v.elements = .ok xs) :
    itemsDepth xs + 1 ≤ max v.reprDepth 2 := by
  have hitems : itemsDepth xs ≤ max (v.reprDepth - 1) 1 :=
    itemsDepth_le fun x hx => by
      rcases reprDepth_of_elements h hx with hlt | heq <;> omega
  omega

theorem reprDepth_toList {v w : Value} (h : v.toList = .ok w) : w.reprDepth ≤ max v.reprDepth 2 := by
  simp only [toList, bind, Except.bind, pure, Except.pure] at h
  split at h
  · cases h
  · rename_i xs hxs
    cases h
    simpa only [reprDepth] using reprDepth_of_items hxs

/-! ### What the reader of requests spends -/

theorem le_itemsCalls {x : Value} {xs : List Value} (h : x ∈ xs) : x.readCalls ≤ itemsCalls xs := by
  induction xs with
  | nil => simp at h
  | cons y rest ih =>
    simp only [itemsCalls]
    rcases List.mem_cons.1 h with rfl | h
    · exact le_max_left _ _
    · exact (ih h).trans (le_max_right _ _)

theorem le_entriesCalls_of_lookup {kvs : List (String × Value)} {k : String} {v : Value}
    (h : lookup k kvs = some v) : v.readCalls ≤ entriesCalls kvs := by
  induction kvs with
  | nil => simp [lookup] at h
  | cons kv rest ih =>
    obtain ⟨k', w⟩ := kv
    simp only [lookup] at h
    simp only [entriesCalls]
    split at h
    · cases h
      exact le_max_left _ _
    · exact (ih h).trans (le_max_right _ _)

mutual

/-- The reader spends two calls on each level of an array or object and one on the value
at the bottom; by induction on the value and its items. -/
theorem two_mul_reprDepth_le_readCalls : (v : Value) → 2 * v.reprDepth ≤ v.readCalls + 1
  | list xs => by
    have := two_mul_itemsDepth_le xs
    simp only [reprDepth, readCalls]
    omega
  | tuple xs => by
    have := two_mul_itemsDepth_le xs
    simp only [reprDepth, readCalls]
    omega
  | dict kvs => by
    have := two_mul_entriesDepth_le kvs
    simp only [reprDepth, readCalls]
    omega
  | null | bool _ | int _ | float _ | str _ => by simp [reprDepth, readCalls]

theorem two_mul_itemsDepth_le : (xs : List Value) → 2 * itemsDepth xs ≤ itemsCalls xs + 1
  | [] => by simp [itemsDepth, itemsCalls]
  | x :: rest => by
    have hx := two_mul_reprDepth_le_readCalls x
    have hrest := two_mul_itemsDepth_le rest
    simp only [itemsDepth, itemsCalls]
    omega

theorem two_mul_entriesDepth_le : (kvs : List (String × Value)) →
    2 * entriesDepth kvs ≤ entriesCalls kvs + 1
  | [] => by simp [entriesDepth, entriesCalls]
  | (_, v) :: rest => by
    have hv := two_mul_reprDepth_le_readCalls v
    have hrest := two_mul_entriesDepth_le rest
    simp only [entriesDepth, entriesCalls]
    omega

end

/-- An object of the entries of a value is no deeper than the value, or one level. -/
theorem reprDepth_dict_fields (v : Value) :
    (dict (Session.fields v)).reprDepth ≤ max v.reprDepth 1 := by
  cases v <;> simp [Session.fields, reprDepth, entriesDepth]

end Value

/-- The deepest default of a signature's parameters; a parameter without one counts as
`null`. -/
def Signature.defaultsDepth (sig : Signature) : Nat :=
  (sig.params.map fun p => (p.default.getD .null).reprDepth).foldr max 1

theorem Signature.le_defaultsDepth {sig : Signature} {p : Param} (hp : p ∈ sig.params) :
    (p.default.getD .null).reprDepth ≤ sig.defaultsDepth := by
  obtain ⟨name, params⟩ := sig
  simp only [defaultsDepth] at hp ⊢
  induction params with
  | nil => simp at hp
  | cons q rest ih =>
    simp only [List.map_cons, List.foldr_cons]
    rcases List.mem_cons.1 hp with rfl | hp
    · exact le_max_left _ _
    · exact (ih hp).trans (le_max_right _ _)

/-- Binding named arguments answers values no deeper than the arguments given and the
defaults. -/
theorem Signature.reprDepth_of_byName {sig : Signature} {args : List (String × Value)}
    {vs : List Value} (hbind : sig.byName args = .ok vs) :
    ∀ v ∈ vs, v.reprDepth ≤ max (Value.entriesDepth args) sig.defaultsDepth := by
  simp only [Signature.byName] at hbind
  split at hbind
  · split at hbind <;> cases hbind
  · simp only [Signature.fill] at hbind
    split at hbind
    · cases hbind
      intro v hv
      obtain ⟨p, hp, rfl⟩ := List.mem_map.1 hv
      have hdefault := le_defaultsDepth hp
      cases hk : Value.lookup p.name args with
      | some w =>
        have := Value.le_entriesDepth_of_lookup hk
        simp only [hk, Option.orElse_some, Option.getD_some]
        omega
      | none =>
        simp only [hk, Option.orElse_none]
        omega
    · cases hbind

namespace Command

theorem Num.reprDepth_toValue (x : Num) : x.toValue.reprDepth = 1 := by
  cases x <;> rfl

theorem Point.reprDepth_toValue (p : Point) : p.toValue.reprDepth = 2 := by
  simp [Point.toValue, Value.reprDepth, Value.itemsDepth, Num.reprDepth_toValue]

theorem reprDepth_points (ps : List Point) : (Value.list (ps.map Point.toValue)).reprDepth ≤ 3 := by
  have hitems : Value.itemsDepth (ps.map Point.toValue) ≤ 2 :=
    Value.itemsDepth_le fun x hx => by
      obtain ⟨p, -, rfl⟩ := List.mem_map.1 hx
      exact (Point.reprDepth_toValue p).le
  simp only [Value.reprDepth]
  omega

/-- The parameters of a shape are at most three levels deep: numbers, texts and truth
values, points of two numbers, and lists of points. -/
theorem Params.entries_depth (p : Params) : ∀ kv ∈ p.entries, kv.2.reprDepth ≤ 3 := by
  have hnum := Num.reprDepth_toValue
  have hpoint := Point.reprDepth_toValue
  have hpoints := reprDepth_points
  cases p with
  | points ps =>
    cases ps with
    | nil => simp [Params.entries]
    | cons q rest => simpa [Params.entries] using hpoints (q :: rest)
  | _ => simp_all [Params.entries, Value.reprDepth]

/-- What a sentence is read into is at most three levels deep. -/
theorem Request.entriesDepth_parameters (r : Request) :
    Value.entriesDepth r.parameters ≤ 3 := by
  apply Value.entriesDepth_le
  unfold Request.parameters
  split
  · simp
  · rename_i p _
    intro kv hkv
    rcases List.mem_append.1 hkv with hkv | hkv
    · exact Params.entries_depth p kv hkv
    · split at hkv <;> simp_all

end Command

/-! ### The arguments a readable request carries -/

/-- How deeply the arguments of a step nest: those of a tool call, or the named arguments
of a direct call of the service taken as one object; nothing for the other steps. -/
def Step.argumentsDepth : Step → Nat
  | .tool _ args => args.reprDepth
  | .service _ args => (Value.dict args).reprDepth
  | _ => 0

namespace Session

/-- The deepest arguments the steps of a readable request carry.  They stand inside the
request, its list of steps and the step, which take two calls of the reader each, and a
value `n` levels deep takes at least `2 * n - 1` calls. -/
def argumentRoom : Nat := (readRoom - 5) / 2

/-- The step a request writes as an object spends on its arguments at most what it
spends on itself, less the call on the object and the walk over its entries. -/
theorem argumentsDepth_stepOf (x : Value) :
    2 * (stepOf x).argumentsDepth ≤ max (x.readCalls - 1) 2 := by
  set args := (Value.lookup "args" (fields x)).getD (.dict []) with hargs_def
  have hargs : 2 * args.reprDepth ≤ max (x.readCalls - 1) 2 := by
    have hcalls := Value.two_mul_reprDepth_le_readCalls args
    cases hk : Value.lookup "args" (fields x) with
    | none => simp [hargs_def, hk, Value.reprDepth, Value.entriesDepth]
    | some a =>
      have hx : a.readCalls + 2 ≤ x.readCalls := by
        cases x with
        | dict kvs =>
          have := Value.le_entriesCalls_of_lookup (show Value.lookup "args" kvs = some a from hk)
          simp only [Value.readCalls]
          omega
        | _ => simp [fields, Value.lookup] at hk
      simp only [hargs_def, hk, Option.getD_some] at hcalls ⊢
      omega
  have hfields := Value.reprDepth_dict_fields args
  dsimp only [stepOf]
  rw [← hargs_def]
  split <;> simp only [Step.argumentsDepth] <;> omega

/-- The arguments of every step of a readable request are at most `argumentRoom` deep. -/
theorem argumentsDepth_of_readable {request : Value} (hread : readable request = true)
    {s : Step} (hs : s ∈ stepsOf request) : s.argumentsDepth ≤ argumentRoom := by
  unfold stepsOf at hs
  split at hs
  · rename_i xs hsteps
    obtain ⟨x, hx, rfl⟩ := List.mem_map.1 hs
    -- the request spends two calls on itself and two on its list of steps before the step
    have hrequest : x.readCalls + 4 ≤ request.readCalls := by
      have hitem := Value.le_itemsCalls hx
      cases request with
      | dict kvs =>
        have := Value.le_entriesCalls_of_lookup (show Value.lookup "steps" kvs = some (.list xs) from hsteps)
        simp only [Value.readCalls] at this ⊢
        omega
      | _ => simp [fields, Value.lookup] at hsteps
    have hroom : request.readCalls ≤ readRoom := by simpa [readable] using hread
    have hstep := argumentsDepth_stepOf x
    simp only [argumentRoom, readRoom] at hroom ⊢
    omega
  · simp at hs

end Session

end Drafting
