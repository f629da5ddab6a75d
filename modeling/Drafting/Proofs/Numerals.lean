import Mathlib
import Drafting.Proofs.Marks

/-!
# Finite doubles, and the doubles a sentence is read into

JSON has no word for a double that is infinite or not a number; `Value.finite` says that a
value holds none.

A sentence is read into doubles in two ways.  Each numeral it holds stands for the double
nearest to it, and a numeral past the largest double stands for an infinity
(`Numeral.value`); `numeralsFinite` says that no numeral of a text does so, wherever a reader
starts.  The readers of pairs, numbers and keyword values all read numerals at places of
the sentence, so under that condition all they read is finite (`pairs_finite`,
`numbers_finite`, `keywordNumber_finite`).  The other way is the one sum of the reading: a
dimension between two points is labelled ten units above their midpoint, `(x0 + x1) / 2`,
and the sum overflows for points near the largest double (`midpointFinite`).  A sentence
whose numerals are finite, and whose midpoint is finite when it names a dimension, is read
into parameters that hold finite doubles only (`Request.parameters_finite`).
-/

namespace Drafting

/-! ### Values that hold finite doubles -/

namespace Value

mutual

/-- Whether every double a value holds is finite: neither infinite nor not a number. -/
def finite : Value → Bool
  | float x => !x.isNaN && !x.isInf
  | list xs => itemsFinite xs
  | tuple xs => itemsFinite xs
  | dict kvs => entriesFinite kvs
  | _ => true

/-- Whether every double the items hold is finite. -/
def itemsFinite : List Value → Bool
  | [] => true
  | x :: rest => x.finite && itemsFinite rest

/-- Whether every double the values of the entries hold is finite. -/
def entriesFinite : List (String × Value) → Bool
  | [] => true
  | (_, v) :: rest => v.finite && entriesFinite rest

end

theorem itemsFinite_iff (xs : List Value) :
    itemsFinite xs = true ↔ ∀ x ∈ xs, x.finite = true := by
  induction xs with
  | nil => simp [itemsFinite]
  | cons x rest ih => simp [itemsFinite, ih]

theorem entriesFinite_iff (kvs : List (String × Value)) :
    entriesFinite kvs = true ↔ ∀ kv ∈ kvs, kv.2.finite = true := by
  induction kvs with
  | nil => simp [entriesFinite]
  | cons kv rest ih =>
    obtain ⟨k, v⟩ := kv
    simp [entriesFinite, ih]

@[simp] theorem finite_null : null.finite = true := rfl
@[simp] theorem finite_bool (b : Bool) : (bool b).finite = true := rfl
@[simp] theorem finite_int (n : Int) : (int n).finite = true := rfl
@[simp] theorem finite_str (s : String) : (str s).finite = true := rfl

@[simp] theorem finite_list (xs : List Value) :
    (list xs).finite = true ↔ ∀ x ∈ xs, x.finite = true := by
  simp [finite, itemsFinite_iff]

@[simp] theorem finite_tuple (xs : List Value) :
    (tuple xs).finite = true ↔ ∀ x ∈ xs, x.finite = true := by
  simp [finite, itemsFinite_iff]

@[simp] theorem finite_dict (kvs : List (String × Value)) :
    (dict kvs).finite = true ↔ ∀ kv ∈ kvs, kv.2.finite = true := by
  simp [finite, entriesFinite_iff]

/-- The double a point of two coordinates is lifted with. -/
@[simp] theorem finite_zero : (float 0.0).finite = true := by decide

variable {v w d : Value}

/-- A value stored in entries holding finite doubles holds finite doubles. -/
theorem finite_of_lookup {kvs : List (String × Value)} {k : String}
    (h : ∀ kv ∈ kvs, kv.2.finite = true) (hw : lookup k kvs = some w) : w.finite = true := by
  induction kvs with
  | nil => simp [lookup] at hw
  | cons kv rest ih =>
    obtain ⟨k', v'⟩ := kv
    simp only [lookup] at hw
    split at hw
    · cases hw
      exact h _ List.mem_cons_self
    · exact ih (fun kv hkv => h kv (List.mem_cons_of_mem _ hkv)) hw

theorem finite_of_index {k : String} (hv : v.finite = true) (h : v.index k = .ok w) :
    w.finite = true := by
  cases v <;> simp only [index, reduceCtorEq] at h
  case dict kvs =>
    split at h
    · cases h
      exact finite_of_lookup (by simpa using hv) ‹_›
    · cases h

theorem finite_of_get {k : String} (hv : v.finite = true) (hd : d.finite = true)
    (h : v.get k d = .ok w) : w.finite = true := by
  cases v <;> simp only [get, reduceCtorEq, Except.ok.injEq] at h
  case dict kvs =>
    subst h
    cases hw : lookup k kvs with
    | none => simpa using hd
    | some w => simpa using finite_of_lookup (by simpa using hv) hw

/-- The items met walking through a value holding finite doubles hold finite doubles. -/
theorem finite_of_elements {xs : List Value} (hv : v.finite = true) (h : v.elements = .ok xs) :
    ∀ x ∈ xs, x.finite = true := by
  cases v <;> simp only [elements, reduceCtorEq, Except.ok.injEq] at h <;> subst h
  case dict kvs =>
    -- the items of an object are its keys, texts
    intro x hx
    obtain ⟨kv, -, rfl⟩ := List.mem_map.mp hx
    rfl
  all_goals simp_all

theorem finite_toTuple (hv : v.finite = true) (h : v.toTuple = .ok w) : w.finite = true := by
  simp only [toTuple] at h
  cases he : v.elements with
  | error f => simp [he, bind, Except.bind] at h
  | ok xs =>
    simp only [he, bind, Except.bind, pure, Except.pure, Except.ok.injEq] at h
    subst h
    simpa using finite_of_elements hv he

theorem finite_toList (hv : v.finite = true) (h : v.toList = .ok w) : w.finite = true := by
  simp only [toList] at h
  cases he : v.elements with
  | error f => simp [he, bind, Except.bind] at h
  | ok xs =>
    simp only [he, bind, Except.bind, pure, Except.pure, Except.ok.injEq] at h
    subst h
    simpa using finite_of_elements hv he

theorem finite_of_item {i : Nat} (hv : v.finite = true) (h : v.item i = .ok w) :
    w.finite = true := by
  cases v <;> simp only [item, reduceCtorEq, Except.ok.injEq] at h <;> subst h
  all_goals simp_all [List.getD_eq_getElem?_getD]
  all_goals
    rename_i xs
    cases hi : xs[i]? with
    | none => simp
    | some x => exact hv x (List.mem_of_getElem? hi)

end Value

namespace Command

open Text

/-! ### Where the readers of a sentence look -/

theorem spanDigits_suffix (cs : List Char) : (spanDigits cs).2 <:+ cs := List.dropWhile_suffix _

/-- A numeral without a sign is read from the front, and the reading goes on after it. -/
theorem unsignedAt_suffix {cs r : List Char} {n : Numeral} (h : unsignedAt cs = some (n, r)) :
    r <:+ cs := by
  unfold unsignedAt at h
  rcases hs : spanDigits cs with ⟨whole, rest⟩
  have hrest : rest <:+ cs := by simpa [hs] using spanDigits_suffix cs
  simp only [hs] at h
  split at h
  · cases h
  · split at h
    · next tail =>
      -- the fraction's digits follow the point that follows the whole digits
      rcases hf : spanDigits tail with ⟨fraction, rest'⟩
      have hrest' : rest' <:+ tail := by simpa [hf] using spanDigits_suffix tail
      simp only [hf, Option.some.injEq, Prod.mk.injEq] at h
      rw [← h.2]
      exact hrest'.trans ((List.suffix_cons _ _).trans hrest)
    · simp only [Option.some.injEq, Prod.mk.injEq] at h
      rw [← h.2]
      exact hrest

theorem numeralAt_suffix {cs r : List Char} {n : Numeral} (h : numeralAt cs = some (n, r)) :
    r <:+ cs := by
  unfold numeralAt at h
  split at h
  · obtain ⟨⟨m, r'⟩, hm, he⟩ := Option.map_eq_some_iff.1 h
    cases he
    exact (unsignedAt_suffix hm).trans (List.suffix_cons _ _)
  · exact unsignedAt_suffix h

/-- A minus sign is no digit, so a numeral read without its sign is read with it too. -/
theorem numeralAt_of_unsignedAt {cs r : List Char} {n : Numeral}
    (h : unsignedAt cs = some (n, r)) : numeralAt cs = some (n, r) := by
  unfold numeralAt
  split
  · have hminus : isDigit '-' = false := by decide +kernel
    simp [unsignedAt, spanDigits, hminus] at h
  · exact h

/-! ### Numerals that stand for finite doubles -/

/-- Whether every numeral of a text stands for a finite double, wherever a reader starts. -/
def numeralsFinite : List Char → Bool
  | [] => true
  | c :: rest =>
    (match numeralAt (c :: rest) with
      | some (n, _) => (Value.float n.value).finite
      | none => true) && numeralsFinite rest

/-- A numeral read at any place of a text whose numerals are finite is finite; by induction
on the text, a place being its front or a place of its rest. -/
theorem finite_of_numeralAt {cs t r : List Char} {n : Numeral} (hcs : numeralsFinite cs = true)
    (ht : t <:+ cs) (hn : numeralAt t = some (n, r)) : (Value.float n.value).finite = true := by
  induction cs with
  | nil =>
    rw [List.suffix_nil] at ht
    subst ht
    simp [numeralAt, unsignedAt, spanDigits] at hn
  | cons c rest ih =>
    simp only [numeralsFinite, Bool.and_eq_true] at hcs
    rcases List.suffix_cons_iff.1 ht with rfl | ht
    · simpa [hn] using hcs.1
    · exact ih hcs.2 ht

/-- What a search finds, it finds at some place of the text. -/
theorem search_eq_some {α : Type} {m : List Char → Option α} {cs : List Char} {a : α}
    (h : search m cs = some a) : ∃ t, t <:+ cs ∧ m t = some a := by
  induction cs with
  | nil => exact ⟨[], List.suffix_refl _, h⟩
  | cons c rest ih =>
    simp only [search] at h
    split at h
    · rename_i b hb
      cases h
      exact ⟨c :: rest, List.suffix_refl _, hb⟩
    · obtain ⟨t, ht, hm⟩ := ih h
      exact ⟨t, ht.trans (List.suffix_cons c rest), hm⟩

/-- Every piece found by a reader that goes on after what it reads is found at some place
of the text; by the recursion of `findAll`. -/
theorem mem_findAll {α : Type} {m : List Char → Option (α × List Char)}
    (hm : ∀ t a r, m t = some (a, r) → r <:+ t) {cs : List Char} {a : α}
    (h : a ∈ findAll m cs) : ∃ t r, t <:+ cs ∧ m t = some (a, r) := by
  fun_induction findAll m cs with
  | case1 => simp at h
  | case2 c rest b after hfind _ ih =>
    rcases List.mem_cons.1 h with rfl | h
    · exact ⟨c :: rest, after, List.suffix_refl _, hfind⟩
    · obtain ⟨t, r, ht, hmt⟩ := ih h
      exact ⟨t, r, ht.trans (hm _ _ _ hfind), hmt⟩
  | case3 c rest b after hfind _ ih =>
    rcases List.mem_cons.1 h with rfl | h
    · exact ⟨c :: rest, after, List.suffix_refl _, hfind⟩
    · obtain ⟨t, r, ht, hmt⟩ := ih h
      exact ⟨t, r, ht.trans (List.suffix_cons c rest), hmt⟩
  | case4 c rest hfind ih =>
    obtain ⟨t, r, ht, hmt⟩ := ih h
    exact ⟨t, r, ht.trans (List.suffix_cons c rest), hmt⟩

/-- A pair is two numerals, the first after an optional `(` and the second after a comma,
with blanks around; the reading goes on after the second and an optional `)`. -/
theorem pairAt_eq_some {cs r : List Char} {x y : Float} (h : pairAt cs = some ((x, y), r)) :
    ∃ n₁ r₁ c₂ n₂ r₂, numeralAt (skipBlanks (skipOne '(' cs)) = some (n₁, r₁) ∧
      skipBlanks r₁ = ',' :: c₂ ∧ numeralAt (skipBlanks c₂) = some (n₂, r₂) ∧
      x = n₁.value ∧ y = n₂.value ∧ r = skipOne ')' (skipBlanks r₂) := by
  unfold pairAt at h
  cases h₁ : numeralAt (skipBlanks (skipOne '(' cs)) with
  | none => simp [h₁] at h
  | some p₁ =>
    obtain ⟨n₁, r₁⟩ := p₁
    simp only [h₁, Option.bind_eq_bind, Option.bind_some] at h
    split at h
    · next c₂ hcomma =>
      cases h₂ : numeralAt (skipBlanks c₂) with
      | none => simp [h₂] at h
      | some p₂ =>
        obtain ⟨n₂, r₂⟩ := p₂
        simp only [h₂, Option.bind_some, Option.pure_def, Option.some.injEq, Prod.mk.injEq] at h
        exact ⟨n₁, r₁, c₂, n₂, r₂, rfl, hcomma, h₂, h.1.1.symm, h.1.2.symm, h.2.symm⟩
    · simp at h

/-- A keyword's value is a numeral without a sign, read at a place after the keyword. -/
theorem keywordNumberAt_eq_some {keyword : String} {extra : Option String} {ignoreCase : Bool}
    {cs : List Char} {x : Float} (h : keywordNumberAt keyword extra ignoreCase cs = some x) :
    ∃ t n r, t <:+ cs ∧ numeralAt t = some (n, r) ∧ n.value = x := by
  -- the numeral is read after the keyword, blanks, the extra word and an assignment
  have hafter := (skipBlanks_suffix _).trans (List.drop_suffix keyword.toList.length cs)
  cases extra with
  | some w =>
    simp [keywordNumberAt, Option.bind_eq_some_iff] at h
    obtain ⟨-, n, ⟨r, hn⟩, hx⟩ := h
    exact ⟨_, n, r, (skipAssign_suffix _).trans ((skipWordIgnoringCase_suffix _ _).trans hafter),
      numeralAt_of_unsignedAt hn, hx⟩
  | none =>
    simp [keywordNumberAt, Option.bind_eq_some_iff] at h
    obtain ⟨-, n, ⟨r, hn⟩, hx⟩ := h
    exact ⟨_, n, r, (skipAssign_suffix _).trans hafter, numeralAt_of_unsignedAt hn, hx⟩

theorem pairAt_suffix {cs r : List Char} {p : Float × Float} (h : pairAt cs = some (p, r)) :
    r <:+ cs := by
  obtain ⟨n₁, r₁, c₂, n₂, r₂, h₁, hcomma, h₂, -, -, rfl⟩ := pairAt_eq_some h
  have hr₁ : r₁ <:+ cs :=
    (numeralAt_suffix h₁).trans ((skipBlanks_suffix _).trans (skipOne_suffix _ _))
  have hc₂ : c₂ <:+ r₁ := (List.suffix_cons ',' c₂).trans (hcomma ▸ skipBlanks_suffix r₁)
  exact (skipOne_suffix _ _).trans ((skipBlanks_suffix _).trans ((numeralAt_suffix h₂).trans
    ((skipBlanks_suffix _).trans (hc₂.trans hr₁))))

/-! ### What is read from a text whose numerals are finite -/

section Reading

variable {cs : List Char} (hcs : numeralsFinite cs = true)
include hcs

theorem pairs_finite :
    ∀ p ∈ pairs cs, (Value.float p.1).finite = true ∧ (Value.float p.2).finite = true := by
  rintro ⟨x, y⟩ hp
  obtain ⟨t, r, ht, hpair⟩ := mem_findAll (fun _ _ _ h => pairAt_suffix h) hp
  obtain ⟨n₁, r₁, c₂, n₂, r₂, h₁, hcomma, h₂, rfl, rfl, -⟩ := pairAt_eq_some hpair
  -- both numerals of the pair are read at places of the text
  have hfirst : skipBlanks (skipOne '(' t) <:+ cs :=
    (skipBlanks_suffix _).trans ((skipOne_suffix _ _).trans ht)
  have hsecond : skipBlanks c₂ <:+ cs :=
    (skipBlanks_suffix _).trans ((List.suffix_cons ',' c₂).trans
      ((hcomma ▸ skipBlanks_suffix r₁).trans ((numeralAt_suffix h₁).trans hfirst)))
  exact ⟨finite_of_numeralAt hcs hfirst h₁, finite_of_numeralAt hcs hsecond h₂⟩

theorem numbers_finite : ∀ x ∈ numbers cs, (Value.float x).finite = true := by
  intro x hx
  -- each numeral is read at a place of the text, and the reading goes on after it
  obtain ⟨t, r, ht, hread⟩ := mem_findAll (fun _ _ _ h => by
    obtain ⟨⟨n, r'⟩, hn, he⟩ := Option.map_eq_some_iff.1 h
    cases he
    exact numeralAt_suffix hn) hx
  obtain ⟨⟨n, r'⟩, hn, he⟩ := Option.map_eq_some_iff.1 hread
  cases he
  exact finite_of_numeralAt hcs ht hn

theorem keywordNumber_finite {keyword : String} {extra : Option String} {ignoreCase : Bool}
    {x : Float} (h : keywordNumber keyword extra ignoreCase cs = some x) :
    (Value.float x).finite = true := by
  obtain ⟨t, ht, hat⟩ := search_eq_some h
  obtain ⟨u, n, r, hu, hn, rfl⟩ := keywordNumberAt_eq_some hat
  exact finite_of_numeralAt hcs (hu.trans ht) hn

end Reading

/-! ### The parameters a sentence is read into -/

/-- Whether a dimension between the two points of a sentence is labelled at a finite place:
ten units above their midpoint, whose sum overflows for points near the largest double.
With more points the label stands at the third, and with fewer at a default. -/
def midpointFinite (sentence : String) : Bool :=
  match pairs sentence.toList with
  | [(x₀, y₀), (x₁, y₁)] =>
    (Value.float ((x₀ + x₁) / 2.0)).finite && (Value.float ((y₀ + y₁) / 2.0 + 10.0)).finite
  | _ => true

/-- Whether a sentence is read into finite doubles: each of its numerals stands for one, and
a dimension it names is labelled at a finite midpoint. -/
def readsFinite (sentence : String) : Bool :=
  numeralsFinite sentence.toList &&
    match shape? sentence with
    | some .dimension => midpointFinite sentence
    | _ => true

@[simp] theorem Num.finite_float (x : Float) : (Num.float x).toValue.finite = (Value.float x).finite :=
  rfl

@[simp] theorem Num.finite_int (n : Int) : (Num.int n).toValue.finite = true := rfl

@[simp] theorem Point.finite_ofInts (x y : Int) : (Point.ofInts x y).toValue.finite = true := by
  simp [Point.ofInts, Point.toValue]

@[simp] theorem Point.finite_points (ps : List Point) :
    (Value.list (ps.map Point.toValue)).finite = true ↔ ∀ p ∈ ps, p.toValue.finite = true := by
  rw [Value.finite_list, List.forall_mem_map]

section Params

variable {sentence : String} (hcs : numeralsFinite sentence.toList = true)
include hcs

theorem pointsOf_finite : ∀ p ∈ pointsOf sentence, p.toValue.finite = true := by
  intro p hp
  obtain ⟨⟨x, y⟩, hxy, rfl⟩ := List.mem_map.1 hp
  obtain ⟨hx, hy⟩ := pairs_finite hcs _ hxy
  simp [Point.ofPair, Point.toValue, hx, hy]

theorem firstPoint_finite : (firstPoint (pointsOf sentence)).toValue.finite = true := by
  unfold firstPoint
  cases hps : pointsOf sentence with
  | nil => simp
  | cons p rest => exact pointsOf_finite hcs p (by simp [hps])

theorem keyed_finite {keyword : String} {extra : Option String} {default : Num}
    (hdefault : default.toValue.finite = true) :
    (keyed sentence keyword extra default).toValue.finite = true := by
  unfold keyed
  split
  · next x hx => simpa using keywordNumber_finite hcs hx
  · exact hdefault

theorem keyedExactly_finite {keyword : String} {default : Num}
    (hdefault : default.toValue.finite = true) :
    (keyedExactly sentence keyword default).toValue.finite = true := by
  unfold keyedExactly
  split
  · next x hx => simpa using keywordNumber_finite hcs hx
  · exact hdefault

theorem circleRadius_finite : (circleRadius sentence (pointsOf sentence)).toValue.finite = true := by
  unfold circleRadius
  split
  · -- a radius after one of its keywords
    next r hr =>
    rcases (Option.orElse_eq_some _ _ _).1 hr with hr | ⟨-, hr⟩
    all_goals simpa using keywordNumber_finite hcs hr
  · -- a number after the pairs, or the first number, or the default
    dsimp only
    split_ifs with hpairs hnone
    · split
      · next r rest hdrop =>
        have hr : r ∈ numbers sentence.toList :=
          List.mem_of_mem_drop (hdrop ▸ List.mem_cons_self)
        simpa using numbers_finite hcs r hr
      · simp
    · cases hns : numbers sentence.toList with
      | nil => simp [hns] at hnone
      | cons r rest => simpa using numbers_finite hcs r (by simp [hns])
    · simp

/-- Each shape reads its parameters from the pairs, numbers and keyword values of the sentence,
with finite defaults; the one double it computes is a dimension's midpoint. -/
theorem Shape.params_finite (shape : Shape)
    (hmid : shape = .dimension → midpointFinite sentence = true) :
    ∀ kv ∈ (shape.params sentence).entries, kv.2.finite = true := by
  have hpoints := pointsOf_finite hcs
  have hfirst := firstPoint_finite hcs
  -- the keyword values: each read from a finite numeral, or an integer default
  have hkeyed : ∀ keyword extra (n : Int),
      (keyed sentence keyword extra (.int n)).toValue.finite = true :=
    fun _ _ _ => keyed_finite hcs rfl
  cases shape with
  | line =>
    simp only [Shape.params, lineParams]
    split
    · next a b rest hps =>
      simp [Params.entries, hpoints a (by simp [hps]), hpoints b (by simp [hps])]
    · simp [Params.entries]
  | circle => simp [Shape.params, circleParams, Params.entries, hfirst, circleRadius_finite hcs]
  | arc =>
    simp [Shape.params, arcParams, Params.entries, hfirst, hkeyed,
      keyedExactly_finite hcs (hkeyed _ _ _)]
  | ellipse => simp [Shape.params, ellipseParams, Params.entries, hfirst, hkeyed]
  | rectangle =>
    simp only [Shape.params, rectangleParams]
    split
    · next a b rest hps =>
      simp [Params.entries, hpoints a (by simp [hps]), hpoints b (by simp [hps])]
    · have h100 : (Num.float 100.0).toValue.finite = true := by decide +kernel
      have h50 : (Num.float 50.0).toValue.finite = true := by decide +kernel
      simp [Params.entries, Point.toValue, Point.ofInts, keyedExactly_finite hcs (keyed_finite hcs h100),
        keyedExactly_finite hcs (keyed_finite hcs h50)]
  | polyline =>
    simp only [Shape.params, polylineParams]
    split
    · next ps a b rest hps =>
      intro kv hkv
      simp only [Params.entries, List.mem_cons, List.not_mem_nil, or_false] at hkv
      rcases hkv with rfl | rfl
      · exact (Point.finite_points _).2 (hps ▸ hpoints)
      · rfl
    · simp [Params.entries]
  | text =>
    have h25 : (Num.float 2.5).toValue.finite = true := by decide +kernel
    simp [Shape.params, textParams, Params.entries, hfirst, hkeyed,
      keyedExactly_finite hcs (keyed_finite hcs h25)]
  | dimension =>
    have hlabel := hmid rfl
    simp only [Shape.params, dimensionParams]
    split
    · next a b rest x₀ y₀ x₁ y₁ more hps hpairs =>
      have ha := hpoints a (by simp [hps])
      have hb := hpoints b (by simp [hps])
      cases rest with
      | cons c tail =>
        -- the label stands at the third point
        simp [Params.entries, ha, hb, hpoints c (by simp [hps])]
      | nil =>
        -- the label stands ten units above the midpoint of the two points
        have htwo : more = [] := by
          simp only [pointsOf, hpairs, List.map_cons, List.cons.injEq, List.map_eq_nil_iff] at hps
          exact hps.2.2
        simp only [midpointFinite, hpairs, htwo, Bool.and_eq_true] at hlabel
        intro kv hkv
        simp only [Params.entries, List.mem_cons, List.not_mem_nil, or_false] at hkv
        rcases hkv with rfl | rfl | rfl
        · exact ha
        · exact hb
        · simp [Point.toValue, hlabel.1, hlabel.2]
    · simp [Params.entries]
  | hatch =>
    have h1 : (Num.float 1.0).toValue.finite = true := by decide +kernel
    simp only [Shape.params, hatchParams]
    split
    · next ps a b c rest hps =>
      intro kv hkv
      simp only [Params.entries, List.mem_cons, List.not_mem_nil, or_false] at hkv
      rcases hkv with rfl | rfl | rfl
      · exact (Point.finite_points _).2 (hps ▸ hpoints)
      · rfl
      · exact keyed_finite hcs h1
    · simp [Params.entries, keyed_finite hcs h1]

end Params

/-- A sentence read into finite doubles is read into parameters that hold finite doubles
only; the colour it names is an integer. -/
theorem Request.parameters_finite {sentence : String} (h : readsFinite sentence = true) :
    ∀ kv ∈ (read sentence).parameters, kv.2.finite = true := by
  simp only [readsFinite, Bool.and_eq_true] at h
  obtain ⟨hcs, hmid⟩ := h
  simp only [read, Request.parameters]
  cases hshape : shape? sentence with
  | none => simp
  | some shape =>
    have hparams := Shape.params_finite hcs shape (by rintro rfl; simpa [hshape] using hmid)
    intro kv hkv
    simp only [List.mem_append] at hkv
    rcases hkv with hkv | hkv
    · exact hparams kv hkv
    · split at hkv <;> simp_all

/-- How sure a reading is, a double between zero and one. -/
theorem Request.finite_confidence (r : Request) : (Value.float r.confidence).finite = true := by
  unfold Request.confidence
  split <;> decide +kernel

end Command

end Drafting
