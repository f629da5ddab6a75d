import Mathlib
import Drafting.Command.Parse

/-!
# Scanning up to a mark

The scanners of a sentence read forwards from a place and stop at the first character
that cannot continue what they read.  A *mark* is a character that stops every one of
them and begins none: no digit, no blank, none of the signs of numerals, pairs and
assignments, and no letter of a keyword or colour name.

A scanner that stops at a mark finds in `x ++ c :: b` what it finds in `x` alone
(`StopsAt`, `BlindPast`).  The scans over a whole text then split at the mark: every
coordinate pair of `a ++ c :: b` is a pair of `a` or of `b`, in that order
(`findAll_append_of_stopsAt`), and the leftmost keyword or colour name is the leftmost of
`a`, else of `b` (`search_append_of_blindPast`).  A text without digits, in turn, holds no
numeral, no coordinate pair and no number after a keyword.
-/

namespace Drafting.Command

open Text

variable {α : Type} {c : Char}

/-! ### Scans and searches -/

/-- A matcher reads nothing past `c`: in a text that goes on with `c` it finds what it finds
in the text cut before `c`, what follows carried along in the rest. -/
def StopsAt (c : Char) (m : List Char → Option (α × List Char)) : Prop :=
  ∀ x b, m (x ++ c :: b) = (m x).map fun (a, r) => (a, r ++ c :: b)

/-- A test reads nothing past `c`. -/
def BlindPast (c : Char) (m : List Char → Option α) : Prop :=
  ∀ x b, m (x ++ c :: b) = m x

theorem findAll_nil (m : List Char → Option (α × List Char)) : findAll m [] = [] := by
  rw [findAll]

theorem findAll_of_none {m : List Char → Option (α × List Char)} {d : Char} {rest : List Char}
    (h : m (d :: rest) = none) : findAll m (d :: rest) = findAll m rest := by
  rw [findAll, h]

theorem findAll_of_some {m : List Char → Option (α × List Char)} {d : Char} {rest : List Char}
    {v : α} {after : List Char} (h : m (d :: rest) = some (v, after)) :
    findAll m (d :: rest) =
      if after.length < rest.length + 1 then v :: findAll m after else v :: findAll m rest := by
  rw [findAll, h]

/-- A scan splits at a character its matcher stops at and does not begin with. -/
theorem findAll_append_of_stopsAt {m : List Char → Option (α × List Char)} (hm : StopsAt c m)
    (hnil : m [] = none) (a b : List Char) :
    findAll m (a ++ c :: b) = findAll m a ++ findAll m b := by
  fun_induction findAll m a with
  | case1 =>
    -- the mark begins nothing, so the scan steps over it
    have hmark : m (c :: b) = none := by simpa [hnil] using hm [] b
    rw [List.nil_append, findAll_of_none hmark, List.nil_append]
  | case2 d rest v after hfind hlt ih =>
    have hfind' : m (d :: (rest ++ c :: b)) = some (v, after ++ c :: b) := by
      simpa [hfind] using hm (d :: rest) b
    have hlt' : (after ++ c :: b).length < (rest ++ c :: b).length + 1 := by simp; omega
    rw [List.cons_append, findAll_of_some hfind', if_pos hlt', ih, List.cons_append]
  | case3 d rest v after hfind hlt ih =>
    have hfind' : m (d :: (rest ++ c :: b)) = some (v, after ++ c :: b) := by
      simpa [hfind] using hm (d :: rest) b
    have hge : ¬(after ++ c :: b).length < (rest ++ c :: b).length + 1 := by simp; omega
    rw [List.cons_append, findAll_of_some hfind', if_neg hge, ih, List.cons_append]
  | case4 d rest hfind ih =>
    have hfind' : m (d :: (rest ++ c :: b)) = none := by
      simpa [hfind] using hm (d :: rest) b
    rw [List.cons_append, findAll_of_none hfind', ih]

/-- A scan finds nothing in a text where its matcher finds nothing at any place. -/
theorem findAll_eq_nil {m : List Char → Option (α × List Char)} {x : List Char}
    (h : ∀ y, y <:+ x → m y = none) : findAll m x = [] := by
  induction x with
  | nil => exact findAll_nil m
  | cons d rest ih =>
    rw [findAll_of_none (h _ (List.suffix_refl _))]
    exact ih fun y hy => h y (hy.trans (List.suffix_cons d rest))

theorem search_cons (m : List Char → Option α) (d : Char) (rest : List Char) :
    search m (d :: rest) = (m (d :: rest)).or (search m rest) := by
  rw [search]
  cases m (d :: rest) <;> rfl

/-- A search splits at a character its test does not read past. -/
theorem search_append_of_blindPast {m : List Char → Option α} (hm : BlindPast c m)
    (a b : List Char) : search m (a ++ c :: b) = (search m a).or (search m b) := by
  induction a with
  | nil =>
    have hmark : m (c :: b) = m [] := by simpa using hm [] b
    rw [List.nil_append, search_cons, hmark, search]
  | cons d rest ih =>
    rw [List.cons_append, search_cons, search_cons, ← List.cons_append, hm, ih, Option.or_assoc]

theorem search_eq_none {m : List Char → Option α} {x : List Char}
    (h : ∀ y, y <:+ x → m y = none) : search m x = none := by
  induction x with
  | nil => exact h [] List.nil_suffix
  | cons d rest ih =>
    rw [search_cons, h _ (List.suffix_refl _), ih fun y hy => h y (hy.trans (List.suffix_cons d rest))]
    rfl

/-! ### The pieces of a scanner -/

theorem takeWhile_append_of_stop {p : Char → Bool} (hc : p c = false) (x b : List Char) :
    (x ++ c :: b).takeWhile p = x.takeWhile p := by
  induction x with
  | nil => simp [hc]
  | cons d x ih => cases hd : p d <;> simp [hd, ih]

theorem dropWhile_append_of_stop {p : Char → Bool} (hc : p c = false) (x b : List Char) :
    (x ++ c :: b).dropWhile p = x.dropWhile p ++ c :: b := by
  induction x with
  | nil => simp [hc]
  | cons d x ih => cases hd : p d <;> simp [hd, ih]

theorem spanDigits_append (hc : isDigit c = false) (x b : List Char) :
    spanDigits (x ++ c :: b) = ((spanDigits x).1, (spanDigits x).2 ++ c :: b) := by
  simp [spanDigits, takeWhile_append_of_stop hc, dropWhile_append_of_stop hc]

theorem unsignedAt_stopsAt (hc : isDigit c = false) (hpoint : c ≠ '.') : StopsAt c unsignedAt := by
  intro x b
  simp only [unsignedAt, spanDigits_append hc]
  split
  · simp_all
  · -- after the digits: a point and a fraction, or the end of the numeral
    generalize (spanDigits x).2 = rest
    cases rest with
    | nil => simp [hpoint]
    | cons d r =>
      by_cases hd : d = '.'
      · subst hd
        simp [spanDigits_append hc]
      · simp [hd]

theorem numeralAt_of_ne {d : Char} (hd : d ≠ '-') (rest : List Char) :
    numeralAt (d :: rest) = unsignedAt (d :: rest) := by
  unfold numeralAt
  split <;> simp_all

theorem numeralAt_stopsAt (hc : isDigit c = false) (hpoint : c ≠ '.') (hminus : c ≠ '-') :
    StopsAt c numeralAt := by
  intro x b
  have hu := unsignedAt_stopsAt hc hpoint
  match x with
  | [] =>
    rw [List.nil_append, numeralAt_of_ne hminus, ← List.nil_append (c :: b), hu]
    rfl
  | d :: x' =>
    by_cases hd : d = '-'
    · subst hd
      simp only [List.cons_append, numeralAt, hu x' b, Option.map_map]
      rfl
    · rw [List.cons_append, numeralAt_of_ne hd, numeralAt_of_ne hd, ← List.cons_append, hu]

theorem skipOne_append {d : Char} (hd : c ≠ d) (x b : List Char) :
    skipOne d (x ++ c :: b) = skipOne d x ++ c :: b := by
  cases x with
  | nil => simp [skipOne, hd]
  | cons e x => by_cases he : e = d <;> simp [skipOne, he]

theorem skipAssign_append (hblank : isSpace c = false) (heq : c ≠ '=') (hcolon : c ≠ ':')
    (x b : List Char) : skipAssign (x ++ c :: b) = skipAssign x ++ c :: b := by
  unfold skipAssign skipBlanks
  rw [dropWhile_append_of_stop hblank]
  rcases List.dropWhile isSpace x with _ | ⟨d, r⟩
  · simp [heq, hcolon, hblank]
  · have hrest := dropWhile_append_of_stop hblank (d :: r) b
    by_cases hd : d = '=' <;> by_cases hd' : d = ':' <;>
      simp_all [dropWhile_append_of_stop hblank]

/-- A word that `c` matches at no letter, case heeded or ignored. -/
def Unmatched (c : Char) (word : List Char) : Prop :=
  ∀ p ∈ word, p ≠ c ∧ matchesIgnoringCase p c = false

theorem startsIgnoringCase_append {word : List Char} (hw : Unmatched c word) (x b : List Char) :
    startsIgnoringCase word (x ++ c :: b) = startsIgnoringCase word x := by
  induction word generalizing x with
  | nil => simp [startsIgnoringCase]
  | cons p ps ih =>
    have hp : matchesIgnoringCase p c = false := (hw p (by simp)).2
    cases x with
    | nil => simp [startsIgnoringCase, hp]
    | cons d x => simp [startsIgnoringCase, ih (fun q hq => hw q (by simp [hq]))]

theorem length_le_of_startsIgnoringCase {word cs : List Char}
    (h : startsIgnoringCase word cs = true) : word.length ≤ cs.length := by
  induction word generalizing cs with
  | nil => simp
  | cons p ps ih =>
    cases cs with
    | nil => simp [startsIgnoringCase] at h
    | cons d cs =>
      simp only [startsIgnoringCase, Bool.and_eq_true] at h
      simpa using ih h.2

theorem isPrefixOf_append {word : List Char} (hw : Unmatched c word) (x b : List Char) :
    word.isPrefixOf (x ++ c :: b) = word.isPrefixOf x := by
  induction word generalizing x with
  | nil => simp
  | cons p ps ih =>
    have hp : p ≠ c := (hw p (by simp)).1
    cases x with
    | nil => simp [List.isPrefixOf, hp]
    | cons d x => simp [List.isPrefixOf, ih (fun q hq => hw q (by simp [hq]))]

theorem skipWordIgnoringCase_append {word : List Char} (hw : Unmatched c word) (x b : List Char) :
    skipWordIgnoringCase word (x ++ c :: b) = skipWordIgnoringCase word x ++ c :: b := by
  unfold skipWordIgnoringCase
  rw [startsIgnoringCase_append hw]
  split
  · rename_i hs
    rw [List.drop_append_of_le_length (length_le_of_startsIgnoringCase hs)]
  · rfl

/-! ### Marks -/

/-- A character that every scanner of numerals, pairs and assignments stops at and that
none of them begins with. -/
structure Mark (c : Char) : Prop where
  notDigit : isDigit c = false
  notBlank : isSpace c = false
  notPoint : c ≠ '.'
  notMinus : c ≠ '-'
  notComma : c ≠ ','
  notOpen : c ≠ '('
  notClose : c ≠ ')'
  notEquals : c ≠ '='
  notColon : c ≠ ':'

theorem pairAt_stopsAt (hc : Mark c) : StopsAt c pairAt := by
  intro x b
  have hn := numeralAt_stopsAt hc.notDigit hc.notPoint hc.notMinus
  have hblank := hc.notBlank
  simp only [pairAt, skipBlanks, skipOne_append hc.notOpen, dropWhile_append_of_stop hblank]
  rw [hn]
  rcases numeralAt (List.dropWhile isSpace (skipOne '(' x)) with _ | ⟨n, r⟩
  · rfl
  simp only [Option.map_some, Option.bind_eq_bind, Option.bind_some]
  rw [dropWhile_append_of_stop hblank]
  -- the comma must stand before the mark, or there is no pair
  rcases List.dropWhile isSpace r with _ | ⟨d, rest⟩
  · simp [hc.notComma]
  by_cases hd : d = ','
  · subst hd
    simp only [List.cons_append]
    rw [dropWhile_append_of_stop hblank, hn]
    rcases numeralAt (List.dropWhile isSpace rest) with _ | ⟨n', r'⟩
    · rfl
    · simp [dropWhile_append_of_stop hblank, skipOne_append hc.notClose]
  · simp only [List.cons_append]
    split <;> simp_all

theorem keywordNumberAt_blindPast (hc : Mark c) {keyword : String} {extra : Option String}
    (hkw : Unmatched c keyword.toList) (hextra : ∀ w, extra = some w → Unmatched c w.toList)
    (ignoreCase : Bool) : BlindPast c (keywordNumberAt keyword extra ignoreCase) := by
  intro x b
  unfold keywordNumberAt
  have hmatched : (if ignoreCase then startsIgnoringCase keyword.toList (x ++ c :: b)
      else keyword.toList.isPrefixOf (x ++ c :: b)) =
      (if ignoreCase then startsIgnoringCase keyword.toList x else keyword.toList.isPrefixOf x) := by
    rw [startsIgnoringCase_append hkw, isPrefixOf_append hkw]
  simp only [hmatched]
  -- the keyword lies wholly before the mark when it is found
  have hlen : (if ignoreCase then startsIgnoringCase keyword.toList x
      else keyword.toList.isPrefixOf x) = true → keyword.toList.length ≤ x.length := by
    intro hm
    split at hm
    · exact length_le_of_startsIgnoringCase hm
    · exact (List.isPrefixOf_iff_prefix.mp hm).length_le
  generalize (if ignoreCase then startsIgnoringCase keyword.toList x
      else keyword.toList.isPrefixOf x) = M at hlen ⊢
  cases M with
  | false => rfl
  | true =>
    have hassign := skipAssign_append hc.notBlank hc.notEquals hc.notColon
    have hu := unsignedAt_stopsAt hc.notDigit hc.notPoint
    simp only [Bool.not_true, Bool.false_eq_true, if_false, skipBlanks,
      List.drop_append_of_le_length (hlen rfl), dropWhile_append_of_stop hc.notBlank]
    cases extra with
    | none =>
      rw [hassign, hu]
      cases unsignedAt _ <;> rfl
    | some w =>
      dsimp only
      rw [skipWordIgnoringCase_append (hextra w rfl), hassign, hu]
      cases unsignedAt _ <;> rfl

theorem colourAt_blindPast (hcol : ∀ col ∈ colourNames, Unmatched c col.1.toList) :
    BlindPast c colourAt := by
  intro x b
  unfold colourAt
  have hfind : coloursLongestFirst.find? (fun col => startsIgnoringCase col.1.toList (x ++ c :: b)) =
      coloursLongestFirst.find? (fun col => startsIgnoringCase col.1.toList x) :=
    List.find?_congr fun col hmem =>
      startsIgnoringCase_append (hcol col (List.mem_mergeSort.mp hmem)) x b
  rw [hfind]
  cases hfound : coloursLongestFirst.find? (fun col => startsIgnoringCase col.1.toList x) with
  | none => rfl
  | some col =>
    -- the name found lies wholly before the mark, so the text taken is the same
    have hs := List.find?_some hfound
    have hlen : col.1.length ≤ x.length := by
      rw [← String.length_toList]
      exact length_le_of_startsIgnoringCase hs
    simp only [Option.map_some, List.take_append_of_le_length hlen]

/-- The coordinate pairs of a text split at a mark. -/
theorem pairs_append_of_mark (hc : Mark c) (a b : List Char) :
    pairs (a ++ c :: b) = pairs a ++ pairs b := by
  have hnil : pairAt [] = none := rfl
  exact findAll_append_of_stopsAt (pairAt_stopsAt hc) hnil a b

/-- The numerals of a text split at a mark. -/
theorem numbers_append_of_mark (hc : Mark c) (a b : List Char) :
    numbers (a ++ c :: b) = numbers a ++ numbers b := by
  unfold numbers
  refine findAll_append_of_stopsAt ?_ rfl a b
  intro x b
  simp only [numeralAt_stopsAt hc.notDigit hc.notPoint hc.notMinus x b, Option.map_map]
  rfl

/-! ### Texts without digits -/

/-- Whether a text holds no decimal digit. -/
def NoDigit (x : List Char) : Prop := ∀ d ∈ x, isDigit d = false

instance (x : List Char) : Decidable (NoDigit x) :=
  decidable_of_iff (x.all fun d => !isDigit d) (by simp [NoDigit, List.all_eq_true])

theorem NoDigit.suffix {x y : List Char} (hx : NoDigit x) (hy : y <:+ x) : NoDigit y :=
  fun d hd => hx d (hy.subset hd)

theorem skipOne_suffix (d : Char) (x : List Char) : skipOne d x <:+ x := by
  cases x with
  | nil => exact List.suffix_refl _
  | cons e x =>
    by_cases he : e = d
    · simp [skipOne, he]
    · simp [skipOne, he]

theorem skipBlanks_suffix (x : List Char) : skipBlanks x <:+ x := List.dropWhile_suffix _

theorem skipAssign_suffix (x : List Char) : skipAssign x <:+ x := by
  unfold skipAssign
  refine (skipBlanks_suffix _).trans ?_
  refine List.IsSuffix.trans ?_ (skipBlanks_suffix x)
  split
  all_goals rename_i h
  all_goals first
    | exact List.suffix_refl _
    | (rw [h]; exact List.suffix_cons _ _)

theorem skipWordIgnoringCase_suffix (word x : List Char) : skipWordIgnoringCase word x <:+ x := by
  unfold skipWordIgnoringCase
  split
  · exact List.drop_suffix _ _
  · exact List.suffix_refl _

theorem unsignedAt_of_noDigit {x : List Char} (hx : NoDigit x) : unsignedAt x = none := by
  cases x with
  | nil => rfl
  | cons d rest =>
    have hd : isDigit d = false := hx d (by simp)
    simp [unsignedAt, spanDigits, hd]

theorem numeralAt_of_noDigit {x : List Char} (hx : NoDigit x) : numeralAt x = none := by
  match x with
  | [] => rfl
  | d :: rest =>
    by_cases hd : d = '-'
    · subst hd
      simp [numeralAt, unsignedAt_of_noDigit (hx.suffix (List.suffix_cons _ rest))]
    · rw [numeralAt_of_ne hd, unsignedAt_of_noDigit hx]

theorem pairAt_of_noDigit {x : List Char} (hx : NoDigit x) : pairAt x = none := by
  have hfront := hx.suffix ((skipBlanks_suffix _).trans (skipOne_suffix '(' x))
  simp [pairAt, numeralAt_of_noDigit hfront]

theorem keywordNumberAt_of_noDigit (keyword : String) (extra : Option String) (ignoreCase : Bool)
    {x : List Char} (hx : NoDigit x) : keywordNumberAt keyword extra ignoreCase x = none := by
  unfold keywordNumberAt
  -- whatever the keyword and the extra word leave, the numeral is read from a suffix
  have hrest : skipBlanks (x.drop keyword.toList.length) <:+ x :=
    (skipBlanks_suffix _).trans (List.drop_suffix _ _)
  cases extra with
  | none =>
    simp [unsignedAt_of_noDigit (hx.suffix ((skipAssign_suffix _).trans hrest))]
  | some w =>
    have hword := (skipWordIgnoringCase_suffix w.toList _).trans hrest
    simp [unsignedAt_of_noDigit (hx.suffix ((skipAssign_suffix _).trans hword))]

theorem pairs_of_noDigit {x : List Char} (hx : NoDigit x) : pairs x = [] :=
  findAll_eq_nil fun _ hy => pairAt_of_noDigit (hx.suffix hy)

theorem keywordNumber_of_noDigit (keyword : String) (extra : Option String) (ignoreCase : Bool)
    {x : List Char} (hx : NoDigit x) : keywordNumber keyword extra ignoreCase x = none :=
  search_eq_none fun _ hy => keywordNumberAt_of_noDigit keyword extra ignoreCase (hx.suffix hy)

end Drafting.Command
