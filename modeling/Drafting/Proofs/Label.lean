import Mathlib
import Drafting.Proofs.Marks

/-!
# What a quoted label changes

A text command carries its label between double quotes: `add text "Hall" at (10, 20)`.
The label is taken out by its own reader, but the readers of the position, the height, the
rotation and the colour scan the whole sentence, the label included.

The double quote is a mark (`Drafting.Command.Mark`): no scanner reads through it.  So the
pairs, the keyword numbers and the colour names of `p ++ "\"" ++ q ++ "\"" ++ s` are those
of `p`, of `q` and of `s`, read apart, in that order.  A label acts on where the text stands,
its height and its rotation only through digits, and on the colour only through a colour
name: two labels without either give the same placement and colour
(`label_acts_through_digits_and_colours`).  A label that holds them does act: `"1,2"` places
the text at that point, and `"red"` colours it (`label_places_and_colours_text`).
-/

namespace Drafting.Command

open Text

/-- A word without a double quote is unmatched by it: the quote is its own lowercase and folds
to no letter. -/
theorem unmatched_quote {word : List Char} (hw : '"' ∉ word) : Unmatched '"' word := by
  have hfold : fold '"' = '"' := by decide +kernel
  intro p hp
  have hne : p ≠ '"' := fun h => hw (h ▸ hp)
  refine ⟨hne, ?_⟩
  simp only [matchesIgnoringCase, hfold, Bool.or_eq_false_iff, Bool.and_eq_false_iff,
    beq_eq_false_iff_ne]
  refine ⟨⟨Ne.symm hne, ?_⟩, ?_⟩ <;> right <;> decide

/-- The double quote is a mark. -/
theorem mark_quote : Mark '"' := by
  constructor
  · decide +kernel
  all_goals decide

theorem unmatched_quote_colour : ∀ col ∈ colourNames, Unmatched '"' col.1.toList := by
  have hnone : ∀ col ∈ colourNames, '"' ∉ col.1.toList := by decide +kernel
  exact fun col hcol => unmatched_quote (hnone col hcol)

/-! ### The sentence around a label -/

theorem toList_around (p q s : String) :
    (p ++ "\"" ++ q ++ "\"" ++ s).toList = p.toList ++ '"' :: (q.toList ++ '"' :: s.toList) := by
  simp

theorem pairs_around (p q s : String) :
    pairs (p ++ "\"" ++ q ++ "\"" ++ s).toList = pairs p.toList ++ pairs q.toList ++ pairs s.toList := by
  rw [toList_around, pairs_append_of_mark mark_quote, pairs_append_of_mark mark_quote,
    List.append_assoc]

theorem keywordNumber_around (keyword : String) (hkw : '"' ∉ keyword.toList) (extra : Option String)
    (hextra : ∀ w, extra = some w → '"' ∉ w.toList) (ignoreCase : Bool) (p q s : String) :
    keywordNumber keyword extra ignoreCase (p ++ "\"" ++ q ++ "\"" ++ s).toList =
      ((keywordNumber keyword extra ignoreCase p.toList).or
        (keywordNumber keyword extra ignoreCase q.toList)).or
        (keywordNumber keyword extra ignoreCase s.toList) := by
  have hblind := keywordNumberAt_blindPast mark_quote (unmatched_quote hkw)
    (fun w hw => unmatched_quote (hextra w hw)) ignoreCase
  rw [toList_around, keywordNumber, search_append_of_blindPast hblind,
    search_append_of_blindPast hblind, Option.or_assoc]
  rfl

theorem search_colourAt_around (p q s : String) :
    search colourAt (p ++ "\"" ++ q ++ "\"" ++ s).toList =
      ((search colourAt p.toList).or (search colourAt q.toList)).or (search colourAt s.toList) := by
  have hblind := colourAt_blindPast unmatched_quote_colour
  rw [toList_around, search_append_of_blindPast hblind, search_append_of_blindPast hblind,
    Option.or_assoc]

/-- Where a text stands, how high it is and how it is turned: its parameters but its content. -/
def Params.placement : Params → Option (Point × Num × Num)
  | .text position _ height rotation => some (position, height, rotation)
  | _ => none

/-- Two labels without digits place a text alike: the position, the height and the rotation
are read from the sentence around the label. -/
theorem placement_around (p q q' s : String) (hq : NoDigit q.toList) (hq' : NoDigit q'.toList) :
    (textParams (p ++ "\"" ++ q ++ "\"" ++ s)).placement =
      (textParams (p ++ "\"" ++ q' ++ "\"" ++ s)).placement := by
  have hheight := keywordNumber_around "height" (by decide) none (by simp) true
  have hheight' := keywordNumber_around "高度" (by decide) none (by simp) false
  have hrotation := keywordNumber_around "rotation" (by decide) none (by simp) true
  simp only [textParams, Params.placement, pointsOf, keyed, keyedExactly, pairs_around,
    pairs_of_noDigit hq, pairs_of_noDigit hq', hheight, hheight', hrotation,
    keywordNumber_of_noDigit _ _ _ hq, keywordNumber_of_noDigit _ _ _ hq']

/-- Two labels in which no colour name occurs colour a sentence alike. -/
theorem colour_around (p q q' s : String) (hq : search colourAt q.toList = none)
    (hq' : search colourAt q'.toList = none) :
    colour? (p ++ "\"" ++ q ++ "\"" ++ s) = colour? (p ++ "\"" ++ q' ++ "\"" ++ s) := by
  simp only [colour?, search_colourAt_around, hq, hq']

/-- A quoted label acts on the placement of a text and on the colour of its sentence only
through what it holds: two labels without a decimal digit, in which no colour name occurs
(case ignored), give the text the same position, height and rotation, and the sentence the
same colour, whatever stands before and after them. -/
theorem label_acts_through_digits_and_colours (p q q' s : String)
    (hq : NoDigit q.toList) (hq' : NoDigit q'.toList)
    (hcq : search colourAt q.toList = none) (hcq' : search colourAt q'.toList = none) :
    (textParams (p ++ "\"" ++ q ++ "\"" ++ s)).placement =
        (textParams (p ++ "\"" ++ q' ++ "\"" ++ s)).placement ∧
      colour? (p ++ "\"" ++ q ++ "\"" ++ s) = colour? (p ++ "\"" ++ q' ++ "\"" ++ s) :=
  ⟨placement_around p q q' s hq hq', colour_around p q q' s hcq hcq'⟩

/-! ### Colour names in a fixed text -/

/-- No colour name occurs in a text when none begins at any of its places. -/
theorem search_colourAt_eq_none {x : List Char}
    (h : ∀ y ∈ x.tails, ∀ col ∈ colourNames, startsIgnoringCase col.1.toList y = false) :
    search colourAt x = none := by
  refine search_eq_none fun y hy => ?_
  have hnone : coloursLongestFirst.find? (fun col => startsIgnoringCase col.1.toList y) = none :=
    List.find?_eq_none.mpr fun col hcol => by
      simp [h y ((List.mem_tails y x).mpr hy) col (List.mem_mergeSort.mp hcol)]
  simp [colourAt, hnone]

/-- The colour name at the front of a text, when it is the only one that begins there. -/
theorem colourAt_of_unique {x : List Char} (col : String × Nat) (hcol : col ∈ colourNames)
    (hstarts : startsIgnoringCase col.1.toList x = true)
    (honly : ∀ col' ∈ colourNames, startsIgnoringCase col'.1.toList x = true → col' = col) :
    colourAt x = some (String.ofList (x.take col.1.length)) := by
  have hfound : coloursLongestFirst.find? (fun col => startsIgnoringCase col.1.toList x) = some col := by
    cases hf : coloursLongestFirst.find? (fun col => startsIgnoringCase col.1.toList x) with
    | none =>
      have := List.find?_eq_none.mp hf col (List.mem_mergeSort.mpr hcol)
      simp_all
    | some col' =>
      have hs := List.find?_some hf
      have hmem := List.mem_mergeSort.mp (List.mem_of_find?_eq_some hf)
      rw [honly col' hmem hs]
  simp [colourAt, hfound]

/-- Two labels that read alike in the placement and the colour. -/
theorem label_acts_through_digits_and_colours_hall :
    NoDigit "Hall".toList ∧ NoDigit "Kitchen".toList ∧
      search colourAt "Hall".toList = none ∧ search colourAt "Kitchen".toList = none ∧
      (textParams ("add text at (10, 20) " ++ "\"" ++ "Hall" ++ "\"" ++ " height 5")).placement =
        (textParams ("add text at (10, 20) " ++ "\"" ++ "Kitchen" ++ "\"" ++ " height 5")).placement ∧
      colour? ("add text at (10, 20) " ++ "\"" ++ "Hall" ++ "\"" ++ " height 5") =
        colour? ("add text at (10, 20) " ++ "\"" ++ "Kitchen" ++ "\"" ++ " height 5") := by
  have h1 : NoDigit "Hall".toList := by decide +kernel
  have h2 : NoDigit "Kitchen".toList := by decide +kernel
  have h3 : search colourAt "Hall".toList = none := search_colourAt_eq_none (by decide +kernel)
  have h4 : search colourAt "Kitchen".toList = none := search_colourAt_eq_none (by decide +kernel)
  exact ⟨h1, h2, h3, h4,
    label_acts_through_digits_and_colours "add text at (10, 20) " "Hall" "Kitchen" " height 5"
      h1 h2 h3 h4⟩

/-- A label holding a coordinate pair places the text there, and a label naming a colour
colours the sentence: the texts `"1,2"` and `"a"` stand in different places, and `"red"` and
`"a"` have different colours. -/
theorem label_places_and_colours_text :
    (textParams "\"1,2\"").placement ≠ (textParams "\"a\"").placement ∧
      colour? "\"red\"" ≠ colour? "\"a\"" := by
  constructor
  · -- the label `1,2` is a coordinate pair, the label `a` holds none
    have hpair : (pointsOf "\"1,2\"").length = 1 := by decide +kernel
    have hnone : (pointsOf "\"a\"").length = 0 := by decide +kernel
    obtain ⟨pt, hpt⟩ := List.length_eq_one_iff.mp hpair
    have hmem : pt ∈ pointsOf "\"1,2\"" := by simp [hpt]
    obtain ⟨xy, -, rfl⟩ := List.mem_map.mp hmem
    simp [textParams, Params.placement, hpt, List.length_eq_zero_iff.mp hnone, firstPoint,
      Point.ofPair, Point.ofInts]
  · -- `red` is the only colour name at the front of the label `red`
    have hnone : search colourAt "\"a\"".toList = none :=
      search_colourAt_eq_none (by decide +kernel)
    have hred : colourAt "red".toList = some "red" := by
      rw [colourAt_of_unique ("red", 1) (by decide) (by decide +kernel) (by decide +kernel)]
      rfl
    have hfound : search colourAt "\"red\"".toList = some "red" := by
      have hsplit : "\"red\"" = "" ++ "\"" ++ "red" ++ "\"" ++ "" := by decide
      have hcons : "red".toList = 'r' :: "ed".toList := rfl
      rw [hsplit, search_colourAt_around, search_colourAt_eq_none (x := "".toList) (by decide +kernel),
        hcons, search_cons, ← hcons, hred]
      rfl
    have hname : (colourNames.find? fun c => c.1 == lower "red") = some ("red", 1) := by
      decide +kernel
    unfold colour?
    rw [hfound, hnone]
    simp [hname]

end Drafting.Command
