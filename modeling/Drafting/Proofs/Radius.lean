import Mathlib
import Drafting.Proofs.Label

/-!
# The radius a circle command reads

A circle command without a `radius` keyword takes its radius from the numerals of the
sentence when it holds coordinate pairs: it passes over two numerals for each pair and takes
the next one, and 50 when there is none.  That is the first numeral outside the pairs exactly
when the pairs' coordinates are the first numerals of the sentence.

So whenever the numerals begin with the pairs' coordinates, in order, the radius is the
numeral right after them (`radius_after_pairs`), as in `circle (1,2) 5`.  They do when the
pairs stand before a mark with no other numeral among them, and none stands after it; the
radius is then the first numeral after the mark (`radius_after_mark`).  A numeral before
the pairs shifts the count: `circle 5 (1,2)` takes the pair's own second coordinate, 2, for
its radius, and not the 5 that stands outside the pair (`radius_counts_numeral_before_pair`).
-/

namespace Drafting.Command

open Text

/-- The coordinates of pairs, in order. -/
def coordinates (ps : List (Float × Float)) : List Float := ps.flatMap fun p => [p.1, p.2]

theorem length_coordinates (ps : List (Float × Float)) : (coordinates ps).length = 2 * ps.length := by
  induction ps with
  | nil => rfl
  | cons p ps ih => simp [coordinates, List.flatMap_cons] at ih ⊢; omega

/-- Without a radius keyword, a circle with points takes for its radius the numeral that stands
past as many numerals as its points have coordinates, or 50 when there is none. -/
theorem circleRadius_past_points {sentence : String} {ps : List Point} {front rest : List Float}
    (hkey : keywordNumber "radius" none true sentence.toList = none)
    (hkey' : keywordNumber "半径" none false sentence.toList = none)
    (hps : ps ≠ []) (hns : numbers sentence.toList = front ++ rest)
    (hfront : front.length = 2 * ps.length) :
    circleRadius sentence ps = (rest.head?.map Num.float).getD (.int 50) := by
  have hkeys : (keywordNumber "radius" none true sentence.toList <|>
      keywordNumber "半径" none false sentence.toList) = none := by
    rw [hkey, hkey']
    rfl
  have hheld : ps.isEmpty = false := List.isEmpty_eq_false_iff.mpr hps
  have hsome : 0 < ps.length := List.length_pos_iff.mpr hps
  have hdrop : (front ++ rest).drop (2 * ps.length) = rest := by
    rw [← hfront, List.drop_left]
  unfold circleRadius
  rw [hkeys]
  dsimp only
  rw [hns, hheld, hdrop]
  cases rest with
  | nil => simp
  | cons r rest =>
    -- the points' coordinates and one more numeral are more than two numerals
    have hlong : (!false && decide ((front ++ r :: rest).length > 2)) = true := by
      simp only [List.length_append, List.length_cons, hfront]
      simp only [Bool.not_false, Bool.true_and, decide_eq_true_eq]
      omega
    rw [if_pos hlong]
    rfl

/-- Without a radius keyword, a circle command whose numerals begin with the coordinates of
its pairs, in order, takes for its radius the first numeral after them, or 50 when there is
none. -/
theorem radius_after_pairs (sentence : String) (rest : List Float)
    (hkey : keywordNumber "radius" none true sentence.toList = none)
    (hkey' : keywordNumber "半径" none false sentence.toList = none)
    (hpairs : pairs sentence.toList ≠ [])
    (hns : numbers sentence.toList = coordinates (pairs sentence.toList) ++ rest) :
    circleRadius sentence (pointsOf sentence) = (rest.head?.map Num.float).getD (.int 50) := by
  have hpoints : pointsOf sentence ≠ [] := by simpa [pointsOf] using hpairs
  have hcount : (coordinates (pairs sentence.toList)).length = 2 * (pointsOf sentence).length := by
    rw [pointsOf, List.length_map, length_coordinates]
  exact circleRadius_past_points hkey hkey' hpoints hns hcount

/-- `circle (1,2) 5`: the pair's coordinates are the first numerals, and the radius is the
5 after them. -/
theorem radius_after_pair_five :
    keywordNumber "radius" none true "circle (1,2) 5".toList = none ∧
      keywordNumber "半径" none false "circle (1,2) 5".toList = none ∧
      pairs "circle (1,2) 5".toList ≠ [] ∧
      numbers "circle (1,2) 5".toList = coordinates (pairs "circle (1,2) 5".toList) ++ [5.0] ∧
      circleRadius "circle (1,2) 5" (pointsOf "circle (1,2) 5") = .float 5.0 := by
  have h1 : keywordNumber "radius" none true "circle (1,2) 5".toList = none := by decide +kernel
  have h2 : keywordNumber "半径" none false "circle (1,2) 5".toList = none := by decide +kernel
  have h3 : pairs "circle (1,2) 5".toList ≠ [] := by decide +kernel
  have h4 : numbers "circle (1,2) 5".toList = coordinates (pairs "circle (1,2) 5".toList) ++ [5.0] := by
    decide +kernel
  exact ⟨h1, h2, h3, h4, radius_after_pairs _ _ h1 h2 h3 h4⟩

/-- A circle command whose pairs all stand before a mark, with no numeral among them but
their coordinates, and whose part after the mark holds no pair: without a radius keyword,
the radius is the first numeral after the mark, or 50 when there is none. -/
theorem radius_after_mark (a b : String) {c : Char} (hc : Mark c)
    (hkey : keywordNumber "radius" none true (a ++ String.singleton c ++ b).toList = none)
    (hkey' : keywordNumber "半径" none false (a ++ String.singleton c ++ b).toList = none)
    (hpairs : pairs a.toList ≠ []) (hfront : numbers a.toList = coordinates (pairs a.toList))
    (hback : pairs b.toList = []) :
    circleRadius (a ++ String.singleton c ++ b) (pointsOf (a ++ String.singleton c ++ b)) =
      ((numbers b.toList).head?.map Num.float).getD (.int 50) := by
  have hsplit : (a ++ String.singleton c ++ b).toList = a.toList ++ c :: b.toList := by simp
  have hpoints : pointsOf (a ++ String.singleton c ++ b) = (pairs a.toList).map Point.ofPair := by
    rw [pointsOf, hsplit, pairs_append_of_mark hc, hback, List.append_nil]
  have hnumbers : numbers (a ++ String.singleton c ++ b).toList =
      coordinates (pairs a.toList) ++ numbers b.toList := by
    rw [hsplit, numbers_append_of_mark hc, hfront]
  have hcount : (coordinates (pairs a.toList)).length = 2 * ((pairs a.toList).map Point.ofPair).length := by
    rw [List.length_map, length_coordinates]
  rw [hpoints]
  exact circleRadius_past_points hkey hkey' (by simpa using hpairs) hnumbers hcount

/-- `circle 5 (1,2)` has three numerals, 5, 1 and 2, and one pair, (1, 2); its radius is the
pair's second coordinate 2, not the numeral 5 that stands outside the pair. -/
theorem radius_counts_numeral_before_pair :
    numbers "circle 5 (1,2)".toList = [5.0, 1.0, 2.0] ∧ pairs "circle 5 (1,2)".toList = [(1.0, 2.0)] ∧
      (match circleRadius "circle 5 (1,2)" (pointsOf "circle 5 (1,2)") with
        | .float r => r
        | .int _ => 0.0) = 2.0 := by
  refine ⟨by decide +kernel, by decide +kernel, ?_⟩
  decide +kernel

end Drafting.Command
