/-!
# Range tables of code points

A character property is stored as a sorted array of disjoint inclusive ranges,
and a case mapping as a sorted array of runs: a run maps every `step`-th code
point from `lo` to `hi` by adding the same `delta`.  Both are searched by
halving the part of the array that can still hold the answer, so a lookup
takes a logarithmic number of steps.

The searches are exact when the arrays are sorted and disjoint, which the
generated tables are.
-/

namespace Drafting.Text

/-- A set of code points as a sorted array of disjoint inclusive ranges. -/
structure RangeSet where
  bounds : Array (Nat × Nat)

namespace RangeSet

/-- Binary search for the range holding `c` among the ranges at indices `lo` up to `hi`. -/
def find (s : RangeSet) (c : Nat) (lo hi : Nat) : Option (Nat × Nat) :=
  if lo < hi then
    let mid := (lo + hi) / 2
    let r := s.bounds.getD mid (0, 0)
    if c < r.1 then s.find c lo mid
    else if r.2 < c then s.find c (mid + 1) hi
    else some r
  else none
termination_by hi - lo

/-- The range that holds the code point `c`, if one does. -/
def rangeOf? (s : RangeSet) (c : Nat) : Option (Nat × Nat) :=
  s.find c 0 s.bounds.size

/-- Whether the code point `c` lies in one of the ranges. -/
def contains (s : RangeSet) (c : Nat) : Bool :=
  (s.rangeOf? c).isSome

end RangeSet

/-- A run of a case mapping: the code points `lo`, `lo + step`, … up to `hi`
each map to themselves plus `delta`. -/
structure CaseRun where
  lo : Nat
  hi : Nat
  step : Nat
  delta : Int

/-- A one-to-one case mapping as a sorted array of disjoint runs. -/
structure CaseTable where
  runs : Array CaseRun

namespace CaseTable

/-- Binary search for the run holding `c` among the runs at indices `lo` up to `hi`. -/
def find (t : CaseTable) (c : Nat) (lo hi : Nat) : Option Nat :=
  if lo < hi then
    let mid := (lo + hi) / 2
    let r := t.runs.getD mid ⟨0, 0, 1, 0⟩
    if c < r.lo then t.find c lo mid
    else if r.hi < c then t.find c (mid + 1) hi
    else if (c - r.lo) % r.step = 0 then some (Int.toNat (c + r.delta))
    else none
  else none
termination_by hi - lo

/-- The image of `c` under the mapping, if the mapping moves it. -/
def lookup (t : CaseTable) (c : Nat) : Option Nat :=
  t.find c 0 t.runs.size

end CaseTable

end Drafting.Text
