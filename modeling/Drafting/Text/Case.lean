import Drafting.Text.CaseData

/-!
# Case mappings

`lower` and `upper` are the full case mappings of the Unicode standard: a
character may map to several (`ß` uppercases to `SS`, `İ` lowercases to `i`
followed by a combining dot), and capital sigma lowercases to final `ς` at the
end of a word and to `σ` elsewhere.  `fold` is the one-character lowercase
that case-insensitive pattern matching compares.
-/

namespace Drafting.Text

/-- Whether the final-sigma rule steps over `c` when it looks for a neighbour. -/
def isCaseIgnorable (c : Char) : Bool := caseIgnorable.contains c.toNat

/-- Whether `c` is cased, for a character that is not case-ignorable. -/
def isCasedLetter (c : Char) : Bool := casedLetters.contains c.toNat

/-- The one-character lowercase of `c`; capital `İ` folds to plain `i`. -/
def fold (c : Char) : Char :=
  if c.toNat = 0x3A3 then Char.ofNat 0x3C3
  else if c.toNat = 0x130 then 'i'
  else match lowerTable.lookup c.toNat with
    | some m => Char.ofNat m
    | none => c

/-- The full lowercase of a character other than capital sigma. -/
def lowerChar (c : Char) : List Char :=
  if c.toNat = 0x130 then ['i', Char.ofNat 0x307]
  else match lowerTable.lookup c.toNat with
    | some m => [Char.ofNat m]
    | none => [c]

/-- Whether the first character of `cs` that is not case-ignorable is cased. -/
def casedAhead : List Char → Bool
  | [] => false
  | c :: rest => if isCaseIgnorable c then casedAhead rest else isCasedLetter c

/-- Lowercase of `cs`, where `casedBefore` tells whether the last character before
`cs` that is not case-ignorable is cased.  Capital sigma becomes final `ς` exactly
when a cased character stands before it and none stands after it. -/
def lowerFrom (casedBefore : Bool) : List Char → List Char
  | [] => []
  | c :: rest =>
    let here :=
      if c.toNat = 0x3A3 then
        [Char.ofNat (if casedBefore && !casedAhead rest then 0x3C2 else 0x3C3)]
      else lowerChar c
    let casedBefore' := if isCaseIgnorable c then casedBefore else isCasedLetter c
    here ++ lowerFrom casedBefore' rest

/-- The full lowercase of a text. -/
def lower (s : String) : String := String.ofList (lowerFrom false s.toList)

/-- The full uppercase of a character. -/
def upperChar (c : Char) : List Char :=
  match upperExpansions.find? (fun e => e.1 == c.toNat) with
  | some e => e.2.toList
  | none =>
    match upperTable.lookup c.toNat with
    | some m => [Char.ofNat m]
    | none => [c]

/-- The full uppercase of a text; it depends on no context. -/
def upper (s : String) : String := String.ofList (s.toList.flatMap upperChar)

end Drafting.Text
