import Drafting.Text.Case
import Drafting.Text.Classes
import Drafting.Decimal.Binary

/-!
# Scanning command text

The pieces of a command that the parser looks for, each read at the front of
a list of characters and returning what it found with the rest after it:
numerals, coordinate pairs `(x, y)`, quoted labels, a keyword followed by a
number, and the like.  `search` finds the leftmost place where a piece
occurs, and `findAll` every occurrence from left to right, each search going
on after the end of the previous find.

Digits are decimal digits of any script, blanks are Unicode blanks, and
keywords match regardless of case: a text character matches a lowercase
pattern letter when it folds to it, and dotless `ı` and long `ſ` match `i`
and `s` although they fold to themselves.
-/

namespace Drafting.Command

open Text

/-- Whether the text character `c` matches the pattern character `p` when case
is ignored. -/
def matchesIgnoringCase (p c : Char) : Bool :=
  fold c == p || (p == 'i' && c.toNat == 0x131) || (p == 's' && c.toNat == 0x17F)

/-- Whether `cs` begins with the pattern `word`, case ignored. -/
def startsIgnoringCase : List Char → List Char → Bool
  | [], _ => true
  | _ :: _, [] => false
  | p :: ps, c :: cs => matchesIgnoringCase p c && startsIgnoringCase ps cs

/-- Whether `needle` occurs in `hay` as a contiguous piece. -/
def occursIn (needle : List Char) : List Char → Bool
  | [] => needle.isEmpty
  | h :: hs => needle.isPrefixOf (h :: hs) || occursIn needle hs

/-- A numeral as commands write it: an optional minus, one or more decimal
digits, and optionally a point followed by more digits, possibly none. -/
structure Numeral where
  negative : Bool
  whole : List Nat
  fraction : List Nat

/-- The number a list of digit values spells. -/
def digitsValue (ds : List Nat) : Nat := ds.foldl (fun acc d => acc * 10 + d) 0

/-- The double a numeral stands for, rounded correctly; a numeral past the
range of doubles stands for infinity. -/
def Numeral.value (n : Numeral) : Float :=
  Double.ofDecimal n.negative (digitsValue (n.whole ++ n.fraction)) (-(n.fraction.length : Int))

/-- The values of the decimal digits at the front of `cs`, and the rest. -/
def spanDigits (cs : List Char) : List Nat × List Char :=
  ((cs.takeWhile isDigit).filterMap digitValue?, cs.dropWhile isDigit)

/-- A numeral without a sign at the front of `cs`. -/
def unsignedAt (cs : List Char) : Option (Numeral × List Char) :=
  let (whole, rest) := spanDigits cs
  if whole.isEmpty then none
  else match rest with
    | '.' :: r =>
      let (fraction, rest') := spanDigits r
      some (⟨false, whole, fraction⟩, rest')
    | _ => some (⟨false, whole, []⟩, rest)

/-- A numeral at the front of `cs`, with its minus sign if it has one. -/
def numeralAt : List Char → Option (Numeral × List Char)
  | '-' :: rest => (unsignedAt rest).map fun (n, r) => ({ n with negative := true }, r)
  | cs => unsignedAt cs

/-- Drops the blanks at the front. -/
def skipBlanks (cs : List Char) : List Char := cs.dropWhile isSpace

/-- Drops the character `c` at the front, if it is there. -/
def skipOne (c : Char) : List Char → List Char
  | d :: rest => if d == c then rest else d :: rest
  | [] => []

/-- A coordinate pair at the front of `cs`: an optional `(`, a numeral, a comma,
a numeral and an optional `)`, with blanks allowed around each part; the blanks
and the `)` after the second numeral are taken too. -/
def pairAt (cs : List Char) : Option ((Float × Float) × List Char) := do
  let (x, cs) ← numeralAt (skipBlanks (skipOne '(' cs))
  let cs ← match skipBlanks cs with
    | ',' :: rest => some rest
    | _ => none
  let (y, cs) ← numeralAt (skipBlanks cs)
  return ((x.value, y.value), skipOne ')' (skipBlanks cs))

/-- The first piece that `m` finds at some place of `cs`, trying places from the left. -/
def search {α : Type} (m : List Char → Option α) : List Char → Option α
  | [] => m []
  | c :: rest =>
    match m (c :: rest) with
    | some a => some a
    | none => search m rest

/-- Every piece that `m` finds, from the left: after a find the search goes on
where the find ended, after a miss one character further on. -/
def findAll {α : Type} (m : List Char → Option (α × List Char)) : List Char → List α
  | [] => []
  | c :: rest =>
    match m (c :: rest) with
    | some (a, after) =>
      if after.length < rest.length + 1 then a :: findAll m after else a :: findAll m rest
    | none => findAll m rest
termination_by cs => cs.length

/-- Every coordinate pair of a text, from the left. -/
def pairs (cs : List Char) : List (Float × Float) := findAll pairAt cs

/-- Every numeral of a text, from the left, as doubles. -/
def numbers (cs : List Char) : List Float :=
  findAll (fun cs => (numeralAt cs).map fun (n, r) => (n.value, r)) cs

/-- Whether `c` opens or closes a plain quotation. -/
def isQuoteMark (c : Char) : Bool := c == '"' || c == '\''

/-- A quoted label starting at the front of `cs`: between any two of `"` and `'`,
holding neither, else between two `"`, else between `「` and `」`; never empty. -/
def quotedAt : List Char → Option String
  | q :: rest =>
    let between (stop : Char → Bool) : Option String :=
      let inner := rest.takeWhile (fun c => !stop c)
      match rest.dropWhile (fun c => !stop c) with
      | _ :: _ => if inner.isEmpty then none else some (String.ofList inner)
      | [] => none
    let plain := if isQuoteMark q then between isQuoteMark else none
    let double := if q == '"' then between (· == '"') else none
    let corner := if q == '「' then between (· == '」') else none
    plain <|> double <|> corner
  | [] => none

/-- The first quoted label of a text. -/
def quoted (cs : List Char) : Option String := search quotedAt cs

/-- What follows a keyword before its value: blanks, an optional `=` or `:`, blanks. -/
def skipAssign (cs : List Char) : List Char :=
  skipBlanks (match skipBlanks cs with
    | '=' :: rest => rest
    | ':' :: rest => rest
    | rest => rest)

/-- Drops a word at the front, case ignored, if it is there. -/
def skipWordIgnoringCase (word : List Char) (cs : List Char) : List Char :=
  if startsIgnoringCase word cs then cs.drop word.length else cs

/-- A keyword at the front of `cs`, case ignored when `ignoreCase`, then blanks,
an optional `extra` word, an assignment and an unsigned numeral: the numeral's
value. -/
def keywordNumberAt (keyword : String) (extra : Option String) (ignoreCase : Bool)
    (cs : List Char) : Option Float := do
  let kw := keyword.toList
  let matched := if ignoreCase then startsIgnoringCase kw cs else kw.isPrefixOf cs
  if !matched then none
  else
    let rest := skipBlanks (cs.drop kw.length)
    let rest := match extra with
      | some w => skipWordIgnoringCase w.toList rest
      | none => rest
    let (n, _) ← unsignedAt (skipAssign rest)
    return n.value

/-- The value after the leftmost occurrence of a keyword that a number follows. -/
def keywordNumber (keyword : String) (extra : Option String) (ignoreCase : Bool)
    (cs : List Char) : Option Float :=
  search (keywordNumberAt keyword extra ignoreCase) cs

/-- A keyword at the front of `cs`, case ignored, then an assignment and a word
of letters, digits and underscores: the word. -/
def keywordWordAt (keyword : String) (cs : List Char) : Option String :=
  let kw := keyword.toList
  if !startsIgnoringCase kw cs then none
  else
    let word := (skipAssign (cs.drop kw.length)).takeWhile isWordChar
    if word.isEmpty then none else some (String.ofList word)

/-- The word after the leftmost occurrence of a keyword that a word follows. -/
def keywordWord (keyword : String) (cs : List Char) : Option String :=
  search (keywordWordAt keyword) cs

/-- Dropping a front never lengthens a list: what is left is a suffix. -/
theorem dropWhile_length_le {α : Type} (p : α → Bool) (l : List α) :
    (l.dropWhile p).length ≤ l.length :=
  (List.dropWhile_suffix p).length_le

/-- The last place, from the second character on, where `.dwg` (case ignored)
begins in `run`. -/
def lastDrawingSuffix (run : List Char) : Option Nat :=
  let marks := (List.range run.length).filter fun i =>
    1 ≤ i && startsIgnoringCase ".dwg".toList (run.drop i)
  marks.getLast?

/-- The first drawing file name in a text: the leftmost run of non-blank
characters holding `.dwg` (case ignored) after its first character, up to the
end of the last such `.dwg` in the run. -/
def drawingFile : List Char → Option String
  | [] => none
  | c :: rest =>
    if isSpace c then drawingFile rest
    else
      let run := (c :: rest).takeWhile (fun d => !isSpace d)
      match lastDrawingSuffix run with
      | some i => some (String.ofList (run.take (i + 4)))
      | none => drawingFile (rest.dropWhile (fun d => !isSpace d))
termination_by cs => cs.length
decreasing_by
  all_goals simp_wf
  all_goals
    have h := dropWhile_length_le (fun d => !isSpace d) rest
    omega

end Drafting.Command
