import Drafting.Value.Basic
import Drafting.Decimal.Binary

/-!
# Values in JSON

`Json.parse` reads a JSON text into a `Value` and `Value.toJson` writes one.
The reader accepts JSON as the common libraries do beyond the standard: the
words `NaN`, `Infinity` and `-Infinity`, integers of any length up to 4300
digits, and an object that repeats a key, which keeps the key where it first
stood and takes the last value given.  Blanks are space, tab, line feed and
carriage return; a raw control character inside a text is an error.  A number
with a fraction or an exponent is a double, rounded correctly; one without is
an integer.

The reader descends one level per bracket; it is given one step of fuel per
character, which no text can exhaust.  It also takes the number of arrays and
objects that may stand open at once: a reader that recurses on the call stack
fails past its recursion limit, and a deeper text is then no JSON it can read.
-/

namespace Drafting

namespace Json

/-- Whether `c` is a blank between JSON tokens. -/
def isBlank (c : Char) : Bool := c == ' ' || c == '\t' || c == '\n' || c == '\r'

/-- Whether `c` is an ASCII digit. -/
def isAsciiDigit (c : Char) : Bool := '0' ≤ c && c ≤ '9'

/-- The value of an ASCII hexadecimal digit. -/
def hexValue? (c : Char) : Option Nat :=
  if '0' ≤ c && c ≤ '9' then some (c.toNat - '0'.toNat)
  else if 'a' ≤ c && c ≤ 'f' then some (c.toNat - 'a'.toNat + 10)
  else if 'A' ≤ c && c ≤ 'F' then some (c.toNat - 'A'.toNat + 10)
  else none

/-- The number written by four hexadecimal digits. -/
def hex4? (a b c d : Char) : Option Nat := do
  return (((← hexValue? a) * 16 + (← hexValue? b)) * 16 + (← hexValue? c)) * 16 + (← hexValue? d)

/-- The number of the ASCII digits `ds`. -/
def digitsValue (ds : List Char) : Nat :=
  ds.foldl (fun acc c => acc * 10 + (c.toNat - '0'.toNat)) 0

/-- The character of a code point from an escape; a lone surrogate, which text
cannot hold, becomes the replacement character. -/
def escapedChar (n : Nat) : Char :=
  if 0xD800 ≤ n && n ≤ 0xDFFF then Char.ofNat 0xFFFD else Char.ofNat n

/-- The character of an escaped surrogate pair. -/
def pairedChar (hi lo : Nat) : Char :=
  Char.ofNat (0x10000 + (hi - 0xD800) * 0x400 + (lo - 0xDC00))

/-- The character that a one-letter escape stands for. -/
def simpleEscape? : Char → Option Char
  | '"' => some '"'
  | '\\' => some '\\'
  | '/' => some '/'
  | 'b' => some '\x08'
  | 'f' => some '\x0c'
  | 'n' => some '\n'
  | 'r' => some '\r'
  | 't' => some '\t'
  | _ => none

/-- Reads the rest of a text after its opening quote, up to and past the closing
one; `acc` holds the characters read so far, last first.  An escaped high
surrogate followed by an escaped low one makes one character. -/
def readText : List Char → List Char → Option (String × List Char)
  | [], _ => none
  | '"' :: rest, acc => some (String.ofList acc.reverse, rest)
  | '\\' :: 'u' :: a :: b :: c :: d :: '\\' :: 'u' :: e :: f :: g :: h :: rest, acc =>
    match hex4? a b c d with
    | none => none
    | some hi =>
      let next := '\\' :: 'u' :: e :: f :: g :: h :: rest
      if 0xD800 ≤ hi && hi ≤ 0xDBFF then
        match hex4? e f g h with
        | some lo =>
          if 0xDC00 ≤ lo && lo ≤ 0xDFFF then readText rest (pairedChar hi lo :: acc)
          else readText next (escapedChar hi :: acc)
        | none => none
      else readText next (escapedChar hi :: acc)
  | '\\' :: 'u' :: a :: b :: c :: d :: rest, acc =>
    match hex4? a b c d with
    | none => none
    | some hi => readText rest (escapedChar hi :: acc)
  | '\\' :: esc :: rest, acc =>
    match simpleEscape? esc with
    | some c => readText rest (c :: acc)
    | none => none
  | c :: rest, acc => if c.toNat < 0x20 then none else readText rest (c :: acc)
termination_by cs => cs.length

/-- Reads a number at the front of `cs`: an optional minus, `0` or digits not
starting with `0`, a fraction only when a digit follows the point, an exponent
only when a digit follows its sign. -/
def readNumber (cs : List Char) : Option (Value × List Char) := do
  let (neg, cs) := match cs with
    | '-' :: rest => (true, rest)
    | _ => (false, cs)
  let (intDigits, cs) ← match cs with
    | '0' :: rest => some (['0'], rest)
    | c :: rest =>
      if '1' ≤ c && c ≤ '9' then some (c :: rest.takeWhile isAsciiDigit, rest.dropWhile isAsciiDigit)
      else none
    | [] => none
  let (fracDigits, cs) := match cs with
    | '.' :: d :: rest =>
      if isAsciiDigit d then (some (d :: rest.takeWhile isAsciiDigit), rest.dropWhile isAsciiDigit)
      else (none, cs)
    | _ => (none, cs)
  let (expPart, cs) := match cs with
    | e :: rest =>
      if e == 'e' || e == 'E' then
        let (expNeg, rest') := match rest with
          | '-' :: r => (true, r)
          | '+' :: r => (false, r)
          | r => (false, r)
        let ds := rest'.takeWhile isAsciiDigit
        if ds.isEmpty then (none, cs)
        else (some (expNeg, ds), rest'.dropWhile isAsciiDigit)
      else (none, cs)
    | [] => (none, cs)
  match fracDigits, expPart with
  | none, none =>
    if intDigits.length > 4300 then none
    else
      let n : Int := digitsValue intDigits
      some (.int (if neg then -n else n), cs)
  | _, _ =>
    let frac := fracDigits.getD []
    let mantissa := digitsValue (intDigits ++ frac)
    let exp : Int := match expPart with
      | some (true, ds) => -(digitsValue ds : Int)
      | some (false, ds) => digitsValue ds
      | none => 0
    some (.float (Double.ofDecimal neg mantissa (exp - frac.length)), cs)

mutual

/-- Reads one value at the front of `cs`, blanks before it skipped, with room for
`room` more arrays and objects to open. -/
def readValue : Nat → Nat → List Char → Option (Value × List Char)
  | 0, _, _ => none
  | fuel + 1, room, cs =>
    match cs.dropWhile isBlank with
    | '"' :: rest => (readText rest []).map fun (s, r) => (.str s, r)
    | '{' :: rest =>
      match room with
      | 0 => none
      | room + 1 =>
        match rest.dropWhile isBlank with
        | '}' :: r => some (.dict [], r)
        | r => readEntries fuel room r []
    | '[' :: rest =>
      match room with
      | 0 => none
      | room + 1 =>
        match rest.dropWhile isBlank with
        | ']' :: r => some (.list [], r)
        | r => readItems fuel room r []
    | 'n' :: 'u' :: 'l' :: 'l' :: r => some (.null, r)
    | 't' :: 'r' :: 'u' :: 'e' :: r => some (.bool true, r)
    | 'f' :: 'a' :: 'l' :: 's' :: 'e' :: r => some (.bool false, r)
    | 'N' :: 'a' :: 'N' :: r => some (.float (0.0 / 0.0), r)
    | 'I' :: 'n' :: 'f' :: 'i' :: 'n' :: 'i' :: 't' :: 'y' :: r => some (.float (Double.infinity false), r)
    | '-' :: 'I' :: 'n' :: 'f' :: 'i' :: 'n' :: 'i' :: 't' :: 'y' :: r =>
      some (.float (Double.infinity true), r)
    | r => readNumber r

/-- Reads the items of an array after its first item starts, up to and past `]`. -/
def readItems : Nat → Nat → List Char → List Value → Option (Value × List Char)
  | 0, _, _, _ => none
  | fuel + 1, room, cs, acc =>
    match readValue fuel room cs with
    | none => none
    | some (v, rest) =>
      match rest.dropWhile isBlank with
      | ',' :: r => readItems fuel room r (v :: acc)
      | ']' :: r => some (.list (v :: acc).reverse, r)
      | _ => none

/-- Reads the entries of an object from its first key on, up to and past the closing brace. -/
def readEntries : Nat → Nat → List Char → List (String × Value) → Option (Value × List Char)
  | 0, _, _, _ => none
  | fuel + 1, room, cs, acc =>
    match cs.dropWhile isBlank with
    | '"' :: rest =>
      match readText rest [] with
      | none => none
      | some (key, rest) =>
        match rest.dropWhile isBlank with
        | ':' :: r =>
          match readValue fuel room r with
          | none => none
          | some (v, rest) =>
            let acc := Value.store key v acc
            match rest.dropWhile isBlank with
            | ',' :: r => readEntries fuel room r acc
            | '\x7d' :: r => some (.dict acc, r)
            | _ => none
        | _ => none
    | _ => none

end

/-- Reads a whole JSON text: one value, blanks around it, nothing else, with at
most `room` arrays and objects open at once. -/
def parseWithin (room : Nat) (s : String) : Option Value :=
  let cs := s.toList
  match readValue (cs.length + 1) room cs with
  | some (v, rest) => if (rest.dropWhile isBlank).isEmpty then some v else none
  | none => none

/-- Reads a whole JSON text, however deeply it nests. -/
def parse (s : String) : Option Value := parseWithin (s.length + 1) s

/-- A text as a JSON string: quotes, backslashes and control characters escaped. -/
def writeText (s : String) : String :=
  let esc (c : Char) : String :=
    if c == '"' then "\\\"" else if c == '\\' then "\\\\"
    else if c == '\n' then "\\n" else if c == '\r' then "\\r" else if c == '\t' then "\\t"
    else if c == '\x08' then "\\b" else if c == '\x0c' then "\\f"
    else if c.toNat < 0x20 then
      let ds := Nat.toDigits 16 c.toNat
      "\\u" ++ String.ofList (List.replicate (4 - ds.length) '0' ++ ds)
    else String.singleton c
  "\"" ++ String.join (s.toList.map esc) ++ "\""

end Json

namespace Value

mutual

/-- A value as JSON text; tuples become arrays, and doubles that are not finite
are written `NaN`, `Infinity` and `-Infinity`. -/
def toJson : Value → String
  | null => "null"
  | bool true => "true"
  | bool false => "false"
  | int n => showInt n
  | float x =>
    if x.isNaN then "NaN"
    else if x.isInf then (if x < 0.0 then "-Infinity" else "Infinity")
    else Double.render x
  | str s => Json.writeText s
  | list xs => "[" ++ jsonItems xs ++ "]"
  | tuple xs => "[" ++ jsonItems xs ++ "]"
  | dict kvs => "\x7b" ++ jsonEntries kvs ++ "\x7d"

/-- Items of an array, separated by commas. -/
def jsonItems : List Value → String
  | [] => ""
  | [x] => toJson x
  | x :: rest => toJson x ++ ", " ++ jsonItems rest

/-- Entries of an object, separated by commas. -/
def jsonEntries : List (String × Value) → String
  | [] => ""
  | [(k, v)] => Json.writeText k ++ ": " ++ toJson v
  | (k, v) :: rest => Json.writeText k ++ ": " ++ toJson v ++ ", " ++ jsonEntries rest

end

end Value

end Drafting
