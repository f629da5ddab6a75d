import Drafting.Value.Basic
import Drafting.Text.Classes

/-!
# Values as text

`Value.repr` writes a value as a literal that reads back as the same value:
texts in quotes, `None`, `True` and `False`, lists in brackets, tuples in
parentheses with a trailing comma after a single item, objects in braces.
`Value.text` is what a message shows: a text as itself, anything else as its
literal.

A quoted text takes single quotes unless it holds a single quote and no
double one.  Inside, the backslash and the chosen quote are escaped, tab, line
feed and carriage return get their letters, other characters below the space
and DEL become `\xhh`, and a character outside ASCII stays as it is when it is
printable and becomes `\xhh`, `\uhhhh` or `\Uhhhhhhhh` otherwise.
-/

namespace Drafting

/-- `n` in lowercase hexadecimal, padded with zeros to `width` digits. -/
def hexPadded (width n : Nat) : String :=
  let ds := Nat.toDigits 16 n
  String.ofList (List.replicate (width - ds.length) '0' ++ ds)

/-- How one character of a text is written between the quote `q`. -/
def quoteChar (q c : Char) : String :=
  let n := c.toNat
  if c == q || c == '\\' then String.ofList ['\\', c]
  else if c == '\t' then "\\t"
  else if c == '\n' then "\\n"
  else if c == '\r' then "\\r"
  else if n < 0x20 || n == 0x7F then "\\x" ++ hexPadded 2 n
  else if n < 0x7F then String.singleton c
  else if Text.isPrintable c then String.singleton c
  else if n ≤ 0xFF then "\\x" ++ hexPadded 2 n
  else if n ≤ 0xFFFF then "\\u" ++ hexPadded 4 n
  else "\\U" ++ hexPadded 8 n

/-- A text as a quoted literal. -/
def quote (s : String) : String :=
  let q := if s.contains '\'' && !s.contains '"' then '"' else '\''
  String.singleton q ++ String.join (s.toList.map (quoteChar q)) ++ String.singleton q

namespace Value

mutual

/-- A value as a literal. -/
def repr : Value → String
  | null => "None"
  | bool true => "True"
  | bool false => "False"
  | int n => showInt n
  | float x => Double.render x
  | str s => quote s
  | list xs => "[" ++ reprItems xs ++ "]"
  | tuple [x] => "(" ++ repr x ++ ",)"
  | tuple xs => "(" ++ reprItems xs ++ ")"
  | dict kvs => "\x7b" ++ reprEntries kvs ++ "\x7d"

/-- Items of a sequence, separated by commas. -/
def reprItems : List Value → String
  | [] => ""
  | [x] => repr x
  | x :: rest => repr x ++ ", " ++ reprItems rest

/-- Entries of an object, separated by commas. -/
def reprEntries : List (String × Value) → String
  | [] => ""
  | [(k, v)] => quote k ++ ": " ++ repr v
  | (k, v) :: rest => quote k ++ ": " ++ repr v ++ ", " ++ reprEntries rest

end

/-- A value as a message shows it: a text as itself, anything else as its literal. -/
def text : Value → String
  | str s => s
  | v => v.repr

mutual

/-- How deeply writing a value's literal nests: one level for the value, and for a
list, tuple or object one more than its deepest item (of an object, its values; its
keys are texts, one level each).  Each level holds a frame of the call stack. -/
def reprDepth : Value → Nat
  | list xs => itemsDepth xs + 1
  | tuple xs => itemsDepth xs + 1
  | dict kvs => entriesDepth kvs + 1
  | _ => 1

/-- The deepest literal among items; nothing for no items. -/
def itemsDepth : List Value → Nat
  | [] => 0
  | x :: rest => max x.reprDepth (itemsDepth rest)

/-- The deepest literal among the values of entries; nothing for no entries. -/
def entriesDepth : List (String × Value) → Nat
  | [] => 0
  | (_, v) :: rest => max v.reprDepth (entriesDepth rest)

end

end Value

end Drafting
