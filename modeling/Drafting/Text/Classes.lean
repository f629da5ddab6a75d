import Drafting.Text.ClassData

/-!
# Character classes

The classes that text scanning and quoting ask about: blanks, decimal digits
of every script with their values, word characters and printable characters.
-/

namespace Drafting.Text

/-- Blank characters: the ASCII controls tab to carriage return and the four
separators before the space, the space, next-line, no-break space, and the
Unicode space and line separators. -/
def isSpace (c : Char) : Bool :=
  let n := c.toNat
  (9 ≤ n && n ≤ 13) || (28 ≤ n && n ≤ 32) || n == 0x85 || n == 0xA0 || n == 0x1680 ||
    (0x2000 ≤ n && n ≤ 0x200A) || n == 0x2028 || n == 0x2029 || n == 0x202F ||
    n == 0x205F || n == 0x3000

/-- The value of a decimal digit of any script. -/
def digitValue? (c : Char) : Option Nat :=
  (decimalDigits.rangeOf? c.toNat).map fun r => (c.toNat - r.1) % 10

/-- Whether `c` is a decimal digit of some script. -/
def isDigit (c : Char) : Bool := (digitValue? c).isSome

/-- Letters, digits and numerals of every script, and the underscore. -/
def isWordChar (c : Char) : Bool := wordChars.contains c.toNat

/-- Whether quoting shows `c` as itself rather than as an escape. -/
def isPrintable (c : Char) : Bool := printableChars.contains c.toNat

/-- A text without the blanks at either end. -/
def strip (s : String) : String :=
  String.ofList ((s.toList.dropWhile isSpace).reverse.dropWhile isSpace).reverse

end Drafting.Text
