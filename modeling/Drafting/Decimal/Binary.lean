/-!
# Binary doubles as exact numbers

A finite double is a sign, an integer significand `m` and a binary exponent
`e`, worth `m * 2 ^ e`.  `Double.decode` reads them off the bit pattern, and
`Double.nearest` goes the other way: it rounds a positive fraction `num / den`
to the double nearest to it, a tie going to the even significand, which is how
every correctly rounded conversion of a decimal or of a quotient ends.

Everything here is exact integer arithmetic on `Nat`; no floating-point
operation takes part, so the results do not depend on the platform.
-/

namespace Drafting.Double

/-- What a bit pattern of a double denotes. -/
inductive Form where
  /-- Not a number. -/
  | nan
  /-- An infinity of the given sign. -/
  | infinite (negative : Bool)
  /-- The number `(-1) ^ negative * mantissa * 2 ^ exponent`. -/
  | finite (negative : Bool) (mantissa : Nat) (exponent : Int)

/-- The significand of the smallest normal double, `2 ^ 52`. -/
def hidden : Nat := Nat.pow 2 52

/-- The exponent of the subnormal doubles. -/
def minExponent : Int := -1074

/-- Reads sign, significand and exponent off the bits of `x`. -/
def decode (x : Float) : Form :=
  let bits := x.toBits.toNat
  let negative := bits / Nat.pow 2 63 == 1
  let biased := (bits / hidden) % 2048
  let fraction := bits % hidden
  if biased == 2047 then
    if fraction == 0 then .infinite negative else .nan
  else if biased == 0 then .finite negative fraction minExponent
  else .finite negative (fraction + hidden) (Int.ofNat biased - 1075)

/-- The number of binary digits of `n`, zero for zero. -/
def bitLength (n : Nat) : Nat := if n = 0 then 0 else Nat.log2 n + 1

/-- `num * 2 ^ (-e)` over `den`, both sides kept whole. -/
def scaled (num den : Nat) (e : Int) : Nat × Nat :=
  if 0 ≤ e then (num, den * Nat.pow 2 e.toNat) else (num * Nat.pow 2 (-e).toNat, den)

/-- The quotient of `num / den` rounded to an integer, a tie going to the even one. -/
def roundHalfEven (num den : Nat) : Nat :=
  let q := num / den
  let r := num % den
  if 2 * r > den || (2 * r == den && q % 2 == 1) then q + 1 else q

/-- The exponent at which `num / den` gets a significand below `2 ^ 53` and,
unless the number is subnormal, at least `2 ^ 52`. -/
def exponentFor (num den : Nat) : Int :=
  let t : Int := Int.ofNat (bitLength num) - Int.ofNat (bitLength den)
  let e := t - 53
  let (n, d) := scaled num den e
  let e := if n / d ≥ 2 * hidden then e + 1 else e
  max e minExponent

/-- The bits of the double nearest to the positive fraction `num / den`, or
`none` when that rounds past the largest finite double. -/
def nearestBits (num den : Nat) : Option Nat :=
  let e := exponentFor num den
  let (n, d) := scaled num den e
  let q := roundHalfEven n d
  let (q, e) := if q == 2 * hidden then (hidden, e + 1) else (q, e)
  if q < hidden then some q
  else
    let biased := e + 1075
    if biased ≥ 2047 then none
    else some (biased.toNat * hidden + (q - hidden))

/-- The infinity of the given sign. -/
def infinity (negative : Bool) : Float :=
  Float.ofBits (UInt64.ofNat ((if negative then Nat.pow 2 63 else 0) + 2047 * hidden))

/-- The zero of the given sign. -/
def zero (negative : Bool) : Float :=
  Float.ofBits (UInt64.ofNat (if negative then Nat.pow 2 63 else 0))

/-- The double with the given sign nearest to `num / den`; infinite when too large. -/
def nearest (negative : Bool) (num den : Nat) : Float :=
  if num = 0 then zero negative
  else match nearestBits num den with
    | some b => Float.ofBits (UInt64.ofNat ((if negative then Nat.pow 2 63 else 0) + b))
    | none => infinity negative

/-- The double nearest to `digits * 10 ^ exp10`.  A number whose decimal exponent
lies far outside the range of doubles is settled without building its powers:
a quarter of the bit length bounds the decimal exponent of `digits` from below,
a third of it plus one from above. -/
def ofDecimal (negative : Bool) (digits : Nat) (exp10 : Int) : Float :=
  let bits := Int.ofNat (bitLength digits)
  if digits = 0 || bits / 3 + 1 + exp10 < -400 then zero negative
  else if bits / 4 + exp10 > 400 then infinity negative
  else if 0 ≤ exp10 then nearest negative (digits * Nat.pow 10 exp10.toNat) 1
  else nearest negative digits (Nat.pow 10 (-exp10).toNat)

end Drafting.Double
