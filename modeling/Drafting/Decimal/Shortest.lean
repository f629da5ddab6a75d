import Drafting.Decimal.Binary

/-!
# Shortest decimal of a double

The shortest decimal of a positive double `v = m * 2 ^ e` is the decimal with
the fewest significant digits that reads back as `v`, and of two such the one
nearer to `v`.  A decimal reads back as `v` when it lies in the interval of
reals that round to `v`: from the midpoint with the lower neighbour to the
midpoint with the upper one, the midpoints included when `m` is even.

For `n = 1, 2, …` the decimals of `n` digits form a grid of step `10 ^ k`; if
a point of the grid lies in the interval, so does one of the two grid points
around `v`, so testing those two decides the length `n`.  At most seventeen
digits are ever needed.

All comparisons are made on integers, after scaling by `2 ^ (2 - e)`: `v`
becomes `4m`, the upper midpoint `4m + 2`, the lower one `4m - 2`, or `4m - 1`
when `m` is the least normal significand and the lower neighbour lies in the
binade below, which is twice as dense.
-/

namespace Drafting.Double

/-- A decimal `digits * 10 ^ exponent`. -/
structure Decimal where
  digits : Nat
  exponent : Int

/-- `c * 10 ^ k * 2 ^ (2 - e)` as a numerator and a denominator. -/
def gridScaled (c : Nat) (k e : Int) : Nat × Nat :=
  let (n, d) := if 0 ≤ k then (c * Nat.pow 10 k.toNat, 1) else (c, Nat.pow 10 (-k).toNat)
  if 0 ≤ 2 - e then (n * Nat.pow 2 (2 - e).toNat, d) else (n, d * Nat.pow 2 (e - 2).toNat)

/-- The number of decimal digits of `n`, one for zero. -/
def decimalLength (n : Nat) : Nat := (Nat.toDigits 10 n).length

/-- The decimal exponent `p` with `10 ^ p ≤ m * 2 ^ e < 10 ^ (p + 1)`, for `m > 0`. -/
def leadingExponent (m : Nat) (e : Int) : Int :=
  -- `m * 2 ^ e` as a whole fraction; its integer part fixes `p` when it is not zero
  let (n, d) := if 0 ≤ e then (m * Nat.pow 2 e.toNat, 1) else (m, Nat.pow 2 (-e).toNat)
  if n ≥ d then Int.ofNat (decimalLength (n / d)) - 1
  else
    -- below one: the number of zeros after the point, found from `d / n`
    let q := d / n
    let t := decimalLength q
    -- `10 ^ (t - 1) ≤ d / n < 10 ^ t`, so `v` lies in `(10 ^ (-t), 10 ^ (1 - t)]`
    if n * Nat.pow 10 (t - 1) == d then 1 - Int.ofNat t else -Int.ofNat t

/-- Whether `c * 10 ^ k` lies in the rounding interval of `m * 2 ^ e`, whose ends,
scaled, are `lo` and `hi`, taken in when `closed`. -/
def inInterval (c : Nat) (k e : Int) (lo hi : Nat) (closed : Bool) : Bool :=
  let (n, d) := gridScaled c k e
  let aboveLo := if closed then lo * d ≤ n else lo * d < n
  let belowHi := if closed then n ≤ hi * d else n < hi * d
  aboveLo && belowHi

/-- The grid decimal of step `10 ^ k` that reads back as `m * 2 ^ e` and lies
nearest to it, if either grid point around it reads back. -/
def onGrid (m : Nat) (e k : Int) : Option Nat :=
  let lo := if m == hidden && e > minExponent then 4 * m - 1 else 4 * m - 2
  let hi := 4 * m + 2
  let closed := m % 2 == 0
  -- `v / 10 ^ k` as a fraction, for the two grid points around `v`
  let (n, d) := gridScaled 1 k e
  let below := 4 * m * d / n
  let above := below + 1
  let okBelow := inInterval below k e lo hi closed
  let okAbove := inInterval above k e lo hi closed
  match okBelow, okAbove with
  | true, true =>
    -- both read back: the nearer one, the even one on a tie
    let dBelow := 4 * m * d - below * n
    let dAbove := above * n - 4 * m * d
    if dBelow < dAbove || (dBelow == dAbove && below % 2 == 0) then some below else some above
  | true, false => some below
  | false, true => some above
  | false, false => none

/-- Searches the grids of `n` digits and more, `fuel` of them; past the last one
the nearest grid point below stands, though seventeen digits always reach the
interval. -/
def searchDigits (m : Nat) (e p : Int) : Nat → Nat → Decimal
  | 0, n =>
    let k := p - Int.ofNat n + 1
    let (num, den) := gridScaled 1 k e
    ⟨4 * m * den / num, k⟩
  | fuel + 1, n =>
    let k := p - Int.ofNat n + 1
    match onGrid m e k with
    | some c => ⟨c, k⟩
    | none => searchDigits m e p fuel (n + 1)

/-- Drops the trailing zeros of a decimal's digits into its exponent. -/
def trimZeros : Nat → Decimal → Decimal
  | 0, d => d
  | fuel + 1, d =>
    if d.digits ≠ 0 && d.digits % 10 == 0 then trimZeros fuel ⟨d.digits / 10, d.exponent + 1⟩
    else d

/-- The shortest decimal of the positive double `m * 2 ^ e`, without trailing zeros. -/
def shortest (m : Nat) (e : Int) : Decimal :=
  trimZeros 20 (searchDigits m e (leadingExponent m e) 17 1)

end Drafting.Double
