import Drafting.Decimal.Shortest

/-!
# Writing doubles and integers

A double is written with its shortest decimal (`Drafting.Double.shortest`).
`FloatStyle` holds the decisions of a format on top of it: which decimal
exponents are written positionally, the exponent mark, the least number of
exponent digits, and the spellings of the special values.  `FloatStyle.plain`
is the style of this library's output: positional from `1e-4` up to below
`1e16`, with `.0` after a whole number, and `1e-05` or `1.5e+16` outside.
-/

namespace Drafting.Double

/-- The decisions of a format for doubles. -/
structure FloatStyle where
  /-- Positional when the decimal point lies after `lowPoint` digits at least … -/
  lowPoint : Int
  /-- … and after `highPoint` digits at most. -/
  highPoint : Int
  /-- The letter before the exponent. -/
  mark : String
  /-- Digits the exponent takes at least, zeros in front. -/
  exponentWidth : Nat
  /-- Written for a positive infinity. -/
  infinity : String
  /-- Written for a value that is not a number. -/
  notANumber : String

/-- Shortest decimals, positional for decimal points from `-3` to `16` places,
`.0` after a whole number, `e+16` and `e-05` style exponents, `inf` and `nan`. -/
def FloatStyle.plain : FloatStyle :=
  ⟨-3, 16, "e", 2, "inf", "nan"⟩

/-- `n` zeros. -/
def zeros (n : Nat) : String := String.ofList (List.replicate n '0')

/-- The digits of a decimal with the point after `point` of them. -/
def placePoint (ds : String) (point : Int) : String :=
  let n := Int.ofNat ds.length
  if point ≤ 0 then "0." ++ zeros (-point).toNat ++ ds
  else if n ≤ point then ds ++ zeros (point - n).toNat ++ ".0"
  else String.ofList (ds.toList.take point.toNat) ++ "." ++ String.ofList (ds.toList.drop point.toNat)

/-- The digits of a decimal in exponent form, the point after the first digit. -/
def withExponent (style : FloatStyle) (ds : String) (point : Int) : String :=
  let exp := point - 1
  let body := match ds.toList with
    | d :: rest@(_ :: _) => String.ofList (d :: '.' :: rest)
    | _ => ds
  let expDigits := String.ofList (Nat.toDigits 10 exp.natAbs)
  body ++ style.mark ++ (if exp < 0 then "-" else "+") ++
    zeros (style.exponentWidth - expDigits.length) ++ expDigits

/-- A double written in the given style. -/
def FloatStyle.write (style : FloatStyle) (x : Float) : String :=
  match decode x with
  | .nan => style.notANumber
  | .infinite neg => (if neg then "-" else "") ++ style.infinity
  | .finite neg m e =>
    let sign := if neg then "-" else ""
    if m = 0 then sign ++ "0.0"
    else
      let d := shortest m e
      let ds := String.ofList (Nat.toDigits 10 d.digits)
      let point := Int.ofNat ds.length + d.exponent
      if style.lowPoint ≤ point && point ≤ style.highPoint then sign ++ placePoint ds point
      else sign ++ withExponent style ds point

/-- A double in the plain style of this library. -/
def render (x : Float) : String := FloatStyle.plain.write x

end Drafting.Double

namespace Drafting

/-- An integer in decimal, with a minus sign when negative. -/
def showInt (n : Int) : String :=
  (if n < 0 then "-" else "") ++ String.ofList (Nat.toDigits 10 n.natAbs)

end Drafting
