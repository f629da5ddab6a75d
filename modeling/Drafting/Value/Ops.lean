import Drafting.Fault
import Drafting.Text.Case

/-!
# Operations on values

The operations the drawing service applies to the values it is handed, each
with the fault it stops with on a value of the wrong kind: length, walking
through, indexing by a key, comparing with an integer, reading as a real
number, and the text methods.

Numbers mix the way the service computes with them: a truth value counts as
the integer `0` or `1`, integers are exact, and an integer meets a double by
being rounded to the nearest double first, which fails when it is too large
(`Num.toFloat`).  Comparisons are exact.
-/

namespace Drafting

/-- A number: an exact integer or a double. -/
inductive Num where
  | int (n : Int)
  | float (x : Float)

namespace Num

/-- The double nearest to an integer, or a fault when it lies past the largest one. -/
def intToFloat (n : Int) : Except Fault Float :=
  if n = 0 then .ok 0.0
  else match Double.nearestBits n.natAbs 1 with
    | some b => .ok (Float.ofBits (UInt64.ofNat ((if n < 0 then Nat.pow 2 63 else 0) + b)))
    | none => .error .intTooLarge

/-- A number as a double. -/
def toFloat : Num → Except Fault Float
  | int n => intToFloat n
  | float x => .ok x

/-- The number as a value. -/
def toValue : Num → Value
  | int n => .int n
  | float x => .float x

/-- The difference of two numbers; integers stay exact. -/
def sub : Num → Num → Except Fault Num
  | int a, int b => .ok (int (a - b))
  | a, b => do return float ((← a.toFloat) - (← b.toFloat))

/-- The product of two numbers; integers stay exact. -/
def mul : Num → Num → Except Fault Num
  | int a, int b => .ok (int (a * b))
  | a, b => do return float ((← a.toFloat) * (← b.toFloat))

/-- The quotient of two numbers, always a double: of two integers the double
nearest to their exact quotient; the divisor is not zero. -/
def div : Num → Num → Except Fault Float
  | int a, int b =>
    if a = 0 then .ok (Double.zero ((a < 0) != (b < 0)))
    else match Double.nearestBits a.natAbs b.natAbs with
      | some bits => .ok (Float.ofBits (UInt64.ofNat ((if (a < 0) != (b < 0) then Nat.pow 2 63 else 0) + bits)))
      | none => .error .quotientTooLarge
  | a, b => do return (← a.toFloat) / (← b.toFloat)

/-- The sign of a finite double against zero. -/
def floatSign (x : Float) : Ordering :=
  if x < 0.0 then .lt else if x > 0.0 then .gt else .eq

/-- Compares a double with an integer exactly; `none` when the double is not a number. -/
def compareFloatInt (x : Float) (n : Int) : Option Ordering :=
  match Double.decode x with
  | .nan => none
  | .infinite neg => some (if neg then .lt else .gt)
  | .finite neg m e =>
    -- `x` is `±m * 2 ^ e`: compare `±m * 2 ^ e` with `n` over a common denominator
    let sgn : Int := if neg then -1 else 1
    let lhs : Int := sgn * m * (if 0 ≤ e then Int.pow 2 e.toNat else 1)
    let rhs : Int := n * (if 0 ≤ e then 1 else Int.pow 2 (-e).toNat)
    some (compare lhs rhs)

/-- Whether `a op n` holds; a double that is not a number fails every comparison. -/
def holds (op : Comparison) (a : Num) (n : Int) : Bool :=
  let o := match a with
    | int m => some (compare m n)
    | float x => compareFloatInt x n
  match o, op with
  | some .lt, .lt | some .lt, .le | some .eq, .le | some .gt, .gt | some .gt, .ge
  | some .eq, .ge => true
  | _, _ => false

end Num

namespace Value

/-- A value as a number, when it is one; truth values count as `0` and `1`. -/
def num? : Value → Option Num
  | bool b => some (.int (if b then 1 else 0))
  | int n => some (.int n)
  | float x => some (.float x)
  | _ => none

/-- The number of items of a text, list, tuple or object. -/
def len : Value → Except Fault Nat
  | str s => .ok s.length
  | list xs => .ok xs.length
  | tuple xs => .ok xs.length
  | dict kvs => .ok kvs.length
  | v => .error (.noLength v.kind)

/-- The items met walking through a value: the characters of a text, the items of a
list or tuple, the keys of an object. -/
def elements : Value → Except Fault (List Value)
  | str s => .ok (s.toList.map fun c => str (String.singleton c))
  | list xs => .ok xs
  | tuple xs => .ok xs
  | dict kvs => .ok (kvs.map fun kv => str kv.1)
  | v => .error (.notIterable v.kind)

/-- The items of a value as a tuple. -/
def toTuple (v : Value) : Except Fault Value := return tuple (← v.elements)

/-- The items of a value as a list. -/
def toList (v : Value) : Except Fault Value := return list (← v.elements)

/-- The value under `key` in an object, which must be there. -/
def index (v : Value) (key : String) : Except Fault Value :=
  match v with
  | dict kvs => match lookup key kvs with
    | some w => .ok w
    | none => .error (.missingKey (.str key))
  | str _ | list _ | tuple _ => .error (.textIndex v.kind)
  | _ => .error (.notSubscriptable v.kind)

/-- The item at place `i` of a text, list, tuple or object; the length was checked,
and an object has no place keys. -/
def item (v : Value) (i : Nat) : Except Fault Value :=
  match v with
  | str s => .ok (str (String.singleton (s.toList.getD i ' ')))
  | list xs => .ok (xs.getD i null)
  | tuple xs => .ok (xs.getD i null)
  | dict _ => .error (.missingKey (int i))
  | _ => .error (.notSubscriptable v.kind)

/-- The value under `key` in an object, or `default` when it is not there. -/
def get (v : Value) (key : String) (default : Value) : Except Fault Value :=
  match v with
  | dict kvs => .ok ((lookup key kvs).getD default)
  | _ => .error (.noAttribute v.kind "get")

/-- Whether `v op n` holds for the integer `n`. -/
def compareInt (op : Comparison) (v : Value) (n : Int) : Except Fault Bool :=
  match v.num? with
  | some a => .ok (a.holds op n)
  | none => .error (.unordered op v.kind "int")

/-- A value as a real number: truth values and integers are rounded to a double. -/
def toReal (v : Value) : Except Fault Float :=
  match v.num? with
  | some a => a.toFloat
  | none => .error (.notReal v.kind)

/-- Whether a value equals the integer zero: a zero of either sign, or false. -/
def isZero (v : Value) : Bool :=
  match v.num? with
  | some a => a.holds .le 0 && a.holds .ge 0
  | none => false

/-- One more than a number; a value that is no number stays as it is. -/
def succ : Value → Value
  | bool b => int (if b then 2 else 1)
  | int n => int (n + 1)
  | float x => float (x + 1.0)
  | v => v

/-- The text of a value that must be a text, for the named method. -/
def textFor (method : String) : Value → Except Fault String
  | str s => .ok s
  | v => .error (.noAttribute v.kind method)

end Value

end Drafting
