import Drafting.Call
import Drafting.Value.Ops

/-!
# Points and line weights

A point sent to the drawing application has three coordinates.  A point given
with two gets `0.0` as its third, one given with more keeps its first three,
and one with fewer is refused.  The coordinates themselves are passed on as
they were given: checking that they are numbers is left to the step that
turns them into reals.

Line weights come from a fixed list of widths, in hundredths of a millimetre;
any other requested weight is replaced by the default weight `0`.
-/

namespace Drafting

/-- A point in space as the service reports it: three coordinates, each the value
it was given. -/
structure Point3 where
  x : Value
  y : Value
  z : Value

namespace Point3

/-- The point as a triple. -/
def toValue (p : Point3) : Value := .tuple [p.x, p.y, p.z]

/-- The coordinates in order. -/
def coords (p : Point3) : List Value := [p.x, p.y, p.z]

/-- A point from a sequence of two coordinates or more; fewer is a fault that
shows the sequence. -/
def ofValue (p : Value) : Except Fault Point3 := do
  let n ← p.len
  if n == 2 then return ⟨← p.item 0, ← p.item 1, .float 0.0⟩
  else if n ≥ 3 then return ⟨← p.item 0, ← p.item 1, ← p.item 2⟩
  else throw (.invalidPoint p.text)

/-- A point in the plane, lifted to height `0.0`; built from exactly two coordinates. -/
def planar (args : List Value) : Except Fault Point3 := do
  match ← (Signature.mk "Point2D.__init__" [.required "x", .required "y"]).byPosition args with
  | [x, y] => return ⟨x, y, .float 0.0⟩
  | _ => return ⟨.null, .null, .float 0.0⟩

/-- A point in space from two or three coordinates, the third `0.0` by default. -/
def spatial (args : List Value) : Except Fault Point3 := do
  match ← (Signature.mk "Point3D.__init__"
      [.required "x", .required "y", .optional "z" (.float 0.0)]).byPosition args with
  | [x, y, z] => return ⟨x, y, z⟩
  | _ => return ⟨.null, .null, .float 0.0⟩

end Point3

/-- The line weights a drawing accepts, in hundredths of a millimetre. -/
def lineweights : List Int :=
  [0, 5, 9, 13, 15, 18, 20, 25, 30, 35, 40, 50, 53, 60, 70, 80, 90, 100, 106, 120, 140, 158, 200, 211]

/-- Whether a value can serve as a key: lists and objects cannot, nor a tuple
holding one. -/
def hashFault : Value → Option Fault
  | .list _ => some (.unhashable "list")
  | .dict _ => some (.unhashable "dict")
  | .tuple xs => xs.attach.findSome? fun ⟨x, _⟩ => hashFault x
  | _ => none

/-- The requested line weight when it equals one of `lineweights`, as it was
given (`25.0` stays a double, `false` stays a truth value); else `0`. -/
def validLineweight (v : Value) : Except Fault Value :=
  match hashFault v with
  | some f => .error f
  | none =>
    let listed := match v.num? with
      | some (.int n) => lineweights.contains n
      | some (.float x) => lineweights.any fun w => x == Float.ofInt w
      | none => false
    .ok (if listed then v else .int 0)

end Drafting
