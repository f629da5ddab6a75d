import Drafting.Decimal.Format

/-!
# Values

Tool arguments arrive as arbitrary JSON, and the drawing service passes them
on without converting them: a coordinate may be an integer, a double, a truth
value or, when a caller errs, a text or a list.  `Value` is that data: JSON's
kinds with integers kept apart from doubles, plus tuples, the fixed-length
sequences the service builds from lists.  Objects keep their keys in the order
they were written, and a key occurs once.

What the service does with a value depends on its kind alone, and every
message about a value names its kind with `Value.kind`.
-/

namespace Drafting

/-- A datum passed to and produced by the drawing service. -/
inductive Value where
  /-- The absent value. -/
  | null
  /-- A truth value; it also counts as the integer `0` or `1`. -/
  | bool (b : Bool)
  /-- An integer of any size. -/
  | int (n : Int)
  /-- A double. -/
  | float (x : Float)
  /-- A text. -/
  | str (s : String)
  /-- A list. -/
  | list (items : List Value)
  /-- A tuple, a sequence that the service built and nobody changes. -/
  | tuple (items : List Value)
  /-- An object: keys in order, each once. -/
  | dict (entries : List (String × Value))
  deriving Inhabited

namespace Value

/-- The name of a value's kind, as messages about the value spell it. -/
def kind : Value → String
  | null => "NoneType"
  | bool _ => "bool"
  | int _ => "int"
  | float _ => "float"
  | str _ => "str"
  | list _ => "list"
  | tuple _ => "tuple"
  | dict _ => "dict"

/-- Whether a value counts as true in a test: every value but `null`, `false`,
zero, and an empty text or collection.  A double that is not a number is true. -/
def truthy : Value → Bool
  | null => false
  | bool b => b
  | int n => n != 0
  | float x => !(x == 0.0)
  | str s => !s.isEmpty
  | list xs => !xs.isEmpty
  | tuple xs => !xs.isEmpty
  | dict kvs => !kvs.isEmpty

/-- The value stored under `key` in a list of entries. -/
def lookup (key : String) : List (String × Value) → Option Value
  | [] => none
  | (k, v) :: rest => if k == key then some v else lookup key rest

/-- Stores `v` under `key`: in place when the key is there, at the end otherwise. -/
def store (key : String) (v : Value) : List (String × Value) → List (String × Value)
  | [] => [(key, v)]
  | (k, w) :: rest => if k == key then (k, v) :: rest else (k, w) :: store key v rest

/-- A text value. -/
instance : Coe String Value := ⟨str⟩

/-- A pair of values as a tuple. -/
def pair (a b : Value) : Value := tuple [a, b]

end Value

end Drafting
