import Drafting.Value.Basic

/-!
# Argument schemas

A tool advertises the arguments it takes with a schema in the style of JSON
Schema: each node has a type and, as the type needs, the schema of its items
with bounds on their count, named properties with the required ones, bounds
on a number, a default and a description.  `Schema.toValue` writes a schema
as the object clients read.
-/

namespace Drafting

/-- The JSON types a schema can require. -/
inductive JsonType where
  | object | array | number | integer | string | boolean
  deriving DecidableEq, Repr

/-- The name of a JSON type. -/
def JsonType.name : JsonType → String
  | .object => "object" | .array => "array" | .number => "number" | .integer => "integer"
  | .string => "string" | .boolean => "boolean"

/-- A schema node. -/
inductive Schema where
  | node (type : JsonType) (items : Option Schema) (properties : List (String × Schema))
      (required : List String) (minItems maxItems : Option Nat) (minimum maximum : Option Int)
      (default : Option Value) (description : Option String)

namespace Schema

/-- A node of the given type with nothing else. -/
def plain (t : JsonType) : Schema := .node t none [] [] none none none none none none

/-- A number. -/
def number (description : String) : Schema :=
  .node .number none [] [] none none none none none (some description)

/-- A number not below zero. -/
def nonNegative (description : String) : Schema :=
  .node .number none [] [] none none (some 0) none none (some description)

/-- A text. -/
def text (description : String) : Schema :=
  .node .string none [] [] none none none none none (some description)

/-- A point: two or three numbers. -/
def point (description : String) : Schema :=
  .node .array (some (plain .number)) [] [] (some 2) (some 3) none none none (some description)

/-- A colour index. -/
def colour : Schema :=
  .node .integer none [] [] none none (some 0) (some 255) none (some "Color index 0-255 (optional)")

/-- A line weight. -/
def lineweight : Schema :=
  .node .integer none [] [] none none none none none (some "Line weight in hundredths of mm (optional)")

/-- A layer name. -/
def layer : Schema := text "Layer name (optional)"

/-- The same node with a default. -/
def withDefault (s : Schema) (d : Value) : Schema :=
  match s with
  | .node t i p r lo hi mn mx _ desc => .node t i p r lo hi mn mx (some d) desc

/-- An object with these properties, of which these are required. -/
def object (properties : List (String × Schema)) (required : List String) : Schema :=
  .node .object none properties required none none none none none none

mutual

/-- The schema as the object clients read. -/
def toValue : Schema → Value
  | .node t items props req lo hi mn mx dflt desc =>
    .dict ([("type", .str t.name)] ++
      (match items with
        | some s => [("items", toValue s)]
        | none => []) ++
      (if props.isEmpty then [] else [("properties", .dict (propsValue props))]) ++
      (match lo with
        | some n => [("minItems", .int n)]
        | none => []) ++
      (match hi with
        | some n => [("maxItems", .int n)]
        | none => []) ++
      (match mn with
        | some n => [("minimum", .int n)]
        | none => []) ++
      (match mx with
        | some n => [("maximum", .int n)]
        | none => []) ++
      (match dflt with
        | some d => [("default", d)]
        | none => []) ++
      (match desc with
        | some d => [("description", .str d)]
        | none => []) ++
      (if t == .object then [("required", .list (req.map .str))] else []))

/-- Properties as entries of an object. -/
def propsValue : List (String × Schema) → List (String × Value)
  | [] => []
  | (k, s) :: rest => (k, toValue s) :: propsValue rest

end

end Schema

end Drafting
