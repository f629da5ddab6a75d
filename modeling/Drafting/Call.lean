import Drafting.Fault

/-!
# Calls with named and positional arguments

An operation of the service is called with its arguments either in order or
by name.  `Signature.byName` and `Signature.byPosition` match the arguments
of a call with the parameters of the operation, filling in defaults, and stop
with the fault a caller would see: a name the operation does not have, a
second value for the receiver, too many arguments, or required parameters left
out, listed in order.

A method counts its receiver among its positional parameters, so a method
of two parameters "takes 3 positional arguments".
-/

namespace Drafting

/-- A parameter of an operation, with its default if it has one. -/
structure Param where
  name : String
  default : Option Value

/-- A required parameter. -/
def Param.required (name : String) : Param := ⟨name, none⟩

/-- A parameter with a default. -/
def Param.optional (name : String) (default : Value) : Param := ⟨name, some default⟩

/-- The parameters of an operation and the name that messages give it. -/
structure Signature where
  name : String
  params : List Param

namespace Signature

/-- Fills each parameter from the given value, else its default; the names of
the parameters left without a value are reported in order. -/
def fill (sig : Signature) (given : String → Option Value) : Except Fault (List Value) :=
  let missing := sig.params.filter fun p => (given p.name).isNone && p.default.isNone
  if missing.isEmpty then
    .ok (sig.params.map fun p => ((given p.name).orElse fun _ => p.default).getD .null)
  else .error (.missingArguments sig.name (missing.map Param.name))

/-- The name of a method's receiver, its first parameter. -/
def receiver : String := "self"

/-- Matches arguments given by name with the parameters of a method, in the
order they are given: the receiver is bound already, so an argument of its
name is a second value for it. -/
def byName (sig : Signature) (args : List (String × Value)) : Except Fault (List Value) :=
  match args.find? fun a => a.1 == receiver || !(sig.params.any fun p => p.name == a.1) with
  | some a =>
    if a.1 == receiver then .error (.multipleValues sig.name a.1)
    else .error (.unexpectedArgument sig.name a.1)
  | none => sig.fill fun n => Value.lookup n args

/-- Matches arguments given in order with the parameters of a method. -/
def byPosition (sig : Signature) (args : List Value) : Except Fault (List Value) :=
  let most := sig.params.length
  if args.length > most then
    let least := (sig.params.filter fun p => p.default.isNone).length
    .error (.tooManyArguments sig.name (least + 1) (most + 1) (args.length + 1))
  else
    let named := (sig.params.map Param.name).zip args
    sig.fill fun n => Value.lookup n named

end Signature

end Drafting
