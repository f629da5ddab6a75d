import Drafting.Value.Text

/-!
# Faults

A `Fault` is why an operation stopped instead of answering: what went wrong,
with the data a message needs.  `Fault.message` words it and `Fault.category`
names the family it belongs to, the way a caller that catches faults by family
sees it.
-/

namespace Drafting

/-- How a comparison is written. -/
inductive Comparison where
  | lt | le | gt | ge
  deriving DecidableEq, Repr

/-- The symbol of a comparison. -/
def Comparison.symbol : Comparison → String
  | .lt => "<" | .le => "<=" | .gt => ">" | .ge => ">="

/-- Why an operation stopped. -/
inductive Fault where
  /-- An object lacks a key that was required. -/
  | missingKey (key : Value)
  /-- A sequence of the given kind was indexed by a text. -/
  | textIndex (kind : String)
  /-- A value of the given kind was indexed at all. -/
  | notSubscriptable (kind : String)
  /-- A value of the given kind lacks the named operation. -/
  | noAttribute (kind attr : String)
  /-- A value of the given kind has no length. -/
  | noLength (kind : String)
  /-- A value of the given kind cannot be walked through. -/
  | notIterable (kind : String)
  /-- Two kinds that do not compare. -/
  | unordered (op : Comparison) (lhs rhs : String)
  /-- A value of the given kind where a real number was needed. -/
  | notReal (kind : String)
  /-- An integer beyond the range of doubles. -/
  | intTooLarge
  /-- A quotient of integers beyond the range of doubles. -/
  | quotientTooLarge
  /-- A function asked for a value outside its domain. -/
  | mathDomain
  /-- A value of the given kind cannot be hashed. -/
  | unhashable (kind : String)
  /-- A point with fewer than two coordinates, shown as a literal. -/
  | invalidPoint (shown : String)
  /-- The drawing application refused the named request. -/
  | hostFailed (request : String)
  /-- A value of the given kind where a file path was needed. -/
  | notAPath (kind : String)
  /-- The file system refused an operation on `path` with error number `code`. -/
  | fileSystem (code : Nat) (path : String)
  /-- A path with a NUL character in it. -/
  | nullByte
  /-- An address that names no resource. -/
  | unknownResource (uri : String)
  /-- A name that names no prompt. -/
  | unknownPrompt (name : String)
  /-- A call named a parameter that the function does not have. -/
  | unexpectedArgument (function name : String)
  /-- A call gave a parameter that was already bound a second value. -/
  | multipleValues (function name : String)
  /-- A call left out required parameters, named in order. -/
  | missingArguments (function : String) (names : List String)
  /-- A call gave too many positional arguments. -/
  | tooManyArguments (function : String) (least most given : Nat)
  /-- An integer literal too long to read. -/
  | digitLimit (digits : Nat)
  /-- A value of the given kind was called as a function. -/
  | notCallable (kind : String)
  /-- A text was given where an array of reals is built from items. -/
  | textArray
  /-- Calls nested deeper than the call stack holds. -/
  | tooDeep
  /-- A literal written into a message nests deeper than the call stack holds. -/
  | reprTooDeep
  /-- A function that takes no named arguments was given some. -/
  | noKeywords (function : String)
  /-- A built-in operation checked how many arguments it was given. -/
  | argumentCount (expected given : Nat)
  /-- An unpacking of the arguments, named `name`, checked how many there were. -/
  | unpackCount (name : String) (expected given : Nat)
  /-- A function of exactly one argument was given another number of them. -/
  | exactlyOne (function : String) (given : Nat)
  /-- An object was made without the class to make it of. -/
  | notEnoughArguments (function : String)
  /-- The arguments of a call were spread from a value of the given kind, which has no items. -/
  | notSpreadable (function kind : String)
  deriving Inhabited

namespace Fault

/-- Names joined the way a message lists them: `'a'`, `'a' and 'b'`, `'a', 'b', and 'c'`. -/
def listNames : List String → String
  | [] => ""
  | [a] => quote a
  | [a, b] => quote a ++ " and " ++ quote b
  | names => ", ".intercalate (names.dropLast.map quote) ++ ", and " ++ quote (names.getLast?.getD "")

/-- The description the file system gives for an error number. -/
def osReason : Nat → String
  | 1 => "Operation not permitted"
  | 2 => "No such file or directory"
  | 13 => "Permission denied"
  | 17 => "File exists"
  | 20 => "Not a directory"
  | 30 => "Read-only file system"
  | 36 => "File name too long"
  | n => "Error " ++ showInt n

/-- The family a fault belongs to. -/
def category : Fault → String
  | missingKey _ => "KeyError"
  | noAttribute .. => "AttributeError"
  | intTooLarge | quotientTooLarge => "OverflowError"
  | mathDomain | invalidPoint _ | nullByte | unknownResource _ | unknownPrompt _
  | digitLimit _ => "ValueError"
  | hostFailed _ => "RuntimeError"
  | fileSystem 1 _ => "PermissionError"
  | fileSystem 2 _ => "FileNotFoundError"
  | fileSystem 13 _ => "PermissionError"
  | fileSystem 17 _ => "FileExistsError"
  | fileSystem 20 _ => "NotADirectoryError"
  | fileSystem _ _ => "OSError"
  | tooDeep | reprTooDeep => "RecursionError"
  | _ => "TypeError"

/-- What the fault says. -/
def message : Fault → String
  | missingKey k => k.repr
  | textIndex "str" => "string indices must be integers, not 'str'"
  | textIndex kind => kind ++ " indices must be integers or slices, not str"
  | notSubscriptable kind => "'" ++ kind ++ "' object is not subscriptable"
  | noAttribute kind attr => "'" ++ kind ++ "' object has no attribute '" ++ attr ++ "'"
  | noLength kind => "object of type '" ++ kind ++ "' has no len()"
  | notIterable kind => "'" ++ kind ++ "' object is not iterable"
  | unordered op lhs rhs =>
    "'" ++ op.symbol ++ "' not supported between instances of '" ++ lhs ++ "' and '" ++ rhs ++ "'"
  | notReal kind => "must be real number, not " ++ kind
  | intTooLarge => "int too large to convert to float"
  | quotientTooLarge => "integer division result too large for a float"
  | mathDomain => "math domain error"
  | unhashable kind => "unhashable type: '" ++ kind ++ "'"
  | invalidPoint shown => "Invalid point: " ++ shown ++ ". Expected 2 or 3 coordinates."
  | hostFailed request => request ++ " failed"
  | notAPath kind => "expected str, bytes or os.PathLike object, not " ++ kind
  | fileSystem code path => "[Errno " ++ showInt code ++ "] " ++ osReason code ++ ": " ++ quote path
  | nullByte => "embedded null byte"
  | unknownResource uri => "Unknown resource: " ++ uri
  | unknownPrompt name => "Unknown prompt: " ++ name
  | unexpectedArgument f name => f ++ "() got an unexpected keyword argument '" ++ name ++ "'"
  | multipleValues f name => f ++ "() got multiple values for argument '" ++ name ++ "'"
  | missingArguments f names =>
    f ++ "() missing " ++ showInt names.length ++ " required positional argument" ++
      (if names.length == 1 then "" else "s") ++ ": " ++ listNames names
  | tooManyArguments f least most given =>
    f ++ "() takes " ++
      (if least == most then showInt most else "from " ++ showInt least ++ " to " ++ showInt most) ++
      " positional argument" ++ (if most == 1 then "" else "s") ++ " but " ++ showInt given ++
      (if given == 1 then " was" else " were") ++ " given"
  | notCallable kind => "'" ++ kind ++ "' object is not callable"
  | textArray => "cannot use a str to initialize an array with typecode 'd'"
  | tooDeep => "maximum recursion depth exceeded while calling a Python object"
  | reprTooDeep => "maximum recursion depth exceeded while getting the repr of an object"
  | noKeywords f => f ++ "() takes no keyword arguments"
  | argumentCount expected given =>
    "expected " ++ showInt expected ++ " argument" ++ (if expected == 1 then "" else "s") ++
      ", got " ++ showInt given
  | unpackCount name expected given =>
    name ++ " expected " ++ showInt expected ++ " argument" ++ (if expected == 1 then "" else "s") ++
      ", got " ++ showInt given
  | exactlyOne f given => f ++ "() takes exactly one argument (" ++ showInt given ++ " given)"
  | notEnoughArguments f => f ++ "(): not enough arguments"
  | notSpreadable f kind => f ++ "() argument after * must be an iterable, not " ++ kind
  | digitLimit n =>
    "Exceeds the limit (4300 digits) for integer string conversion: value has " ++ showInt n ++
      " digits; use sys.set_int_max_str_digits() to increase the limit"

end Fault

end Drafting
