import Sexpr.Reader.Failure
import Sexpr.Script.Value

/-!
Why a step of a script fails.
-/

namespace Sexpr.Script

inductive Role where
  | input
  | depthLimit
  | intValue
  | floatValue
  | symbolText
  | stringText
  | quotedForm
  | listItem
  deriving DecidableEq

namespace Role

def names : Role → String × String
  | .input => ("input", "str")
  | .depthLimit => ("max_depth", "int")
  | .intValue => ("Int value", "int")
  | .floatValue => ("Float value", "float")
  | .symbolText => ("Symbol text", "str")
  | .stringText => ("Str text", "str")
  | .quotedForm => ("quoted form", "Token")
  | .listItem => ("list item", "Token")

end Role

inductive Conversion where
  | int
  | float
  | text
  | list
  deriving DecidableEq

namespace Conversion

def name : Conversion → String
  | .int => "int"
  | .float => "float"
  | .text => "str"
  | .list => "list"

end Conversion

inductive Sequence where
  | tuple
  | list
  | text
  | bytes
  deriving DecidableEq

inductive Fault where
  | wrongKind (role : Role) (qualifiedName : String)
  | intOutOfRange (value : Int)
  | depthLimitTooSmall (value : Int)
  | notIterable (kind : String)
  | notSubscriptable (kind : String)
  | noLength (kind : String)
  | indexOutOfRange (sequence : Sequence)
  /-- The number of an item does not fit in 64 bits. -/
  | indexTooLarge
  | badIndex (sequence : Sequence) (kind : String)
  | immutable (kind : String)
  | noAttribute (kind name : String)
  | readOnly (kind name : String)
  | notWritable (kind name : String)
  /-- The kind of a value is set to something that is no kind. -/
  | notAKind (kind : String)
  | kindDeleted
  | notConvertible (kind : String) (target : Conversion)
  | unhashable (kind : String)
  /-- A blank form has no text, equality or hash. -/
  | unsupported
  | tooManyArguments (given : Nat)
  | reading (text : List Char) (failure : Failure)

inductive FaultKind where
  | type
  | value
  | access
  | index
  | unsupported
  | stack
  | reported (kind : ErrorKind)
  deriving DecidableEq

namespace Fault

def kind : Fault → FaultKind
  | .wrongKind _ _ | .notIterable _ | .notSubscriptable _ | .noLength _ | .badIndex _ _
  | .notAKind _ | .kindDeleted | .unhashable _ | .tooManyArguments _ => .type
  | .intOutOfRange _ | .depthLimitTooSmall _ => .value
  | .indexOutOfRange _ | .indexTooLarge => .index
  | .immutable _ | .noAttribute _ _ | .readOnly _ _ | .notWritable _ _ => .access
  | .notConvertible _ _ => .reported .conversion
  | .unsupported => .unsupported
  | .reading _ (.tooManyDigits _) => .value
  | .reading _ .stackExhausted => .stack
  | .reading _ (.nestingExhausted _) => .reported .depth
  | .reading _ (.located _ complaint) => .reported complaint.kind

def offset? : Fault → Option Nat
  | .reading _ failure => failure.offset?
  | _ => none

def shownInt (n : Int) : String := String.ofList (integerText n)

def message : Fault → String
  | .wrongKind role qualifiedName =>
      role.names.1 ++ " must be " ++ role.names.2 ++ " type, but got '" ++ qualifiedName ++ "' type"
  | .intOutOfRange value => "Int value out of 64-bit range: " ++ shownInt value
  | .depthLimitTooSmall value => "max_depth must be >= 1, but got " ++ shownInt value
  | .notIterable kind => "'" ++ kind ++ "' object is not iterable"
  | .notSubscriptable kind => "'" ++ kind ++ "' object is not subscriptable"
  | .noLength kind => "object of type '" ++ kind ++ "' has no len()"
  | .indexOutOfRange .tuple => "tuple index out of range"
  | .indexOutOfRange .list => "list index out of range"
  | .indexOutOfRange .text => "string index out of range"
  | .indexOutOfRange .bytes => "index out of range"
  | .indexTooLarge => "cannot fit 'int' into an index-sized integer"
  | .badIndex .tuple kind => "tuple indices must be integers or slices, not " ++ kind
  | .badIndex .list kind => "list indices must be integers or slices, not " ++ kind
  | .badIndex .text kind => "string indices must be integers, not '" ++ kind ++ "'"
  | .badIndex .bytes kind => "byte indices must be integers or slices, not " ++ kind
  | .immutable kind => kind ++ " is immutable"
  | .noAttribute kind name => "'" ++ kind ++ "' object has no attribute '" ++ name ++ "'"
  | .readOnly kind name => "'" ++ kind ++ "' object attribute '" ++ name ++ "' is read-only"
  | .notWritable kind name =>
      "attribute '" ++ name ++ "' of '" ++ kind ++ "' objects is not writable"
  | .notAKind kind => "__class__ must be set to a class, not '" ++ kind ++ "' object"
  | .kindDeleted => "can't delete __class__ attribute"
  | .notConvertible kind target => "cannot convert " ++ kind ++ " to " ++ target.name
  | .unhashable kind => "unhashable type: '" ++ kind ++ "'"
  | .unsupported => ""
  | .tooManyArguments given =>
      "ReaderError.__init__() takes from 1 to 3 positional arguments but " ++
        shownInt given ++ " were given"
  | .reading text failure => String.ofList (failure.message text)

end Fault

end Sexpr.Script
