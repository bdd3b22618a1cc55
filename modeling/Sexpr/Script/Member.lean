import Sexpr.Script.Fault
import Sexpr.Script.Value

/-!
Members of plain values: the names that a plain value has from the start.

None of them can be set or deleted, and no other name can be added.  A refusal says which
of the two is the case.
-/

namespace Sexpr.Script

namespace Member

def shared : List String := [
    "__delattr__", "__dir__", "__doc__", "__eq__", "__format__", "__ge__", "__getattribute__",
    "__getstate__", "__gt__", "__hash__", "__init__", "__init_subclass__", "__le__", "__lt__",
    "__ne__", "__new__", "__reduce__", "__reduce_ex__", "__repr__", "__setattr__",
    "__sizeof__", "__str__", "__subclasshook__"]

def ofNumber : List String := [
    "__abs__", "__add__", "__bool__", "__ceil__", "__divmod__", "__float__", "__floor__",
    "__floordiv__", "__getnewargs__", "__int__", "__mod__", "__mul__", "__neg__", "__pos__",
    "__pow__", "__radd__", "__rdivmod__", "__rfloordiv__", "__rmod__", "__rmul__",
    "__round__", "__rpow__", "__rsub__", "__rtruediv__", "__sub__", "__truediv__",
    "__trunc__", "as_integer_ratio", "conjugate"]

def ofInteger : List String := [
    "__and__", "__index__", "__invert__", "__lshift__", "__or__", "__rand__", "__rlshift__",
    "__ror__", "__rrshift__", "__rshift__", "__rxor__", "__xor__", "bit_count", "bit_length",
    "from_bytes", "to_bytes"]

def ofFloat : List String :=
  ["__getformat__", "fromhex", "hex", "is_integer"]

def partsOfInteger : List String := ["denominator", "imag", "numerator", "real"]

def partsOfFloat : List String := ["imag", "real"]

def ofSequence : List String := [
    "__add__", "__contains__", "__getitem__", "__iter__", "__len__", "__mul__", "__rmul__",
    "count", "index"]

def ofCharacters : List String := [
    "__getnewargs__", "__mod__", "__rmod__", "capitalize", "center", "endswith", "expandtabs",
    "find", "isalnum", "isalpha", "isascii", "isdigit", "islower", "isspace", "istitle",
    "isupper", "join", "ljust", "lower", "lstrip", "maketrans", "partition", "removeprefix",
    "removesuffix", "replace", "rfind", "rindex", "rjust", "rpartition", "rsplit", "rstrip",
    "split", "splitlines", "startswith", "strip", "swapcase", "title", "translate", "upper",
    "zfill"]

def ofText : List String := [
    "casefold", "encode", "format", "format_map", "isdecimal", "isidentifier", "isnumeric",
    "isprintable"]

def ofBytes : List String := ["__bytes__", "decode", "fromhex", "hex"]

def ofList : List String := [
    "__class_getitem__", "__delitem__", "__iadd__", "__imul__", "__reversed__", "__setitem__",
    "append", "clear", "copy", "extend", "insert", "pop", "remove", "reverse", "sort"]

def ofTuple : List String := ["__class_getitem__", "__getnewargs__"]

end Member

namespace Value

/-- The names of a plain value that stand for something fixed. -/
def members : Value → List String
  | .none => Member.shared ++ ["__bool__"]
  | .bool _ | .int _ => Member.shared ++ Member.ofNumber ++ Member.ofInteger
  | .float _ _ => Member.shared ++ Member.ofNumber ++ Member.ofFloat
  | .text _ => Member.shared ++ Member.ofSequence ++ Member.ofCharacters ++ Member.ofText
  | .bytes _ => Member.shared ++ Member.ofSequence ++ Member.ofCharacters ++ Member.ofBytes
  | .list _ => Member.shared ++ Member.ofSequence ++ Member.ofList
  | .tuple _ => Member.shared ++ Member.ofSequence ++ Member.ofTuple
  | .node _ => []

def parts : Value → String × List String
  | .bool _ | .int _ => ("int", Member.partsOfInteger)
  | .float _ _ => ("float", Member.partsOfFloat)
  | value => (value.kindName, [])

def refuseKindChange : Option Value → Fault
  | some given => .notAKind given.kindName
  | Option.none => .kindDeleted

/-- Refuse a change of an attribute, to a value or to none: forms never change, and plain
values keep the names that they have. -/
def refuseChange (name : String) (given : Option Value) : Value → Fault
  | .node tree => .immutable tree.kindName
  | value =>
      if name = "__class__" then refuseKindChange given
      else if value.members.contains name then .readOnly value.kindName name
      else if value.parts.2.contains name then .notWritable value.parts.1 name
      else .noAttribute value.kindName name

end Value

end Sexpr.Script
