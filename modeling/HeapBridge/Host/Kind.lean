/-!
The kinds of host objects, their names, and the members that every object of a kind has: methods,
operators, and values that are computed when they are asked for.
-/
namespace HeapBridge.Host

inductive Kind where
  | nil
  | bool
  | int
  | float
  | text
  | bytes
  | list
  | tuple
  | set
  | frozenset
  | dict
  | plain
  | handle
  | listWalk
  | tupleWalk
  | asciiTextWalk
  | textWalk
  | bytesWalk
  | setWalk
  | dictWalk
  | dictValueWalk
  | dictItemWalk
  | reverseListWalk
  | indexWalk
  | generator
  | dictKeys
  | dictValues
  | dictItems
  | builtinMethod
  | operatorMethod
  | scriptedMethod
  | notImplemented
  /-- A type, as an object. -/
  | type
  deriving DecidableEq, Repr, Inhabited

namespace Kind

def typeName : Kind → String
  | .nil => "NoneType"
  | .bool => "bool"
  | .int => "int"
  | .float => "float"
  | .text => "str"
  | .bytes => "bytes"
  | .list => "list"
  | .tuple => "tuple"
  | .set => "set"
  | .frozenset => "frozenset"
  | .dict => "dict"
  | .plain => "object"
  | .handle => "pynative.OpaquePointer"
  | .listWalk => "list_iterator"
  | .tupleWalk => "tuple_iterator"
  | .asciiTextWalk => "str_ascii_iterator"
  | .textWalk => "str_iterator"
  | .bytesWalk => "bytes_iterator"
  | .setWalk => "set_iterator"
  | .dictWalk => "dict_keyiterator"
  | .dictValueWalk => "dict_valueiterator"
  | .dictItemWalk => "dict_itemiterator"
  | .reverseListWalk => "list_reverseiterator"
  | .indexWalk => "iterator"
  | .generator => "generator"
  | .dictKeys => "dict_keys"
  | .dictValues => "dict_values"
  | .dictItems => "dict_items"
  | .builtinMethod => "builtin_function_or_method"
  | .operatorMethod => "method-wrapper"
  | .scriptedMethod => "method"
  | .notImplemented => "NotImplementedType"
  | .type => "type"

def isWalk : Kind → Bool
  | .listWalk | .tupleWalk | .asciiTextWalk | .textWalk | .bytesWalk | .setWalk | .dictWalk
  | .dictValueWalk | .dictItemWalk | .reverseListWalk | .indexWalk | .generator => true
  | _ => false

def isSetLike : Kind → Bool
  | .set | .frozenset | .dictKeys | .dictItems => true
  | _ => false

end Kind

/-- What an attribute of a built-in type is. -/
inductive Member where
  /-- A method that is called by its name. -/
  | method
  /-- An operation of the language, under the name of the method behind it. -/
  | operation
  /-- A value. -/
  | value
  deriving DecidableEq, Repr

namespace Kind

def commonMethods : List String :=
    ["__dir__", "__format__", "__getstate__", "__init_subclass__", "__new__", "__reduce__",
     "__reduce_ex__", "__sizeof__", "__subclasshook__"]

def commonOperations : List String :=
    ["__delattr__", "__eq__", "__ge__", "__getattribute__", "__gt__", "__hash__", "__init__",
     "__le__", "__lt__", "__ne__", "__repr__", "__setattr__", "__str__"]

def integerOperations : List String :=
    ["__abs__", "__add__", "__and__", "__bool__", "__divmod__", "__float__", "__floordiv__",
     "__index__", "__int__", "__invert__", "__lshift__", "__mod__", "__mul__", "__neg__", "__or__",
     "__pos__", "__pow__", "__radd__", "__rand__", "__rdivmod__", "__rfloordiv__", "__rlshift__",
     "__rmod__", "__rmul__", "__ror__", "__rpow__", "__rrshift__", "__rshift__", "__rsub__",
     "__rtruediv__", "__rxor__", "__sub__", "__truediv__", "__xor__"]

def floatOperations : List String :=
    ["__abs__", "__add__", "__bool__", "__divmod__", "__float__", "__floordiv__", "__int__",
     "__mod__", "__mul__", "__neg__", "__pos__", "__pow__", "__radd__", "__rdivmod__",
     "__rfloordiv__", "__rmod__", "__rmul__", "__rpow__", "__rsub__", "__rtruediv__", "__sub__",
     "__truediv__"]

def setOperations : List String :=
    ["__and__", "__iter__", "__len__", "__or__", "__rand__", "__ror__", "__rsub__", "__rxor__",
     "__sub__", "__xor__"]

def operations : Kind → List String
  | .nil | .notImplemented => ["__bool__"]
  | .bool | .int => integerOperations
  | .float => floatOperations
  | .text | .bytes =>
    ["__add__", "__contains__", "__getitem__", "__iter__", "__len__", "__mod__", "__mul__",
     "__rmod__", "__rmul__"]
  | .list =>
    ["__add__", "__contains__", "__delitem__", "__iadd__", "__imul__", "__iter__", "__len__",
     "__mul__", "__rmul__", "__setitem__"]
  | .tuple =>
    ["__add__", "__contains__", "__getitem__", "__iter__", "__len__", "__mul__", "__rmul__"]
  | .set => ["__iand__", "__ior__", "__isub__", "__ixor__"] ++ setOperations
  | .frozenset => setOperations
  | .dictKeys | .dictItems => "__contains__" :: setOperations
  | .dictValues => ["__iter__", "__len__"]
  | .dict =>
    ["__delitem__", "__ior__", "__iter__", "__len__", "__or__", "__ror__", "__setitem__"]
  | .generator => ["__del__", "__iter__", "__next__"]
  | .builtinMethod | .operatorMethod | .scriptedMethod | .type => ["__call__"]
  | kind => if kind.isWalk then ["__iter__", "__next__"] else []

def integerMethods : List String :=
    ["__ceil__", "__floor__", "__getnewargs__", "__round__", "__trunc__", "as_integer_ratio",
     "bit_count", "bit_length", "conjugate", "from_bytes", "to_bytes"]

def floatMethods : List String :=
    ["__ceil__", "__floor__", "__getformat__", "__getnewargs__", "__round__", "__trunc__",
     "as_integer_ratio", "conjugate", "fromhex", "hex", "is_integer"]

def stringMethods : List String :=
    ["__getnewargs__", "capitalize", "center", "count", "endswith", "expandtabs", "find", "index",
     "isalnum", "isalpha", "isascii", "isdigit", "islower", "isspace", "istitle", "isupper",
     "join", "ljust", "lower", "lstrip", "maketrans", "partition", "removeprefix", "removesuffix",
     "replace", "rfind", "rindex", "rjust", "rpartition", "rsplit", "rstrip", "split",
     "splitlines", "startswith", "strip", "swapcase", "title", "translate", "upper", "zfill"]

def frozenSetMethods : List String :=
    ["__class_getitem__", "__contains__", "copy", "difference", "intersection", "isdisjoint",
     "issubset", "issuperset", "symmetric_difference", "union"]

def methods : Kind → List String
  | .bool | .int => integerMethods
  | .float => floatMethods
  | .text =>
    ["casefold", "encode", "format", "format_map", "isdecimal", "isidentifier", "isnumeric",
     "isprintable"] ++ stringMethods
  | .bytes =>
    ["__bytes__", "decode", "fromhex", "hex"] ++ stringMethods
  | .list =>
    ["__class_getitem__", "__getitem__", "__reversed__", "append", "clear", "copy", "count",
     "extend", "index", "insert", "pop", "remove", "reverse", "sort"]
  | .tuple => ["__class_getitem__", "__getnewargs__", "count", "index"]
  | .set =>
    ["add", "clear", "difference_update", "discard", "intersection_update", "pop", "remove",
     "symmetric_difference_update", "update"] ++ frozenSetMethods
  | .frozenset => frozenSetMethods
  | .dict =>
    ["__class_getitem__", "__contains__", "__getitem__", "__reversed__", "clear", "copy",
     "fromkeys", "get", "items", "keys", "pop", "popitem", "setdefault", "update", "values"]
  | .dictKeys | .dictItems => ["__reversed__", "isdisjoint"]
  | .dictValues => ["__reversed__"]
  | .generator => ["close", "send", "throw"]
  | .setWalk | .dictWalk | .dictValueWalk | .dictItemWalk => ["__length_hint__"]
  | kind => if kind.isWalk then ["__length_hint__", "__setstate__"] else []

def values : Kind → List String
  | .bool | .int => ["denominator", "imag", "numerator", "real"]
  | .float => ["imag", "real"]
  | .handle => ["__pointer__", "type_id", "type_name"]
  | _ => []

def isUnhashable : Kind → Bool
  | .list | .set | .dict | .dictKeys | .dictItems => true
  | _ => false

def member? (kind : Kind) (name : String) : Option Member :=
  if name = "__hash__" && kind.isUnhashable then some .value
  else if name = "__class__" || kind.values.contains name then some .value
  else if kind.methods.contains name || commonMethods.contains name then some .method
  else if kind.operations.contains name || commonOperations.contains name then some .operation
  else none

/-- The kinds that classes can be derived from, by their names. -/
def ofBaseName? : String → Option Kind
  | "object" => some .plain
  | "int" => some .int
  | "float" => some .float
  | "str" => some .text
  | "bytes" => some .bytes
  | "list" => some .list
  | "tuple" => some .tuple
  | "set" => some .set
  | "frozenset" => some .frozenset
  | "dict" => some .dict
  | _ => none

end Kind

end HeapBridge.Host
