/-!
Type encodings of pointers. A pointer to a named struct or union is written as a caret and the
aggregate in its brackets, with letters in front that qualify a method argument; the name is the
identifier under which a pointer type is wrapped. Pointers to anything else have no identifier.
-/
namespace HeapBridge.TypeEncoding

/-- The letters that may qualify a method argument. -/
def isQualifier (c : Char) : Bool :=
  c = 'r' || c = 'n' || c = 'N' || c = 'o' || c = 'O' || c = 'R' || c = 'V'

/-- The bracket that closes a struct or a union. -/
def closing? (c : Char) : Option Char :=
  if c = '\x7b' then some '\x7d' else if c = '(' then some ')' else none

/-- The name at the head of an aggregate's body: what stands before the first equals sign or
closing bracket. A body without either has none, and neither has an anonymous aggregate. -/
def name? (close : Char) (body : List Char) : Option (List Char) :=
  let name := body.takeWhile fun c => c ≠ '=' && c ≠ close
  if name.length = body.length || name = [] || name = ['?'] then none else some name

/-- The name of the aggregate that an encoding points to, once its qualifiers are gone. -/
def pointee? : List Char → Option (List Char)
  | '^' :: bracket :: body => (closing? bracket).bind (name? · body)
  | _ => none

/-- An encoding without its leading qualifiers. -/
def skipQualifiers (signature : String) : String :=
  String.ofList (signature.toList.dropWhile isQualifier)

/-- The identifier of a pointer encoding, if it points to a named struct or union. -/
def identifier? (signature : String) : Option String :=
  (pointee? (signature.toList.dropWhile isQualifier)).map String.ofList

/-- The encoding of a pointer to the opaque struct of that name. -/
def ofIdentifier (identifier : String) : String :=
  String.ofList ('^' :: '\x7b' :: identifier.toList ++ ['=', '\x7d'])

/-- The display name of a handle type: its identifier without leading underscores, and `Ref`. -/
def handleName (identifier : String) : String :=
  String.ofList (identifier.toList.dropWhile (· = '_') ++ ['R', 'e', 'f'])

end HeapBridge.TypeEncoding
