import SerializerContract.ValueType.Basic

/-!
# Type expressions

Types as they are written: a name, or a generic name with arguments in angle brackets.
-/

namespace SerializerContract

namespace ValueType

/-- A record type that users declare. -/
abbrev userRecord (ident : String) (r : Record) : ValueType := .record ⟨"drv", ident⟩ r

abbrev userEnumeration (ident : String) (underlying : Scalar) : ValueType :=
  .enumeration ⟨"drv", ident⟩ underlying

/-- The types that are known by a name alone. -/
def table : List (String × ValueType) := [
  ("bool", .bool), ("char", .scalar .char),
  ("i8", .scalar (.int true .w8)), ("u8", .scalar .uint8),
  ("i16", .scalar (.int true .w16)), ("u16", .scalar (.int false .w16)),
  ("i32", .int32), ("u32", .uint32), ("i64", .int64), ("u64", .scalar (.int false .w64)),
  ("f32", .scalar .float32), ("f64", .float64), ("long double", .scalar .float128),
  ("wchar", .scalar (.wideChar .native)), ("char16", .scalar (.wideChar .utf16)),
  ("char32", .scalar (.wideChar .utf32)),
  ("wstring", .sequence .vector (.scalar (.wideChar .native))),
  ("u16string", .sequence .vector (.scalar (.wideChar .utf16))),
  ("string", .string), ("string_view", .text .view),
  ("cstr", .text .zeroTerminated), ("char*", .text .zeroTerminated),
  ("E8", userEnumeration "E8" (.int true .w8)), ("EU8", userEnumeration "EU8" (.int false .w8)),
  ("E16", userEnumeration "E16" (.int false .w16)), ("E32", userEnumeration "E32" (.int true .w32)),
  ("E64", userEnumeration "E64" (.int false .w64)), ("EChar", userEnumeration "EChar" .char),
  ("Point", .point), ("Shape", .shapePointer), ("Circle", .circle),
  ("Label", userRecord "Label" .label), ("Tag", userRecord "Tag" .tag),
  ("Opaque", userRecord "Opaque" .sealed)]

/-- An argument of a generic name: its text, and the type it denotes. -/
structure Argument where
  text : String
  type : Option ValueType

def fieldTypes : List Argument → Option FieldTypes
  | [] => some .nil
  | argument :: rest => do return .cons (← argument.type) (← fieldTypes rest)

def ofOne (head : String) (a : ValueType) : Option ValueType :=
  match head with
  | "optional" => some (.optional a)
  | "shared_ptr" => some (.pointer .shared a)
  | "unique_ptr" => some (.pointer .unique a)
  | "ptr" =>
    match a with
    | .pointer .shared (.record name .shape) => some (.pointer .raw (.record name .shape))
    | a => some (.pointer .raw a)
  | "vector" => some (.sequence .vector a)
  | "list" => some (.sequence .list a)
  | "deque" => some (.sequence .deque a)
  | "set" => some (.set .ordered false a)
  | "multiset" => some (.set .ordered true a)
  | "unordered_set" => some (.set .hashed false a)
  | "unordered_multiset" => some (.set .hashed true a)
  | _ => none

def ofTwo (head : String) (a b : ValueType) : Option ValueType :=
  match head with
  | "pair" => some (.pair a b)
  | "map" => some (.map .ordered false a b)
  | "multimap" => some (.map .ordered true a b)
  | "unordered_map" => some (.map .hashed false a b)
  | "unordered_multimap" => some (.map .hashed true a b)
  | _ => none

def ofGeneric (head : String) (arguments : List Argument) : Option ValueType :=
  match head, arguments with
  | "tuple", first :: rest => do return .tuple (← first.type) (← fieldTypes rest)
  | "array", [a, n] => do return .array (← n.text.toNat?) (← a.type)
  | head, [a] => do ofOne head (← a.type)
  | head, [a, b] => do ofTwo head (← a.type) (← b.type)
  | _, _ => none

def isBracket (c : Char) : Bool := c == '<' || c == ',' || c == '>'

mutual
def readArgument : (fuel : Nat) → List Char → Option (Argument × List Char)
  | 0, _ => none
  | fuel + 1, cs =>
    let head := String.ofList (cs.takeWhile (!isBracket ·))
    match cs.dropWhile (!isBracket ·) with
    | '<' :: rest => do
      let (arguments, rest) ← readArguments fuel rest
      return (⟨head, ofGeneric head arguments⟩, rest)
    | rest => some (⟨head, table.lookup head⟩, rest)

def readArguments : (fuel : Nat) → List Char → Option (List Argument × List Char)
  | 0, _ => none
  | fuel + 1, cs => do
    let (first, rest) ← readArgument fuel cs
    match rest with
    | ',' :: rest =>
      let (others, rest) ← readArguments fuel rest
      return (first :: others, rest)
    | '>' :: rest => return ([first], rest)
    | _ => none
end

/-- Leaves out what qualifies a type without changing its values. -/
def unqualified (cs : List Char) : List Char :=
  let qualifier := ['c', 'o', 'n', 's', 't', ' ']
  let cs := if qualifier.isPrefixOf cs then cs.drop qualifier.length else cs
  if cs.getLast? == some '&' then cs.dropLast else cs

/-- The type that an expression denotes. -/
def ofExpression (text : String) : Option ValueType :=
  let cs := unqualified text.toList
  match readArgument (2 * cs.length + 2) cs with
  | some (argument, []) => argument.type
  | _ => none

end ValueType

end SerializerContract
