import SerializerContract.ValueType.Basic

/-!
# Type names

Messages name types in the compressed form that linkers know them by. A name is a tree. Writing it
out replaces every part that was completed before by a back reference, and numbers the parts in the
order of their completion.
-/

namespace SerializerContract

mutual
/-- The name of a type, as a tree. -/
inductive TypeName where
  /-- A built-in type, known by a short code. -/
  | builtin (code : String)
  | standardScope
  | scope (ident : String)
  | inside (outer : TypeName) (ident : String)
  | standard (ident : String)
  /-- The standard allocator, which has a code of its own. -/
  | allocator
  | generic (head : TypeName) (args : TypeArgs)
  /-- Several arguments that stand in the place of one. -/
  | pack (args : TypeArgs)
  | literal (value : Nat)
  | const (of : TypeName)
  | pointer (pointee : TypeName)

inductive TypeArgs where
  | nil
  | cons (arg : TypeName) (rest : TypeArgs)
end

namespace TypeName

/-- An identifier is introduced by its length. -/
def identText (ident : String) : String := ident.length.repr ++ ident

/-- Whether a name is made of several scopes, and so is enclosed when it stands as a type. -/
def isNested : TypeName → Bool
  | .inside .. => true
  | .generic head _ => head.isNested
  | _ => false

/-- The code of the back reference to the part with a given index. -/
def reference : Nat → String
  | 0 => "S_"
  | n + 1 => "S" ++ String.ofList ((Nat.toDigits 36 n).map Char.toUpper) ++ "_"

/-- The parts completed so far, each known by its full text. -/
abbrev Parts := List String

/-- Refers back to a part that was completed before; otherwise writes it and notes its completion. -/
def shared (full : String) (write : Parts → String × Parts) (parts : Parts) : String × Parts :=
  match parts.idxOf? full with
  | some i => (reference i, parts)
  | none =>
    let (text, parts) := write parts
    (text, parts ++ [full])

/-- Names made of several scopes are enclosed where they stand as a type of their own. -/
def enclose (whole : Bool) (text : String) : String :=
  if whole then "N" ++ text ++ "E" else text

end TypeName

mutual
/-- The full text of a name, without any back reference. -/
def TypeName.full : TypeName → String
  | .builtin code => code
  | .standardScope => "St"
  | .scope ident => TypeName.identText ident
  | .inside outer ident => outer.full ++ TypeName.identText ident
  | .standard ident => "St" ++ TypeName.identText ident
  | .allocator => "Sa"
  | .generic head args => head.full ++ "I" ++ args.full ++ "E"
  | .pack args => "J" ++ args.full ++ "E"
  | .literal value => "Lm" ++ value.repr ++ "E"
  | .const t => "K" ++ t.full
  | .pointer t => "P" ++ t.full

def TypeArgs.full : TypeArgs → String
  | .nil => ""
  | .cons arg rest => arg.full ++ rest.full
end

mutual
/-- Writes a name after the given parts; `whole` when it stands as a type of its own and not at the
head of a longer name. -/
def TypeName.write : TypeName → (whole : Bool) → TypeName.Parts → String × TypeName.Parts
  | .builtin code, _, parts => (code, parts)
  | .standardScope, _, parts => ("St", parts)
  | .scope ident, _, parts =>
    TypeName.shared (TypeName.identText ident) (fun parts => (TypeName.identText ident, parts)) parts
  | .inside outer ident, whole, parts =>
    TypeName.shared (outer.full ++ TypeName.identText ident) (fun parts =>
      let (text, parts) := outer.write false parts
      (TypeName.enclose whole (text ++ TypeName.identText ident), parts)) parts
  | .standard ident, _, parts =>
    TypeName.shared ("St" ++ TypeName.identText ident) (fun parts =>
      ("St" ++ TypeName.identText ident, parts)) parts
  | .allocator, _, parts => ("Sa", parts)
  | .generic head args, whole, parts =>
    TypeName.shared (head.full ++ "I" ++ args.full ++ "E") (fun parts =>
      let (headText, parts) := head.write false parts
      let (argsText, parts) := args.write parts
      (TypeName.enclose (whole && head.isNested) (headText ++ "I" ++ argsText ++ "E"), parts)) parts
  | .pack args, _, parts =>
    let (text, parts) := args.write parts
    ("J" ++ text ++ "E", parts)
  | .literal value, _, parts => ("Lm" ++ value.repr ++ "E", parts)
  | .const t, _, parts =>
    TypeName.shared ("K" ++ t.full) (fun parts =>
      let (text, parts) := t.write true parts
      ("K" ++ text, parts)) parts
  | .pointer t, _, parts =>
    TypeName.shared ("P" ++ t.full) (fun parts =>
      let (text, parts) := t.write true parts
      ("P" ++ text, parts)) parts

def TypeArgs.write : TypeArgs → TypeName.Parts → String × TypeName.Parts
  | .nil, parts => ("", parts)
  | .cons arg rest, parts =>
    let (first, parts) := arg.write true parts
    let (others, parts) := rest.write parts
    (first ++ others, parts)
end

namespace TypeName

def text (name : TypeName) : String := (name.write true []).1

def args : List TypeName → TypeArgs
  | [] => .nil
  | name :: names => .cons name (args names)

def standardGeneric (ident : String) (names : List TypeName) : TypeName :=
  .generic (.standard ident) (args names)

def char : TypeName := .builtin "c"

/-- The scope that the newer standard containers live in. -/
def revisedScope : TypeName := .inside .standardScope "__cxx11"

def charTraits : TypeName := standardGeneric "char_traits" [char]

def allocatorOf (name : TypeName) : TypeName := .generic .allocator (args [name])

def string : TypeName :=
  .generic (.inside revisedScope "basic_string") (args [char, charTraits, allocatorOf char])

def stringView : TypeName := standardGeneric "basic_string_view" [char, charTraits]

def ofDeclared (name : DeclaredName) : TypeName := .inside (.scope name.scope) name.ident

def ofScalar : Scalar → TypeName
  | .bool => .builtin "b"
  | .char => char
  | .wideChar .native => .builtin "w"
  | .wideChar .utf16 => .builtin "Ds"
  | .wideChar .utf32 => .builtin "Di"
  | .int true .w8 => .builtin "a"
  | .int false .w8 => .builtin "h"
  | .int true .w16 => .builtin "s"
  | .int false .w16 => .builtin "t"
  | .int true .w32 => .builtin "i"
  | .int false .w32 => .builtin "j"
  | .int true .w64 => .builtin "l"
  | .int false .w64 => .builtin "m"
  | .float32 => .builtin "f"
  | .float64 => .builtin "d"
  | .float128 => .builtin "e"

def ofText : TextKind → TypeName
  | .owned => string
  | .view => stringView
  | .zeroTerminated => .pointer (.const char)

def ofPointer : PointerKind → TypeName → TypeName
  | .raw, name => .pointer (.const name)
  | .shared, name => standardGeneric "shared_ptr" [name]
  | .unique, name => standardGeneric "unique_ptr" [name, standardGeneric "default_delete" [name]]

def ofSequence : SequenceKind → TypeName → TypeName
  | .vector, name => standardGeneric "vector" [name, allocatorOf name]
  | .deque, name => standardGeneric "deque" [name, allocatorOf name]
  | .list, name => .generic (.inside revisedScope "list") (args [name, allocatorOf name])

/-- The hash that a key type is found by: a declared tag brings its own. -/
def hashOf : ValueType → TypeName → TypeName
  | .record name .tag, _ => ofDeclared ⟨name.scope, name.ident ++ "Hash"⟩
  | _, name => standardGeneric "hash" [name]

def lookupArgs (lookup : Lookup) (key : ValueType) (name : TypeName) : List TypeName :=
  match lookup with
  | .ordered => [standardGeneric "less" [name]]
  | .hashed => [hashOf key name, standardGeneric "equal_to" [name]]

def lookupIdent (lookup : Lookup) (multi : Bool) (ident : String) : String :=
  let ident := if multi then "multi" ++ ident else ident
  match lookup with
  | .ordered => ident
  | .hashed => "unordered_" ++ ident

end TypeName

mutual
def ValueType.typeName : ValueType → TypeName
  | .scalar s => .ofScalar s
  | .enumeration name _ => .ofDeclared name
  | .text kind => .ofText kind
  | .record name _ => .ofDeclared name
  | .optional t => .standardGeneric "optional" [t.typeName]
  | .pointer kind t => .ofPointer kind t.typeName
  | .pair a b => .standardGeneric "pair" [a.typeName, b.typeName]
  | .entry k v => .standardGeneric "pair" [.const k.typeName, v.typeName]
  | .tuple t rest =>
    .generic (.standard "tuple") (.cons (.pack (.cons t.typeName rest.typeNames)) .nil)
  | .array n t => .standardGeneric "array" [t.typeName, .literal n]
  | .sequence kind t => .ofSequence kind t.typeName
  | .set lookup multi t =>
    .standardGeneric (TypeName.lookupIdent lookup multi "set")
      (t.typeName :: TypeName.lookupArgs lookup t t.typeName ++ [TypeName.allocatorOf t.typeName])
  | .map lookup multi k v =>
    .standardGeneric (TypeName.lookupIdent lookup multi "map")
      (k.typeName :: v.typeName :: TypeName.lookupArgs lookup k k.typeName ++
        [TypeName.allocatorOf (.standardGeneric "pair" [.const k.typeName, v.typeName])])

def FieldTypes.typeNames : FieldTypes → TypeArgs
  | .nil => .nil
  | .cons t rest => .cons t.typeName rest.typeNames
end

/-- The text by which messages name a type. -/
def ValueType.name (t : ValueType) : String := t.typeName.text

end SerializerContract
