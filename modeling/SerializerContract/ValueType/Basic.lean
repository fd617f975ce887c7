import SerializerContract.Bytes
import SerializerContract.Ieee
import SerializerContract.Row

/-!
# Value types and their values

The types of value that serializers, comparisons and descriptions are about, closed under nesting,
and for each of them the Lean type of its values. Integers and floating point numbers are bit
patterns of their exact width; a value that has an address of its own, because something compares it
by address, carries a place.
-/

namespace SerializerContract

inductive WideChar where
  | native
  | utf16
  | utf32
deriving DecidableEq, Repr

/-- Types of single numbers, characters and truth values. -/
inductive Scalar where
  | bool
  | char
  | wideChar (kind : WideChar)
  | int (signed : Bool) (width : Width)
  | float32
  | float64
  /-- An extended floating point number: 80 bits, and padding up to 128. -/
  | float128
deriving DecidableEq, Repr

namespace Scalar

def size : Scalar → Nat
  | .bool => 1
  | .char => 1
  | .wideChar .native => 4
  | .wideChar .utf16 => 2
  | .wideChar .utf32 => 4
  | .int _ width => width.bytes
  | .float32 => 4
  | .float64 => 8
  | .float128 => 16

theorem size_pos (s : Scalar) : 0 < s.size := by
  cases s with
  | wideChar kind => cases kind <;> decide
  | int _ width => cases width <;> simp [size, Width.bytes]
  | _ => decide

/-- A scalar is its bits. A truth value is a byte, true unless it is zero. -/
abbrev Val (s : Scalar) : Type := BitVec (8 * s.size)

def signed : Scalar → Bool
  | .char => true
  | .wideChar .native => true
  | .int signed _ => signed
  | _ => false

def toInt (s : Scalar) (v : s.Val) : Int :=
  if s.signed then v.toInt else v.toNat

def floatFormat : Scalar → Option FloatFormat
  | .float32 => some .single
  | .float64 => some .double
  | .float128 => some .extended
  | _ => none

/-- The bits of a floating point number in the format of its type. -/
def floatBits (s : Scalar) (v : s.Val) : Nat :=
  match s with
  | .float128 => FloatFormat.ofExtended v.toNat
  | _ => v.toNat

/-- Equality of numbers: of the bits, but numeric for floating point. -/
def same (s : Scalar) (a b : s.Val) : Bool :=
  match s.floatFormat with
  | some format => format.same (s.floatBits a) (s.floatBits b)
  | none => a == b

def less (s : Scalar) (a b : s.Val) : Bool :=
  match s.floatFormat with
  | some format => format.less (s.floatBits a) (s.floatBits b)
  | none => decide (s.toInt a < s.toInt b)

def isNaN (s : Scalar) (v : s.Val) : Bool :=
  match s.floatFormat with
  | some format => format.isNaN (s.floatBits v)
  | none => false

abbrev int32 : Scalar := .int true .w32
abbrev int64 : Scalar := .int true .w64
abbrev uint8 : Scalar := .int false .w8
abbrev uint32 : Scalar := .int false .w32

end Scalar

/-- The name of a type that was declared in some scope. -/
structure DeclaredName where
  scope : String
  ident : String
deriving DecidableEq, Repr

inductive TextKind where
  | owned
  | view
  /-- Ends at its first zero byte, and has an address of its own. -/
  | zeroTerminated
deriving DecidableEq, Repr

/-- What a declared record type holds and can do. -/
inductive Record where
  /-- Two coordinates; printable, no equality of its own. -/
  | point
  /-- The base of all shapes; printable, no equality of its own. -/
  | shape
  | circle
  | square
  /-- A text; compared and printed as such. -/
  | label
  /-- A number; equal only to itself, the very same object. -/
  | tag
  /-- A number; neither comparable nor printable. -/
  | sealed
deriving DecidableEq, Repr

inductive PointerKind where
  | raw
  | shared
  | unique
deriving DecidableEq, Repr

inductive SequenceKind where
  | vector
  | list
  | deque
deriving DecidableEq, Repr

/-- How an associative container finds its elements. -/
inductive Lookup where
  | ordered
  | hashed
deriving DecidableEq, Repr

mutual
inductive ValueType where
  | scalar (s : Scalar)
  | enumeration (name : DeclaredName) (underlying : Scalar)
  | text (kind : TextKind)
  | record (name : DeclaredName) (r : Record)
  | optional (t : ValueType)
  | pointer (kind : PointerKind) (t : ValueType)
  | pair (a b : ValueType)
  /-- An element of a map: a pair whose first part cannot be assigned. -/
  | entry (k v : ValueType)
  | tuple (t : ValueType) (rest : FieldTypes)
  | array (length : Nat) (t : ValueType)
  | sequence (kind : SequenceKind) (t : ValueType)
  | set (lookup : Lookup) (multi : Bool) (t : ValueType)
  | map (lookup : Lookup) (multi : Bool) (k v : ValueType)
deriving DecidableEq, Repr

/-- The types of the further parts of a tuple. -/
inductive FieldTypes where
  | nil
  | cons (t : ValueType) (rest : FieldTypes)
deriving DecidableEq, Repr
end

/-- A value together with the address it lives at. -/
structure Placed (α : Type) where
  place : Nat
  value : α
deriving DecidableEq, Repr

/-- A point; the coordinates are double precision bits. -/
structure Point where
  x : BitVec 64
  y : BitVec 64
deriving DecidableEq, Repr

/-- A shape seen through its base: its own type, and its extent as double precision bits. -/
structure Shape where
  name : DeclaredName
  kind : Record
  extent : BitVec 64
deriving DecidableEq, Repr

def Record.Val : Record → Type
  | .point => Point
  | .shape => Shape
  | .circle => BitVec 64
  | .square => BitVec 64
  | .label => Bytes
  | .tag => Placed (BitVec 32)
  | .sealed => BitVec 32

def TextKind.Val : TextKind → Type
  | .zeroTerminated => Placed Bytes
  | _ => Bytes

mutual
/-- The values of a type. Containers are lists in iteration order; a pointer that is not null holds
what it points to, at its place. -/
def ValueType.Val : ValueType → Type
  | .scalar s => s.Val
  | .enumeration _ s => s.Val
  | .text kind => kind.Val
  | .record _ r => r.Val
  | .optional t => Option t.Val
  | .pointer _ t => Option (Placed t.Val)
  | .pair a b => a.Val × b.Val
  | .entry k v => k.Val × v.Val
  | .tuple t rest => t.Val × rest.Val
  | .array n t => Row t.Val n
  | .sequence _ t => List t.Val
  | .set _ _ t => List t.Val
  | .map _ _ k v => List (k.Val × v.Val)

def FieldTypes.Val : FieldTypes → Type
  | .nil => Unit
  | .cons t rest => t.Val × rest.Val
end

def Record.blank : (r : Record) → r.Val
  | .point => ⟨0, 0⟩
  | .shape => ⟨⟨"", ""⟩, .shape, 0⟩
  | .circle => (0 : BitVec 64)
  | .square => (0 : BitVec 64)
  | .label => []
  | .tag => ⟨0, 0⟩
  | .sealed => (0 : BitVec 32)

def TextKind.blank : (kind : TextKind) → kind.Val
  | .zeroTerminated => ⟨0, []⟩
  | .owned => []
  | .view => []

def TextKind.bytes : (kind : TextKind) → kind.Val → Bytes
  | .zeroTerminated, v => v.value
  | .owned, v => v
  | .view, v => v

mutual
/-- The value a variable of the type starts with: zero, empty or null. -/
def ValueType.blank : (t : ValueType) → t.Val
  | .scalar s => (0 : BitVec (8 * s.size))
  | .enumeration _ s => (0 : BitVec (8 * s.size))
  | .text kind => kind.blank
  | .record _ r => r.blank
  | .optional _ => none
  | .pointer _ _ => none
  | .pair a b => (a.blank, b.blank)
  | .entry k v => (k.blank, v.blank)
  | .tuple t rest => (t.blank, rest.blank)
  | .array n t => Row.replicate t.blank n
  | .sequence _ _ => []
  | .set _ _ _ => []
  | .map _ _ _ _ => []

def FieldTypes.blank : (ts : FieldTypes) → ts.Val
  | .nil => ()
  | .cons t rest => (t.blank, rest.blank)
end

namespace ValueType

abbrev bool : ValueType := .scalar .bool
abbrev int32 : ValueType := .scalar .int32
abbrev int64 : ValueType := .scalar .int64
abbrev uint32 : ValueType := .scalar .uint32
abbrev float64 : ValueType := .scalar .float64
abbrev string : ValueType := .text .owned
abbrev int64s : ValueType := .sequence .vector .int64

/-- The type of a declared record of the library itself. -/
abbrev sample (ident : String) (r : Record) : ValueType := .record ⟨"Samples", ident⟩ r

abbrev point : ValueType := sample "Point" .point
abbrev shape : ValueType := sample "Shape" .shape
abbrev circle : ValueType := sample "Circle" .circle

/-- Shapes are handed around by shared pointers. -/
abbrev shapePointer : ValueType := .pointer .shared shape

end ValueType

end SerializerContract
