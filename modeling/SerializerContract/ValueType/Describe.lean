import SerializerContract.Decimal
import SerializerContract.ValueType.Name

/-!
# Descriptions

The one-line text by which messages show a value. Every value has one; the value of a type that
offers nothing to show is shown by its type.
-/

namespace SerializerContract

/-- The text of a number given by double precision bits. -/
def doubleText (bits : BitVec 64) : String := Decimal.Style.message.text .double bits.toNat

def Scalar.describe (s : Scalar) (v : s.Val) : String :=
  match s with
  | .bool => if v.toNat = 0 then "false" else "true"
  | .char => Bytes.toText [UInt8.ofNat v.toNat]
  | s =>
    match s.floatFormat with
    | some format => Decimal.Style.message.text format (s.floatBits v)
    | none => (s.toInt v).repr

def describeShape (kind : Record) (extent : BitVec 64) : String :=
  match kind with
  | .square => "Square(" ++ doubleText extent ++ ")"
  | _ => "Circle(" ++ doubleText extent ++ ")"

/-- The value of a type that offers nothing to show. -/
def placeholder (name : DeclaredName) : String :=
  "<" ++ (TypeName.ofDeclared name).text ++ " at ADDR>"

def Record.describe (name : DeclaredName) : (r : Record) → r.Val → String
  | .point, v => "Point(" ++ doubleText v.x ++ ", " ++ doubleText v.y ++ ")"
  | .shape, v => describeShape v.kind v.extent
  | .circle, v => describeShape .circle v
  | .square, v => describeShape .square v
  | .label, v => Bytes.toText v
  | .tag, _ => placeholder name
  | .sealed, _ => placeholder name

/-- Adds the text of one more element; a separator is written when there is text before it. -/
def addElement (text element : String) : String :=
  if text.isEmpty then element else text ++ ", " ++ element

def joinElements (elements : List String) : String := elements.foldl addElement ""

mutual
/-- The one-line text of a value. -/
def ValueType.describe : (t : ValueType) → t.Val → String
  | .scalar s, v => s.describe v
  | .enumeration _ s, v => s.describe v
  | .text kind, v => "\"" ++ Bytes.toText (kind.bytes v) ++ "\""
  | .record name r, v => r.describe name v
  | .optional _, none => "null"
  | .optional t, some v => t.describe v
  | .pointer _ _, none => "null"
  | .pointer _ t, some v => t.describe v.value
  | .pair a b, v => "(" ++ joinElements [a.describe v.1, b.describe v.2] ++ ")"
  | .entry k t, v => "(" ++ joinElements [k.describe v.1, t.describe v.2] ++ ")"
  | .tuple t rest, v => "(" ++ joinElements (t.describe v.1 :: rest.describe v.2) ++ ")"
  | .array n t, v =>
    if n = 0 then "[]" else "(" ++ joinElements (v.toList.map t.describe) ++ ")"
  | .sequence _ t, v => "[" ++ joinElements (v.map t.describe) ++ "]"
  | .set _ _ t, v => "[" ++ joinElements (v.map t.describe) ++ "]"
  | .map _ _ k t, v =>
    "[" ++ joinElements (v.map fun x => "(" ++ joinElements [k.describe x.1, t.describe x.2] ++ ")") ++ "]"

def FieldTypes.describe : (ts : FieldTypes) → ts.Val → List String
  | .nil, _ => []
  | .cons t rest, v => t.describe v.1 :: rest.describe v.2
end

end SerializerContract
