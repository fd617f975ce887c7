import SerializerContract.Checker
import SerializerContract.ValueType.Expression

/-!
# Ready-made comparators

Comparators that are known by name, for fixtures that are put together from descriptions.
-/

namespace SerializerContract

namespace Comparator

variable {t : ValueType}

/-- A comparator that cannot fail. -/
def ofBool (equal : t.Val → t.Val → Bool) : Comparator t := fun a b => .ok (equal a b)

def always : Comparator t := ofBool fun _ _ => true

def never : Comparator t := ofBool fun _ _ => false

def failing : Comparator t := fun _ _ => .error (.ofKind .runtime "comparator failed")

/-- Compares what a function makes of the values. -/
def on {β : Type} [BEq β] (f : t.Val → β) : Comparator t := ofBool fun a b => f a == f b

/-- Numeric equality of two double precision numbers. -/
def doubleSame (a b : BitVec 64) : Bool := Scalar.float64.same a b

end Comparator

namespace Registration

open Comparator

def table : List (String × Registration) := [
  ("i32:mod10", ⟨.int32, Comparator.on fun v => (Scalar.int32.toInt v).tmod 10⟩),
  ("i32:always", ⟨.int32, always⟩),
  ("i32:never", ⟨.int32, never⟩),
  ("i32:le", ⟨.int32, ofBool fun a b => decide (Scalar.int32.toInt a ≤ Scalar.int32.toInt b)⟩),
  ("i32:throw", ⟨.int32, failing⟩),
  ("f64:exact", ⟨.float64, ofBool doubleSame⟩),
  ("bool:never", ⟨.bool, never⟩),
  ("string:length", ⟨.string, Comparator.on fun v => List.length (α := UInt8) v⟩),
  ("point:xy", ⟨.point, ofBool fun a b => doubleSame a.x b.x && doubleSame a.y b.y⟩),
  ("point:x", ⟨.point, ofBool fun a b => doubleSame a.x b.x⟩),
  ("opaque:v", ⟨.userRecord "Opaque" .sealed, Comparator.on fun v => BitVec.toNat (w := 32) v⟩),
  ("tag:value", ⟨.userRecord "Tag" .tag, Comparator.on fun v => v.value⟩),
  ("circle:radius", ⟨.circle, ofBool doubleSame⟩),
  ("square:always", ⟨.userRecord "Square" .square, always⟩),
  ("shape:always", ⟨.shape, always⟩),
  ("Shape:null", ⟨.shapePointer, Comparator.on fun v => Option.isNone v⟩),
  ("vector<i32>:size", ⟨.sequence .vector .int32, Comparator.on fun v => List.length v⟩),
  ("vector<i64>:size", ⟨.int64s, Comparator.on fun v => List.length v⟩),
  ("optional<i32>:always", ⟨.optional .int32, always⟩),
  ("shared_ptr<i32>:never", ⟨.pointer .shared .int32, never⟩),
  ("pair<i32,i32>:first", ⟨.pair .int32 .int32, Comparator.on fun v => Scalar.int32.toInt v.1⟩)]

def named (name : String) : Option Registration := table.lookup name

end Registration

end SerializerContract
