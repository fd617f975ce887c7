import SerializerContract.Checker.Named
import SerializerContract.SelfCheck.Codecs
import SerializerContract.ValueType.Describe

/-!
# Scenarios about deep equality and descriptions
-/

namespace SerializerContract.SelfCheck

open Scenario

/-! ## Values -/

/-- A name declared in the file that uses it. -/
def fileLocal (ident : String) : DeclaredName := ⟨"_GLOBAL__N_1", ident⟩

abbrev sealedType : ValueType := .record (fileLocal "Opaque") .sealed

abbrev tagType : ValueType := .record (fileLocal "Tag") .tag

abbrev tagSet : ValueType := .set .hashed false tagType

abbrev pointMap : ValueType := .map .hashed false .int32 .point

abbrev float32 : ValueType := .scalar .float32

abbrev localShapes : ValueType := .pointer .shared (.record (fileLocal "Shape") .shape)

abbrev localCircle : ValueType := .record (fileLocal "Circle") .circle

namespace Double

/-! Double precision numbers by their bits. -/

def zero : BitVec 64 := 0
def minusZero : BitVec 64 := 0x8000000000000000
def half : BitVec 64 := 0x3fe0000000000000
def one : BitVec 64 := 0x3ff0000000000000
def oneAndAHalf : BitVec 64 := 0x3ff8000000000000
def two : BitVec 64 := 0x4000000000000000
def minusTwoAndAHalf : BitVec 64 := 0xc004000000000000
def three : BitVec 64 := 0x4008000000000000
def minusThree : BitVec 64 := 0xc008000000000000
def four : BitVec 64 := 0x4010000000000000
def huge : BitVec 64 := 0x7e37e43c8800759c
def largest : BitVec 64 := 0x7fefffffffffffff
def smallest : BitVec 64 := 0xffefffffffffffff
def nan : BitVec 64 := 0x7ff8000000000000

end Double

open Double

def singleNan : BitVec 32 := 0x7fc00000

def word (n : Int) : BitVec 32 := BitVec.ofInt 32 n

def text (s : String) : Bytes := Bytes.ofText s

def pointerTo (place : Nat) (n : Int) : Option (Placed (BitVec 32)) := some ⟨place, word n⟩

def words (ns : List Int) : List (BitVec 32) := ns.map word

def tags (firstPlace : Nat) (ns : List Int) : List (Placed (BitVec 32)) :=
  ns.mapIdx fun i n => ⟨firstPlace + i, word n⟩

def localShape (place : Nat) (ident : String) (kind : Record) (extent : BitVec 64) :
    Option (Placed Shape) := some ⟨place, fileLocal ident, kind, extent⟩

/-! ## Sections -/

def leaves (checker : Checker) : Scenario Unit := do
  holdsOf (checker.equals .int32 (word 1) (word 1))
  refutedOf (checker.equals .int32 (word 1) (word 2))
  holdsOf (checker.equals .string (text "abc") (text "abc"))
  refutedOf (checker.equals .string (text "abc") (text "abd"))

def floating (checker : Checker) : Scenario Unit := do
  holdsOf (checker.equals float32 singleNan singleNan)
  holdsOf (checker.equals .float64 nan nan)
  holdsOf (checker.equals .float64 zero minusZero)
  refutedOf (checker.equals .float64 one nan)

def optionals (checker : Checker) : Scenario Unit := do
  let equals := checker.equals (.optional .int32)
  holdsOf (equals none none)
  holdsOf (equals (some (word 3)) (some (word 3)))
  refutedOf (equals (some (word 3)) none)
  refutedOf (equals none (some (word 3)))

def pointers (checker : Checker) : Scenario Unit := do
  let equals := checker.equals (.pointer .shared .int32)
  holdsOf (equals none none)
  refutedOf (equals none (pointerTo 0 1))
  holdsOf (equals (pointerTo 0 1) (pointerTo 1 1))
  refutedOf (equals (pointerTo 0 1) (pointerTo 1 2))
  holdsOf (checker.equals (.pointer .raw .int32) (pointerTo 0 5) (pointerTo 1 5))

def containers (checker : Checker) : Scenario Unit := do
  let equals := checker.equals int32s
  holdsOf (equals (words [1, 2, 3]) (words [1, 2, 3]))
  refutedOf (equals (words [1, 2, 3]) (words [1, 2]))
  refutedOf (equals (words [1, 2]) (words [1, 2, 3]))
  refutedOf (equals (words [1, 2, 3]) (words [3, 2, 1]))
  holdsOf (checker.equals (.sequence .vector .float64) [nan, one] [nan, one])
  holdsOf (checker.equals (.set .hashed false .int32) (words [1, 2, 3]) (words [3, 2, 1]))
  let mapEquals := checker.equals (.map .ordered false .int32 .string)
  let first := [(word 1, text "a"), (word 2, text "b")]
  let second := [(word 1, text "a"), (word 2, text "c")]
  holdsOf (mapEquals first first)
  refutedOf (mapEquals first second)

def tuples (checker : Checker) : Scenario Unit := do
  let t : ValueType := .tuple .int32 (.cons .string (.cons float32 .nil))
  let v : t.Val := (word 1, text "x", singleNan, ())
  holdsOf (checker.equals t v v)
  refutedOf (checker.equals (.pair .int32 .int32) (word 1, word 2) (word 1, word 3))

/-! ## Registered comparators -/

def onePoint : Point := ⟨one, two⟩

def samePoint : Comparator .point :=
  Comparator.ofBool fun a b => Comparator.doubleSame a.x b.x && Comparator.doubleSame a.y b.y

def missingComparator (checker : Checker) : Scenario Checker := do
  refuted (checker.hasComparator .point)
  fails (ofFinding .fixture) (checker.equals .point onePoint onePoint)
  fails (ofFinding .fixture) (checker.equals (.sequence .vector sealedType) [word 1] [word 1])
  return checker

def nestedValues (checker : Checker) : Scenario Checker := do
  let checker := checker.register .point samePoint
  holds (checker.hasComparator .point)
  holdsOf (checker.equals .point onePoint onePoint)
  refutedOf (checker.equals .point onePoint ⟨two, one⟩)
  let equals := checker.equals (.sequence .vector (.optional .point))
  holdsOf (equals [some onePoint, none] [some onePoint, none])
  refutedOf (equals [some onePoint, none] [some onePoint, some ⟨zero, zero⟩])
  return checker

def hashedElements (checker : Checker) : Scenario Checker := do
  refutedOf (checker.equals tagSet (tags 0 [1, 2]) (tags 2 [2, 1]))
  let checker := checker.register tagType (Comparator.on fun v => v.value)
  holdsOf (checker.equals (.sequence .vector tagType) (tags 0 [1, 2]) (tags 2 [1, 2]))
  holdsOf (checker.equals tagSet (tags 0 [1, 2]) (tags 2 [2, 1]))
  refutedOf (checker.equals tagSet (tags 0 [1, 2]) (tags 2 [1, 3]))
  refutedOf (checker.equals tagSet (tags 0 [1, 2]) (tags 2 [1]))
  let checker := checker.register .point samePoint
  let far : Point := ⟨three, four⟩
  holdsOf (checker.equals pointMap [(word 1, onePoint), (word 2, far)] [(word 2, far), (word 1, onePoint)])
  refutedOf (checker.equals pointMap [(word 1, onePoint), (word 2, far)]
    [(word 2, ⟨four, three⟩), (word 1, onePoint)])
  return checker

def overOwnEquality (checker : Checker) : Scenario Checker := do
  let checker := checker.register .int32 (Comparator.on fun v => (Scalar.int32.toInt v).tmod 10)
  holdsOf (checker.equals .int32 (word 3) (word 13))
  holdsOf (checker.equals int32s (words [1, 2]) (words [11, 22]))
  return checker

def dynamicTypes (checker : Checker) : Scenario Checker := do
  let checker := checker.register localCircle (Comparator.ofBool Comparator.doubleSame)
  let equals := checker.equals localShapes
  let circle := localShape 0 "Circle" .circle one
  holdsOf (equals circle (localShape 1 "Circle" .circle one))
  refutedOf (equals circle (localShape 2 "Circle" .circle two))
  refutedOf (equals circle (localShape 3 "Square" .square one))
  return checker

def comparators (checker : Checker) : Scenario Checker := do
  let checker ← through "Missing" missingComparator checker
  let checker ← through "Used for nested values" nestedValues checker
  let checker ← through "Used for elements of hashed containers" hashedElements checker
  let checker ← through "Takes precedence over operator==" overOwnEquality checker
  through "Looked up by dynamic type of pointees" dynamicTypes checker

/-! ## Descriptions -/

def describes (t : ValueType) (v : t.Val) (expected : String) : Scenario Unit :=
  equalTexts (t.describe v) expected

def descriptions : Scenario Unit := do
  describes .int32 (word 42) "42"
  describes .string (text "abc") "\"abc\""
  describes (.optional .int32) none "null"
  describes (.optional .int32) (some (word 7)) "7"
  describes (.pointer .shared .int32) none "null"
  describes .point onePoint "Point(1, 2)"
  describes .int64s ([1, -2] : List (BitVec 64)) "[1, -2]"
  describes (.pair .int32 .string) (word 1, text "a") "(1, \"a\")"
  let front := (sealedType.describe (word 1)).toList.headD ' '
  equalNumbers front.toNat '<'.toNat

/-- Comparators that one section registers are there in the next one. -/
def equality : Scenario Unit := do
  inSection "Leaves" (leaves {})
  inSection "Floating point" (floating {})
  inSection "Optional" (optionals {})
  inSection "Pointers" (pointers {})
  inSection "Containers" (containers {})
  inSection "Tuples" (tuples {})
  let _ ← through "Registered comparator" comparators {}
  inSection "Describe" descriptions

end SerializerContract.SelfCheck
