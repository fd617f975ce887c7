import SerializerContract.Action
import SerializerContract.ValueType.Dynamic
import SerializerContract.ValueType.Name
import SerializerContract.ValueType.Order

/-!
# Deep equality

A checker compares two values of one type: by the comparator registered for the type where there is
one, and otherwise by the structure of the type. A type with neither is a defect of the fixture.
-/

namespace SerializerContract

/-- A comparison of two values of a type, the expected one first. -/
abbrev Comparator (t : ValueType) := t.Val → t.Val → Except Failure Bool

structure Registration where
  type : ValueType
  comparator : Comparator type

/-- Deep equality with the comparators registered so far, the latest first. -/
structure Checker where
  registrations : List Registration := []

namespace Checker

/-- Registers a comparator, which replaces an earlier one for the same type. -/
def register (checker : Checker) (t : ValueType) (comparator : Comparator t) : Checker :=
  ⟨⟨t, comparator⟩ :: checker.registrations⟩

def registerAll (checker : Checker) (registrations : List Registration) : Checker :=
  registrations.foldl (fun checker r => checker.register r.type r.comparator) checker

def isEmpty (checker : Checker) : Bool := checker.registrations.isEmpty

def findIn (t : ValueType) : List Registration → Option (Comparator t)
  | [] => none
  | registration :: rest =>
    if h : registration.type = t then some (h ▸ registration.comparator) else findIn t rest

/-- The comparator for exactly this type. -/
def find (checker : Checker) (t : ValueType) : Option (Comparator t) := findIn t checker.registrations

def hasComparator (checker : Checker) (t : ValueType) : Bool := (checker.find t).isSome

def property : String := "deep equality"

/-- The finding that nothing says how values of a type compare. -/
def missing (t : ValueType) : Failure :=
  .fixture property ("No comparator registered for type " ++ t.name)

/-- Both hold; the second is not asked when the first does not. -/
def bothEqual (first : Except Failure Bool) (second : Unit → Except Failure Bool) : Except Failure Bool :=
  match first with
  | .ok true => second ()
  | other => other

/-- Position by position, up to the end of the shorter list; then the lengths count. -/
def listEqual {α : Type} (equal : α → α → Except Failure Bool) : List α → List α → Except Failure Bool
  | [], [] => .ok true
  | x :: xs, y :: ys => bothEqual (equal x y) fun _ => listEqual equal xs ys
  | _, _ => .ok false

/-- Takes the first of some candidates that equals `x` out of them. -/
def takeEqual {α : Type} (equal : α → α → Except Failure Bool) (x : α) :
    List α → Except Failure (Option (List α))
  | [] => .ok none
  | y :: ys =>
    match equal x y with
    | .error failure => .error failure
    | .ok true => .ok (some ys)
    | .ok false => (takeEqual equal x ys).map (Option.map (y :: ·))

/-- Every expected element finds an equal one among the candidates, each a different one. -/
def allFound {α : Type} (equal : α → α → Except Failure Bool) : List α → List α → Except Failure Bool
  | [], _ => .ok true
  | x :: xs, candidates =>
    match takeEqual equal x candidates with
    | .error failure => .error failure
    | .ok none => .ok false
    | .ok (some rest) => allFound equal xs rest

/-- Hashed containers, in any order. As long as no comparator is registered at all, elements with an
equality of their own are compared by it. -/
def hashedEqual {α : Type} (checker : Checker) (hasEquality : Bool) (same : α → α → Bool)
    (equal : α → α → Except Failure Bool) (expected actual : List α) : Except Failure Bool :=
  if expected.length != actual.length then .ok false
  else if hasEquality && checker.isEmpty then .ok (pairsUp same expected actual)
  else allFound equal expected actual

/-- Two values behind pointers. Values of different dynamic types are different, and a comparator for
their dynamic type decides before the declared type does. -/
def pointeeEqual (checker : Checker) (t : ValueType) (equal : t.Val → t.Val → Except Failure Bool)
    (expected actual : t.Val) : Except Failure Bool :=
  if t.isPolymorphic then
    let x := t.dynamic expected
    let y := t.dynamic actual
    if h : y.type = x.type then
      match checker.find x.type with
      | some comparator => comparator x.value (h ▸ y.value)
      | none => equal expected actual
    else .ok false
  else equal expected actual

/-- The comparator of a type decides; without one, its structure. -/
def orElse (checker : Checker) (t : ValueType) (structural : Comparator t) : Comparator t :=
  (checker.find t).getD structural

/-- Numbers; a NaN equals a NaN. -/
def scalarEqual (s : Scalar) (a b : s.Val) : Bool := (s.isNaN a && s.isNaN b) || s.same a b

/-- Records, by their own equality where they have one. -/
def recordEqual (name : DeclaredName) (r : Record) (a b : r.Val) : Except Failure Bool :=
  if r.hasEquality then .ok (r.same a b) else .error (missing (.record name r))

end Checker

open Checker in
mutual
def Checker.equals (checker : Checker) : (t : ValueType) → Comparator t
  | .scalar s => checker.orElse (.scalar s) fun a b => .ok (scalarEqual s a b)
  | .enumeration name s => checker.orElse (.enumeration name s) fun a b => .ok (s.same a b)
  | .text kind => checker.orElse (.text kind) fun a b => .ok (Bytes.same (kind.bytes a) (kind.bytes b))
  | .record name r => checker.orElse (.record name r) (recordEqual name r)
  | .optional t => checker.orElse (.optional t) fun a b =>
    match a, b with
    | some x, some y => checker.equals t x y
    | none, none => .ok true
    | _, _ => .ok false
  | .pointer kind t => checker.orElse (.pointer kind t) fun a b =>
    match a, b with
    | some x, some y => checker.pointeeEqual t (checker.equals t) x.value y.value
    | none, none => .ok true
    | _, _ => .ok false
  | .pair s t => checker.orElse (.pair s t) fun a b =>
    bothEqual (checker.equals s a.1 b.1) fun _ => checker.equals t a.2 b.2
  | .entry k v => checker.orElse (.entry k v) fun a b =>
    bothEqual (checker.equals k a.1 b.1) fun _ => checker.equals v a.2 b.2
  | .tuple t rest => checker.orElse (.tuple t rest) fun a b =>
    bothEqual (checker.equals t a.1 b.1) fun _ => checker.fieldsEqual rest a.2 b.2
  | .array n t => checker.orElse (.array n t) fun a b => listEqual (checker.equals t) a.toList b.toList
  | .sequence kind t => checker.orElse (.sequence kind t) fun a b => listEqual (checker.equals t) a b
  | .set .ordered multi t => checker.orElse (.set .ordered multi t) fun a b =>
    listEqual (checker.equals t) a b
  | .set .hashed multi t => checker.orElse (.set .hashed multi t) fun a b =>
    checker.hashedEqual t.hasEquality t.same (checker.equals t) a b
  | .map .ordered multi k v => checker.orElse (.map .ordered multi k v) fun a b =>
    listEqual (checker.orElse (.entry k v) fun x y =>
      bothEqual (checker.equals k x.1 y.1) fun _ => checker.equals v x.2 y.2) a b
  | .map .hashed multi k v => checker.orElse (.map .hashed multi k v) fun a b =>
    checker.hashedEqual (ValueType.entry k v).hasEquality (ValueType.entry k v).same
      (checker.orElse (.entry k v) fun x y =>
        bothEqual (checker.equals k x.1 y.1) fun _ => checker.equals v x.2 y.2) a b

def Checker.fieldsEqual (checker : Checker) : (ts : FieldTypes) → ts.Val → ts.Val → Except Failure Bool
  | .nil, _, _ => .ok true
  | .cons t rest, a, b =>
    bothEqual (checker.equals t a.1 b.1) fun _ => checker.fieldsEqual rest a.2 b.2
end

end SerializerContract
