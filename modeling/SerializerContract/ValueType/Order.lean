import SerializerContract.ValueType.Basic

/-!
# A type's own order and equality, and insertion into containers

Some types compare for themselves. Their own equality is not deep: pointers are equal when they point
to the same place, a tag is equal to itself only, and a NaN equals nothing. Containers with keys are
kept by these: ordered ones sorted, those with unique keys holding the first value of each key.
-/

namespace SerializerContract

/-- Every element of `xs` pairs with a different element of `ys`, and none is left over. Elements are
paired greedily, each with the first free partner. -/
def pairsUp {α β : Type} (same : α → β → Bool) : List α → List β → Bool
  | [], ys => ys.isEmpty
  | x :: xs, ys =>
    match ys.findIdx? (same x) with
    | some i => pairsUp same xs (ys.eraseIdx i)
    | none => false

def allSame {α : Type} (same : α → α → Bool) : List α → List α → Bool
  | [], [] => true
  | x :: xs, y :: ys => same x y && allSame same xs ys
  | _, _ => false

def listLess {α : Type} (less : α → α → Bool) : List α → List α → Bool
  | _, [] => false
  | [], _ :: _ => true
  | x :: xs, y :: ys => less x y || (!less y x && listLess less xs ys)

def pairLess {α β : Type} (lessFirst : α → α → Bool) (lessSecond : β → β → Bool) (x y : α × β) : Bool :=
  lessFirst x.1 y.1 || (!lessFirst y.1 x.1 && lessSecond x.2 y.2)

def byteLess (a b : UInt8) : Bool := decide (a < b)

def Bytes.same (a b : Bytes) : Bool := a == b

namespace Record

def hasEquality : Record → Bool
  | .label => true
  | .tag => true
  | _ => false

/-- A record type's own equality; a type without one equates nothing. -/
def same : (r : Record) → r.Val → r.Val → Bool
  | .label, a, b => Bytes.same a b
  | .tag, a, b => a.place == b.place
  | _, _, _ => false

def less (r : Record) (_ _ : r.Val) : Bool := false

end Record

namespace TextKind

/-- A text type's own equality: of what is said, but of the address where there is one. -/
def same : (kind : TextKind) → kind.Val → kind.Val → Bool
  | .zeroTerminated, a, b => a.place == b.place
  | .owned, a, b => Bytes.same a b
  | .view, a, b => Bytes.same a b

def less : (kind : TextKind) → kind.Val → kind.Val → Bool
  | .zeroTerminated, a, b => decide (a.place < b.place)
  | .owned, a, b => listLess byteLess a b
  | .view, a, b => listLess byteLess a b

end TextKind

mutual
def ValueType.hasEquality : ValueType → Bool
  | .record _ r => r.hasEquality
  | .optional t => t.hasEquality
  | .pair a b => a.hasEquality && b.hasEquality
  | .entry k v => k.hasEquality && v.hasEquality
  | _ => true

def ValueType.same : (t : ValueType) → t.Val → t.Val → Bool
  | .scalar s, a, b => s.same a b
  | .enumeration _ s, a, b => s.same a b
  | .text kind, a, b => kind.same a b
  | .record _ r, a, b => r.same a b
  | .optional _, none, none => true
  | .optional t, some a, some b => t.same a b
  | .optional _, _, _ => false
  | .pointer _ _, a, b => a.map Placed.place == b.map Placed.place
  | .pair s t, a, b => s.same a.1 b.1 && t.same a.2 b.2
  | .entry k v, a, b => k.same a.1 b.1 && v.same a.2 b.2
  | .tuple t rest, a, b => t.same a.1 b.1 && rest.same a.2 b.2
  | .array _ t, a, b => allSame t.same a.toList b.toList
  | .sequence _ t, a, b => allSame t.same a b
  | .set .ordered _ t, a, b => allSame t.same a b
  | .set .hashed _ t, a, b => pairsUp t.same a b
  | .map .ordered _ k v, a, b => allSame (fun x y => k.same x.1 y.1 && v.same x.2 y.2) a b
  | .map .hashed _ k v, a, b => pairsUp (fun x y => k.same x.1 y.1 && v.same x.2 y.2) a b

def FieldTypes.same : (ts : FieldTypes) → ts.Val → ts.Val → Bool
  | .nil, _, _ => true
  | .cons t rest, a, b => t.same a.1 b.1 && rest.same a.2 b.2
end

mutual
def ValueType.less : (t : ValueType) → t.Val → t.Val → Bool
  | .scalar s, a, b => s.less a b
  | .enumeration _ s, a, b => s.less a b
  | .text kind, a, b => kind.less a b
  | .record _ r, a, b => r.less a b
  | .optional _, _, none => false
  | .optional _, none, some _ => true
  | .optional t, some a, some b => t.less a b
  | .pointer _ _, _, none => false
  | .pointer _ _, none, some _ => true
  | .pointer _ _, some a, some b => decide (a.place < b.place)
  | .pair s t, a, b => pairLess s.less t.less a b
  | .entry k v, a, b => pairLess k.less v.less a b
  | .tuple t rest, a, b => t.less a.1 b.1 || (!t.less b.1 a.1 && rest.less a.2 b.2)
  | .array _ t, a, b => listLess t.less a.toList b.toList
  | .sequence _ t, a, b => listLess t.less a b
  | .set _ _ t, a, b => listLess t.less a b
  | .map _ _ k v, a, b => listLess (pairLess k.less v.less) a b

def FieldTypes.less : (ts : FieldTypes) → ts.Val → ts.Val → Bool
  | .nil, _, _ => false
  | .cons t rest, a, b => t.less a.1 b.1 || (!t.less b.1 a.1 && rest.less a.2 b.2)
end

/-! ## Insertion -/

section Insertion

variable {κ ε : Type}

/-- Puts an element after every element whose key is not greater. -/
def insertSorted (less : κ → κ → Bool) (key : ε → κ) (x : ε) : List ε → List ε
  | [] => [x]
  | y :: ys => if less (key x) (key y) then x :: y :: ys else y :: insertSorted less key x ys

/-- Insertion into an ordered container. With unique keys an element whose key is taken is dropped. -/
def insertOrdered (less : κ → κ → Bool) (key : ε → κ) (multi : Bool) (xs : List ε) (x : ε) : List ε :=
  if !multi && xs.any fun y => !less (key x) (key y) && !less (key y) (key x) then xs
  else insertSorted less key x xs

/-- Insertion into a hashed container. With unique keys an element whose key is taken is dropped; the
order is that of insertion, which nothing observes. -/
def insertHashed (same : κ → κ → Bool) (key : ε → κ) (multi : Bool) (xs : List ε) (x : ε) : List ε :=
  if !multi && xs.any fun y => same (key x) (key y) then xs else xs ++ [x]

/-- Insertion into an associative container of elements with keys of type `k`. -/
def Lookup.insert (lookup : Lookup) (multi : Bool) (k : ValueType) (key : ε → k.Val) (xs : List ε) (x : ε) :
    List ε :=
  match lookup with
  | .ordered => insertOrdered k.less key multi xs x
  | .hashed => insertHashed k.same key multi xs x

/-- The associative container that results from inserting elements one after the other. -/
def Lookup.ofList (lookup : Lookup) (multi : Bool) (k : ValueType) (key : ε → k.Val) (xs : List ε) : List ε :=
  xs.foldl (lookup.insert multi k key) []

end Insertion

end SerializerContract
