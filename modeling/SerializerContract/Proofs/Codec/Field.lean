import SerializerContract.Proofs.Codec.Layout

/-! The fields on the wire. A field is read whole or not at all: it is the bytes of a number, or those of a
length. Spellings say which fields, in which order, stand for which values; they divide the bytes of the
layouts, and nothing else. -/
namespace SerializerContract

/-- The bytes of one number, or of one length. -/
inductive Field where
  | scalar (bytes : Bytes)
  | length (bytes : Bytes)
deriving DecidableEq, Repr

namespace Field

def bytes : Field → Bytes
  | .scalar bytes => bytes
  | .length bytes => bytes

/-- Some fields, one directly after the other. -/
def wire (fields : List Field) : Bytes := fields.flatMap bytes

@[simp] theorem wire_nil : wire [] = [] := rfl

@[simp] theorem wire_cons (field : Field) (fields : List Field) :
    wire (field :: fields) = field.bytes ++ wire fields := rfl

@[simp] theorem wire_append (front back : List Field) : wire (front ++ back) = wire front ++ wire back := by
  simp [wire]

end Field

/-- Which fields stand for which values of one type. -/
abbrev Spelling (α : Type) := List Field → α → Prop

namespace Spelling

variable {α β ε : Type}

def number (order : ByteOrder) (n : Nat) : Spelling (BitVec (8 * n)) := fun fields v =>
  ∃ bytes, fields = [.scalar bytes] ∧ Layout.number order n bytes v

def byte : Spelling UInt8 := fun fields v => fields = [.scalar [v]]

def nothing : Spelling Unit := fun fields _ => fields = []

def both (first : Spelling α) (second : Spelling β) : Spelling (α × β) := fun fields v =>
  ∃ front back, fields = front ++ back ∧ first front v.1 ∧ second back v.2

def row (spelling : Spelling α) : (n : Nat) → Spelling (Row α n)
  | 0 => nothing
  | n + 1 => both spelling (row spelling n)

/-- Some elements, one directly after the other. -/
inductive Each (spelling : Spelling ε) : Spelling (List ε) where
  | nil : Each spelling [] []
  | cons {front back : List Field} {x : ε} {xs : List ε} (first : spelling front x)
      (rest : Each spelling back xs) : Each spelling (front ++ back) (x :: xs)

def counted (format : Format) (spelling : Spelling ε) (collect : List ε → α) : Spelling α := fun fields v =>
  ∃ field body xs, fields = .length field :: body ∧ Layout.lengthField format xs.length field ∧
    Each spelling body xs ∧ v = collect xs

end Spelling

namespace Layout

variable {α β ε : Type}

/-- The bytes of the layout are those of the fields of the spelling. -/
def SpelledBy (layout : Layout α) (spelling : Spelling α) : Prop :=
  ∀ bytes v, layout bytes v ↔ ∃ fields, bytes = Field.wire fields ∧ spelling fields v

/-- Fields that spell a value are bytes from which it is read. -/
theorem SpelledBy.wire {layout : Layout α} {spelling : Spelling α} (h : layout.SpelledBy spelling)
    {fields : List Field} {v : α} (hFields : spelling fields v) : layout (Field.wire fields) v :=
  (h _ v).mpr ⟨fields, rfl, hFields⟩

theorem number_spelledBy (order : ByteOrder) (n : Nat) : (number order n).SpelledBy (.number order n) := by
  intro bytes v
  constructor
  · exact fun h => ⟨[.scalar bytes], by simp [Field.bytes], bytes, rfl, h⟩
  · rintro ⟨_, rfl, front, rfl, h⟩
    simpa [Field.bytes] using h

theorem byte_spelledBy : byte.SpelledBy .byte := by
  intro bytes v
  constructor
  · rintro rfl
    exact ⟨[.scalar [v]], rfl, rfl⟩
  · rintro ⟨_, rfl, rfl⟩
    rfl

theorem nothing_spelledBy : nothing.SpelledBy .nothing := by
  intro bytes v
  constructor
  · rintro rfl
    exact ⟨[], rfl, rfl⟩
  · rintro ⟨_, rfl, rfl⟩
    rfl

/-- Two parts are spelled by the fields of the one and those of the other. -/
theorem both_spelledBy {one : Layout α} {two : Layout β} {one' : Spelling α} {two' : Spelling β}
    (hOne : one.SpelledBy one') (hTwo : two.SpelledBy two') : (both one two).SpelledBy (.both one' two') := by
  intro bytes v
  constructor
  · rintro ⟨front, back, rfl, hFront, hBack⟩
    obtain ⟨fields, rfl, hFields⟩ := (hOne front v.1).mp hFront
    obtain ⟨others, rfl, hOthers⟩ := (hTwo back v.2).mp hBack
    exact ⟨fields ++ others, by simp, fields, others, rfl, hFields, hOthers⟩
  · rintro ⟨_, rfl, fields, others, rfl, hFields, hOthers⟩
    exact ⟨_, _, by simp, hOne.wire hFields, hTwo.wire hOthers⟩

/-- A row is spelled by the fields of its elements. -/
theorem row_spelledBy {layout : Layout α} {spelling : Spelling α} (h : layout.SpelledBy spelling) (n : Nat) :
    (row layout n).SpelledBy (.row spelling n) := by
  induction n with
  | zero => exact nothing_spelledBy
  | succ n ih => exact both_spelledBy h ih

/-- Elements are spelled by their fields, one after the other. -/
theorem each_spelledBy {layout : Layout ε} {spelling : Spelling ε} (h : layout.SpelledBy spelling) :
    SpelledBy (Each layout) (.Each spelling) := by
  intro bytes xs
  constructor
  · intro hEach
    induction hEach with
    | nil => exact ⟨[], rfl, .nil⟩
    | cons first _ ih =>
        obtain ⟨fields, rfl, hFields⟩ := (h _ _).mp first
        obtain ⟨others, rfl, hOthers⟩ := ih
        exact ⟨fields ++ others, by simp, .cons hFields hOthers⟩
  · rintro ⟨fields, rfl, hEach⟩
    induction hEach with
    | nil => exact .nil
    | cons first _ ih =>
        rw [Field.wire_append]
        exact .cons (h.wire first) ih

/-- A container is spelled by a length field and the fields of its elements. -/
theorem counted_spelledBy {layout : Layout ε} {spelling : Spelling ε} (h : layout.SpelledBy spelling)
    (format : Format) (collect : List ε → α) :
    (counted format layout collect).SpelledBy (.counted format spelling collect) := by
  intro bytes v
  constructor
  · rintro ⟨field, body, xs, rfl, hField, hEach, hValue⟩
    obtain ⟨fields, rfl, hFields⟩ := (each_spelledBy h body xs).mp hEach
    exact ⟨.length field :: fields, rfl, field, fields, xs, rfl, hField, hFields, hValue⟩
  · rintro ⟨_, rfl, field, fields, xs, rfl, hField, hFields, hValue⟩
    exact ⟨field, _, xs, rfl, hField, (each_spelledBy h).wire hFields, hValue⟩

end Layout

end SerializerContract
