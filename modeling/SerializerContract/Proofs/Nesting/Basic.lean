import SerializerContract.Family
import SerializerContract.Proofs.Conformance.Geometry
import SerializerContract.Proofs.Conformance.Number
import SerializerContract.Proofs.Conformance.Numbers
import SerializerContract.Proofs.Conformance.Optional
import SerializerContract.Proofs.Conformance.Text

/-! The serializers of the library under any number of wrappers. A padding can be any number that is not
negative: null may take more bytes than every other value, or fewer. -/
namespace SerializerContract

/-- Whether one value of a family is as good as another one. Shapes are if they are circles of the same
radius, wherever they are; all other values only if they are equal. -/
def Family.Same : (f : Family) → f.Value → f.Value → Prop
  | .number, v, w => v = w
  | .text, v, w => v = w
  | .numbers, v, w => v = w
  | .point, v, w => v = w
  | .circle, v, w => ∃ radius, CircleSerializer.HasRadius v radius ∧ CircleSerializer.HasRadius w radius
  | .nullable f, v, w => Option.Rel f.Same v w

/-- A serializer of the library, or a wrapper around one, or around a wrapper. Paddings are signed numbers
of 32 bits that are not negative. -/
inductive Nesting : Family → Type where
  | number : Nesting .number
  | text (config : TextConfig) : Nesting .text
  | numbers : Nesting .numbers
  | point : Nesting .point
  | circle : Nesting .circle
  | nullable {f : Family} (inner : Nesting f) (padding : Nat) (padded : padding ≤ 0x7fffffff) :
      Nesting (.nullable f)

namespace Nesting

variable {f : Family}

/-- What is known of these serializers. They are about all values that they can write. -/
def world : {f : Family} → Nesting f → World Store f.Serializer f.Snapshot f.Value
  | _, number => NumberSerializer.world
  | _, text config => TextSerializer.world config
  | _, numbers => NumbersSerializer.world .plain
  | _, point => PointSerializer.world fun _ => True
  | _, circle => CircleSerializer.world fun _ => True
  | _, nullable inner padding _ => inner.world.optional padding

/-- What is written for a value: at each level of wrappers a flag, and then the value or zeros. -/
def written : {f : Family} → Nesting f → f.Value → Bytes
  | _, number, v => wordBytes v
  | _, text _, v => textBytes v
  | _, numbers, v => NumbersSerializer.numbersBytes v
  | _, point, v => PointSerializer.pointBytes v
  | _, circle, v => CircleSerializer.circleBytes v
  | _, nullable _ padding _, none => Nullable.flagByte true :: Bytes.zeros padding
  | _, nullable inner _ _, some v => Nullable.flagByte false :: inner.written v

/-- A nesting writes the bytes its structure gives, whichever of its objects does it. -/
theorem world_bytes (s : Nesting f) (x : f.Serializer) (v : f.Value) : s.world.bytes x v = s.written v := by
  induction s with
  | number | text config | numbers | point | circle => rfl
  | nullable inner padding padded ih =>
      cases v with
      | none => rfl
      | some u => exact congrArg (List.cons (Nullable.flagByte false)) (ih _ u)

theorem world_like (s : Nesting f) : s.world.like = f.Same := by
  induction s with
  | number | text config | numbers | point | circle => rfl
  | nullable inner padding padded ih =>
      exact congrArg (fun like => Option.Rel like) ih

theorem world_room (s : Nesting f) : s.world.room = Bytes.longest := by
  induction s with
  | number | text config | numbers | point | circle => rfl
  | nullable inner padding padded ih => exact ih

/-- The snapshot of every serializer of a configuration. -/
def described : {f : Family} → Nesting f → f.Snapshot
  | _, number => NumberSnapshot.plain
  | _, text config => config
  | _, numbers => NumbersKind.plain
  | _, point => ()
  | _, circle => ()
  | _, nullable inner padding _ => ⟨some inner.described, padding⟩

/-- Nothing changes when a snapshot is taken. -/
theorem snapshot_eq_described (s : Nesting f) {x : f.Serializer} {store : Store} (hLive : s.world.live x store) :
    f.contract.snapshot x = pure (some s.described) := by
  induction s with
  | number => exact NumberSerializer.snapshot_of_plain hLive
  | text config => exact (TextSerializer.described config).takes x hLive.1
  | numbers => exact (NumbersSerializer.described .plain).takes x hLive.1
  | point => exact PointSerializer.described.takes x hLive.1
  | circle => exact CircleSerializer.described.takes x hLive.1
  | @nullable f inner padding padded ih =>
      change (do
        return some ⟨← f.contract.snapshot x.config.inner, x.config.padding⟩ :
          Action Store (Option (WrapperSnapshot f.Snapshot))) = _
      rw [ih hLive.1, hLive.2.1]
      rfl

/-- The snapshot of a nesting describes each of its serializers in every store. -/
theorem describes_described (s : Nesting f) (x : f.Serializer) (store : Store) :
    s.world.describes s.described x store := by
  induction s with
  | number | text config | numbers | point | circle => rfl
  | nullable inner padding padded ih => exact ⟨inner.described, rfl, ih _⟩

/-- Serializers are never given up, whoever makes new ones. -/
theorem keeps_of_grows (s : Nesting f) {before after : Store} (h : before.Grows after) :
    s.world.Keeps before after := by
  induction s with
  | number => exact NumberSerializer.world_keeps before after
  | text config => exact World.ofObjects_keeps h
  | numbers => exact World.ofObjects_keeps h
  | point => exact World.ofObjects_keeps h
  | circle => exact World.ofObjects_keeps h
  | nullable inner padding padded ih => exact ih.optional

/-- Whatever the nesting, a serializer restored from its snapshot is one of the nesting again. -/
theorem restorable (s : Nesting f) : s.world.Restorable f.contract := by
  induction s with
  | number => exact NumberSerializer.world_restorable
  | text config =>
      exact World.ofObjects_restorable (TextSerializer.described config) (TextSerializer.configured config)
  | numbers =>
      exact World.ofObjects_restorable (NumbersSerializer.described .plain) NumbersSerializer.configured
  | point => exact World.ofObjects_restorable PointSerializer.described PointSerializer.configured
  | circle => exact World.ofObjects_restorable CircleSerializer.described CircleSerializer.configured
  | nullable inner padding padded ih => exact ih.optional fun _ _ => inner.keeps_of_grows

/-- Serializers that can replace each other are equal, in either order. -/
theorem equals_of_replaces (s : Nesting f) {x y : f.Serializer} {store : Store}
    (hLive : s.world.live x store) (hReplaces : s.world.Replaces f.contract y x store) :
    (f.contract.equals y x).Succeeds store (fun equal _ => equal = true) ∧
      (f.contract.equals x y).Succeeds store (fun equal _ => equal = true) := by
  have hCompares := s.restorable.compares
  have hAlike := hCompares.symm y x store hReplaces.alike
  constructor
  · exact (hCompares.equals y x store hReplaces.live hLive hReplaces.alike).mono fun _ _ hEqual => hEqual.1
  · exact (hCompares.equals x y store hLive hReplaces.live hAlike).mono fun _ _ hEqual => hEqual.1

/-- Texts with a limit, wrapped twice: null inside takes five bytes, null outside takes one. -/
def twiceWrappedTexts (limit : BitVec 32) : Nesting (.nullable (.nullable .text)) :=
  .nullable (.nullable (.text (.bounded limit)) 4 (by decide)) 0 (by decide)

/-- Texts of three bytes at most. -/
def shortTexts : Nesting (.nullable (.nullable .text)) := twiceWrappedTexts 3

/-- A serializer of such texts, with a cell for each level. -/
def shortTextSerializer : (Family.nullable (.nullable .text)).Serializer :=
  ⟨2, ⟨⟨1, ⟨⟨0, .bounded 3⟩, 4, none⟩⟩, 0, none⟩⟩

/-- The nesting of short texts has a live serializer. -/
theorem shortTextSerializer_live : shortTexts.world.live shortTextSerializer ⟨[{}, {}, {}], 0, 0⟩ :=
  ⟨⟨⟨rfl, by decide⟩, rfl, rfl⟩, rfl, rfl⟩

end Nesting

end SerializerContract
