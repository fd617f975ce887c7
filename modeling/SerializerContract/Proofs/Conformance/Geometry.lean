import SerializerContract.Proofs.Conformance.Codec
import SerializerContract.Proofs.Conformance.Objects
import SerializerContract.Sample.Geometry

/-! Serializers of points and of circles conform. Both have values of a fixed length, and nothing to
configure. A circle is as good as another one if their radii are the same, wherever they are. -/
namespace SerializerContract

/-- The bytes of a double precision number. -/
def doubleBytes (v : BitVec 64) : Bytes := ByteOrder.network.toBytes 8 v.toNat

theorem length_doubleBytes (v : BitVec 64) : (doubleBytes v).length = 8 := ByteOrder.length_toBytes _ 8 _

/-- Every number of 64 bits makes the round trip, NaN included. -/
theorem doubleCodec_trips (v : BitVec 64) : doubleCodec.Trips v (doubleBytes v) :=
  (Codec.number_reads .network 8).trips (Codec.number_writes .network 8) trivial rfl

/-! ## Points -/

namespace PointSerializer

variable {A : Type} {ofAny : A → Option Unit}

def pointBytes (v : Point) : Bytes := doubleBytes v.x ++ doubleBytes v.y

theorem length_pointBytes (v : Point) : (pointBytes v).length = 16 := by
  rw [pointBytes, List.length_append, length_doubleBytes, length_doubleBytes]

/-- Two coordinates make the round trip together. -/
theorem bothCodec_trips (v : Point) :
    (Codec.both doubleCodec doubleCodec).Trips (v.x, v.y) (pointBytes v) := by
  have hWrites := Codec.both_writes (Codec.number_writes .network 8) (Codec.number_writes .network 8)
  exact (Codec.both_reads (Codec.number_reads .network 8) (Codec.number_reads .network 8)).trips hWrites
    ⟨trivial, trivial⟩ rfl

/-- What is known of serializers of points, about points with some property. -/
def world (domain : Point → Prop) : World Store PointSerializer Unit ValueType.point.Val :=
  .ofObjects () () (fun _ _ => True) domain Eq pointBytes 16

/-- A point is read from its 16 bytes. -/
theorem read_succeeds {v : Point} {input : InputChannel} {suffix : Bytes}
    (hInput : input.rest = pointBytes v ++ suffix) (hLength : input.rest.length ≤ Bytes.longest) :
    read.Succeeds input fun w last => w = v ∧ last.rest = suffix := by
  apply (InputChannel.read_succeeds (bothCodec_trips v) hInput hLength).bind
  intro coordinates last hRead
  obtain ⟨rfl, hRest⟩ := hRead
  exact Action.pure_succeeds ⟨rfl, hRest⟩

/-- A point is written as its 16 bytes. -/
theorem serialize_succeeds (v : Point) (out : OutputChannel) (store : Store) :
    (operations.serialize v).Succeeds (out, store) fun _ last =>
      last.1 = out.appended (pointBytes v) ∧ last.2 = store := by
  have hWritten : (do
      OutputChannel.write doubleCodec v.x
      OutputChannel.write doubleCodec v.y : Action OutputChannel Unit).outcome out =
        (.ok (), out.appended (pointBytes v)) := by
    refine Action.then_ok_iff.mpr ⟨_, OutputChannel.write_outcome (doubleCodec_trips v.x) out, ?_⟩
    rw [OutputChannel.write_outcome (doubleCodec_trips v.y), OutputChannel.appended_appended]
    rfl
  exact ⟨(), (out.appended (pointBytes v), store), Action.onFirst_ok_iff.mpr ⟨hWritten, rfl⟩, rfl, rfl⟩

theorem world_writesOnly : (world fun _ => True).WritesOnly (contract ofAny) := by
  intro x store v out last _ hWritten
  obtain ⟨hOut, hSame⟩ := (serialize_succeeds v out store).of_outcome hWritten
  exact ⟨trivial, hOut, hSame ▸ World.Keeps.refl _ _⟩

theorem world_handles (domain : Point → Prop) : (world domain).Handles (contract ofAny) where
  like_trans := fun _ _ _ => Eq.trans
  domain_like := fun _ _ hDomain hSame => hSame ▸ hDomain
  creates := fun _ _ _ => Action.pure_succeeds ⟨rfl, rfl, World.Keeps.refl _ _⟩
  copies := fun _ _ _ _ _ => Action.pure_succeeds ⟨rfl, World.Keeps.refl _ _⟩
  copiesInto := fun _ store v _ _ _ => ⟨.target, (v, store), rfl, rfl, rfl, World.Keeps.refl _ _⟩
  serializes := by
    intro x store v out _ _ _
    apply (serialize_succeeds v out store).mono
    intro _ last hWritten
    exact ⟨hWritten.1, hWritten.2 ▸ World.Keeps.refl _ _⟩
  deserializes := by
    intro x store v input suffix _ _ hInput hRoom
    apply (read_succeeds hInput hRoom).onFirst.mono
    intro w last hRead
    obtain ⟨⟨rfl, hRest⟩, rfl⟩ := hRead
    exact ⟨rfl, hRest, World.Keeps.refl _ _⟩
  readsIntoTarget := by
    intro x store v target input suffix _ _ hInput hRoom
    apply (read_succeeds hInput hRoom).onSecond.onFirst.bind
    intro w middle hRead
    obtain ⟨⟨held, input'⟩, store'⟩ := middle
    obtain ⟨⟨⟨rfl, hRest⟩, -⟩, rfl⟩ := hRead
    exact ⟨.target, ((w, input'), store'), rfl, rfl, rfl, hRest, World.Keeps.refl _ _⟩
  rawCopies := by
    intro x store v input suffix out _ _ hInput _ _
    apply (OutputChannel.move_succeeds out (length_pointBytes v) hInput).onFirst.mono
    intro _ last hMoved
    obtain ⟨⟨hRest, hOut⟩, rfl⟩ := hMoved
    exact ⟨hRest, hOut, World.Keeps.refl _ _⟩
  writesSome := fun _ _ v _ _ =>
    List.ne_nil_of_length_pos (Nat.lt_of_lt_of_eq (by decide) (length_pointBytes v).symm)
  measures := fun _ _ _ => Action.pure_succeeds ⟨rfl, World.Keeps.refl _ _⟩
  hasLength := fun _ _ _ v _ _ => congrArg Int.ofNat (length_pointBytes v)
  length_ne_zero := (by decide : (16 : Int) ≠ 0)
  length_lt := (by decide : (16 : Int) < 0x7fffffff)

theorem described : (contract ofAny).Described () () [] fun _ => True where
  takes := fun _ _ => rfl
  id_le := (by decide : (sampleId "PointSerializerSnapshot").length ≤ Width.w32.maximum)
  payload_le := Nat.zero_le _
  emptyType := fun _ _ => rfl
  writes := fun store => ⟨(), ({}, store), rfl, rfl, rfl⟩
  reads := fun _ made store _ => ⟨(), _, rfl, rfl, rfl, rfl⟩
  restore := rfl
  typeName := fun _ _ _ _ => rfl

theorem configured : (contract ofAny).Configured () () where
  duplicate := fun _ _ => rfl
  equals := fun _ _ _ _ => rfl
  resolve := fun _ _ => .inl rfl

theorem world_wrappable {domain : Point → Prop} {registry : Registry Store A}
    (hRegistered : (contract ofAny).Registered registry (sampleId "PointSerializerSnapshot") fun _ => True) :
    (world domain).Wrappable (contract ofAny) registry ((contract ofAny).framed () []) :=
  World.ofObjects_wrappable described hRegistered configured (world_handles domain)

end PointSerializer

/-! ## Circles -/

namespace CircleSerializer

variable {A : Type} {ofAny : A → Option Unit}

/-- The shape is a circle of this radius. -/
def HasRadius (v : Value) (radius : BitVec 64) : Prop := radiusOf v = .ok radius

/-- A shape has one radius at most. -/
theorem HasRadius.unique {v : Value} {radius other : BitVec 64} (h : HasRadius v radius)
    (h' : HasRadius v other) : radius = other :=
  Except.ok.inj (h.symm.trans h')

/-- A shape that has a radius is a circle, and nothing that extends a circle. -/
theorem HasRadius.eq_circle {v : Value} {radius : BitVec 64} (h : HasRadius v radius) :
    ∃ place, v = some ⟨place, ⟨"Samples", "Circle"⟩, .circle, radius⟩ := by
  cases v with
  | none => nomatch h
  | some placed =>
      obtain ⟨place, name, kind, extent⟩ := placed
      have hCircle : isCircle ⟨name, kind, extent⟩ = true := by
        by_cases hCircle : isCircle ⟨name, kind, extent⟩ = true
        · exact hCircle
        · rw [HasRadius, radiusOf, if_neg hCircle] at h
          nomatch h
      have hType := eq_of_beq hCircle
      rw [HasRadius, radiusOf, if_pos hCircle] at h
      cases kind with
      | circle =>
          obtain ⟨rfl, -⟩ := ValueType.record.inj hType
          exact ⟨place, congrArg _ (congrArg _ (congrArg _ (Except.ok.inj h)))⟩
      | _ => exact absurd (ValueType.record.inj hType).2 nofun

/-- The bytes of a circle: its radius. -/
def circleBytes (v : Value) : Bytes :=
  match radiusOf v with
  | .ok radius => doubleBytes radius
  | .error _ => []

/-- A circle is written as its radius. -/
theorem HasRadius.circleBytes {v : Value} {radius : BitVec 64} (h : HasRadius v radius) :
    circleBytes v = doubleBytes radius := by
  rw [CircleSerializer.circleBytes, h]

theorem hasRadius_circle (radius : BitVec 64) : HasRadius (some (circle radius)) radius := rfl

/-- A reuse target is made a circle of the radius, whatever it was. -/
theorem hasRadius_withRadius (radius : BitVec 64) (target : Value) :
    HasRadius (withRadius radius target) radius := by
  cases target with
  | none => exact hasRadius_circle radius
  | some placed =>
      obtain ⟨place, shape⟩ := placed
      have hSame : isCircle { shape with extent := radius } = isCircle shape := by
        obtain ⟨name, kind, extent⟩ := shape
        cases kind <;> rfl
      cases hCircle : isCircle shape with
      | true => simp [HasRadius, withRadius, radiusOf, hCircle, hSame]
      | false =>
          rw [withRadius, if_neg (by simp [hCircle])]
          exact hasRadius_circle radius

/-- What is known of serializers of circles, about circles whose radius has some property. -/
def world (property : BitVec 64 → Prop) : World Store CircleSerializer Unit ValueType.shapePointer.Val :=
  .ofObjects () () (fun _ _ => True) (fun v => ∃ radius, HasRadius v radius ∧ property radius)
    (fun v w => ∃ radius, HasRadius v radius ∧ HasRadius w radius) circleBytes 8

/-- A circle is written as its radius. -/
theorem serialize_succeeds {v : Value} {radius : BitVec 64} (hRadius : HasRadius v radius)
    (out : OutputChannel) (store : Store) :
    (operations.serialize v).Succeeds (out, store) fun _ last =>
      last.1 = out.appended (circleBytes v) ∧ last.2 = store := by
  apply (Action.ofExcept_succeeds hRadius).bind
  intro _ _ hSame
  obtain ⟨rfl, rfl⟩ := hSame
  rw [hRadius.circleBytes]
  exact (OutputChannel.write_succeeds (doubleCodec_trips _) out).onFirst

/-- Shapes that are no circles are refused. -/
theorem world_writesOnly : (world fun _ => True).WritesOnly (contract ofAny) := by
  intro x store v out last _ hWritten
  obtain ⟨radius, _, hChecked, -⟩ := Action.bind_ok_iff.mp hWritten
  have hRadius : HasRadius v radius := congrArg Prod.fst hChecked
  obtain ⟨hOut, hSame⟩ := (serialize_succeeds hRadius out store).of_outcome hWritten
  exact ⟨⟨radius, hRadius, trivial⟩, hOut, hSame ▸ World.Keeps.refl _ _⟩

theorem world_handles (property : BitVec 64 → Prop) : (world property).Handles (contract ofAny) where
  like_trans := by
    intro u v w hLike hLike'
    obtain ⟨radius, hFirst, hSecond⟩ := hLike
    obtain ⟨other, hSecond', hThird⟩ := hLike'
    exact ⟨radius, hFirst, hSecond.unique hSecond' ▸ hThird⟩
  domain_like := by
    intro v w hDomain hLike
    obtain ⟨radius, hRadius, hProperty⟩ := hDomain
    obtain ⟨other, hRadius', hOther⟩ := hLike
    exact ⟨radius, hRadius.unique hRadius' ▸ hOther, hProperty⟩
  creates := fun _ _ _ => Action.pure_succeeds ⟨rfl, rfl, World.Keeps.refl _ _⟩
  copies := by
    intro x store v _ hDomain
    obtain ⟨radius, hRadius, -⟩ := hDomain
    apply (Action.ofExcept_succeeds hRadius).bind
    intro _ _ hSame
    obtain ⟨rfl, rfl⟩ := hSame
    exact Action.pure_succeeds ⟨⟨_, hRadius, hasRadius_circle _⟩, World.Keeps.refl _ _⟩
  copiesInto := by
    intro x store v target _ hDomain
    obtain ⟨radius, hRadius, -⟩ := hDomain
    apply (Action.ofExcept_succeeds hRadius).bind
    intro _ _ hSame
    obtain ⟨rfl, rfl⟩ := hSame
    exact ⟨.target, (withRadius _ target, store), rfl, rfl, ⟨_, hRadius, hasRadius_withRadius _ target⟩,
      World.Keeps.refl _ _⟩
  serializes := by
    intro x store v out _ hDomain _
    obtain ⟨radius, hRadius, -⟩ := hDomain
    apply (serialize_succeeds hRadius out store).mono
    intro _ last hWritten
    exact ⟨hWritten.1, hWritten.2 ▸ World.Keeps.refl _ _⟩
  deserializes := by
    intro x store v input suffix _ hDomain hInput hRoom
    obtain ⟨radius, hRadius, -⟩ := hDomain
    have hInput : input.rest = doubleBytes radius ++ suffix := hRadius.circleBytes ▸ hInput
    apply (InputChannel.read_succeeds (doubleCodec_trips radius) hInput hRoom).onFirst.bind
    intro read last hRead
    obtain ⟨⟨rfl, hRest⟩, rfl⟩ := hRead
    exact Action.pure_succeeds ⟨⟨read, hRadius, hasRadius_circle read⟩, hRest, World.Keeps.refl _ _⟩
  readsIntoTarget := by
    intro x store v target input suffix _ hDomain hInput hRoom
    obtain ⟨radius, hRadius, -⟩ := hDomain
    have hInput : input.rest = doubleBytes radius ++ suffix := hRadius.circleBytes ▸ hInput
    apply (InputChannel.read_succeeds (doubleCodec_trips radius) hInput hRoom).onSecond.onFirst.bind
    intro read middle hRead
    obtain ⟨⟨held, input'⟩, store'⟩ := middle
    obtain ⟨⟨⟨rfl, hRest⟩, -⟩, rfl⟩ := hRead
    exact ⟨.target, ((withRadius read held, input'), store'), rfl, rfl,
      ⟨read, hRadius, hasRadius_withRadius read held⟩, hRest, World.Keeps.refl _ _⟩
  rawCopies := by
    intro x store v input suffix out _ hDomain hInput _ _
    obtain ⟨radius, hRadius, -⟩ := hDomain
    have hLength : (circleBytes v).length = 8 := by rw [hRadius.circleBytes, length_doubleBytes]
    apply (OutputChannel.move_succeeds out hLength hInput).onFirst.mono
    intro _ last hMoved
    obtain ⟨⟨hRest, hOut⟩, rfl⟩ := hMoved
    exact ⟨hRest, hOut, World.Keeps.refl _ _⟩
  writesSome := by
    intro x store v _ hDomain
    obtain ⟨radius, hRadius, -⟩ := hDomain
    have hLength : ((world property).bytes x v).length = 8 := by
      exact (congrArg List.length hRadius.circleBytes).trans (length_doubleBytes radius)
    exact List.ne_nil_of_length_pos (by omega)
  measures := fun _ _ _ => Action.pure_succeeds ⟨rfl, World.Keeps.refl _ _⟩
  hasLength := by
    intro _ x store v _ hDomain
    obtain ⟨radius, hRadius, -⟩ := hDomain
    have hLength : ((world property).bytes x v).length = 8 := by
      exact (congrArg List.length hRadius.circleBytes).trans (length_doubleBytes radius)
    rw [hLength]
    rfl
  length_ne_zero := (by decide : (8 : Int) ≠ 0)
  length_lt := (by decide : (8 : Int) < 0x7fffffff)

theorem described : (contract ofAny).Described () () [] fun _ => True where
  takes := fun _ _ => rfl
  id_le := (by decide : (sampleId "CircleSerializerSnapshot").length ≤ Width.w32.maximum)
  payload_le := Nat.zero_le _
  emptyType := fun _ _ => rfl
  writes := fun store => ⟨(), ({}, store), rfl, rfl, rfl⟩
  reads := fun _ made store _ => ⟨(), _, rfl, rfl, rfl, rfl⟩
  restore := rfl
  typeName := fun _ _ _ _ => rfl

theorem configured : (contract ofAny).Configured () () where
  duplicate := fun _ _ => rfl
  equals := fun _ _ _ _ => rfl
  resolve := fun _ _ => .inl rfl

theorem world_wrappable {property : BitVec 64 → Prop} {registry : Registry Store A}
    (hRegistered : (contract ofAny).Registered registry (sampleId "CircleSerializerSnapshot") fun _ => True) :
    (world property).Wrappable (contract ofAny) registry ((contract ofAny).framed () []) :=
  World.ofObjects_wrappable described hRegistered configured (world_handles property)

end CircleSerializer

end SerializerContract
