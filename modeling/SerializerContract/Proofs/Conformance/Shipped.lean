import SerializerContract.Proofs.Checker
import SerializerContract.Proofs.Conformance.Geometry
import SerializerContract.Proofs.Conformance.Numbers
import SerializerContract.Proofs.Conformance.Optional
import SerializerContract.Proofs.Conformance.Suite
import SerializerContract.Proofs.Conformance.Text
import SerializerContract.Proofs.Suite.Bench

/-! The serializers of the library conform, and so do wrappers around them to any depth. Every wrapper adds
to the snapshot more than it adds to the length, so a snapshot that can be written belongs to a serializer
whose length can be reported. -/
namespace SerializerContract

/-- The serializers of the library, each with the length that it reports. A wrapper pads null to the length
of what it wraps, or not at all. -/
inductive Shipped : Family → Int → Type where
  | number : Shipped .number 4
  | text (config : TextConfig) : Shipped .text variableLength
  | numbers : Shipped .numbers variableLength
  | point : Shipped .point 16
  | circle : Shipped .circle 8
  | nullable {f : Family} {length : Int} (inner : Shipped f length) (padding : Nat)
      (padded : padding = 0 ∨ (padding : Int) = length) : Shipped (.nullable f) (Nullable.length padding)

namespace Shipped

variable {f : Family} {length : Int}

/-- A coordinate or a radius that is not a NaN. -/
def IsNumber (v : BitVec 64) : Prop := Scalar.float64.isNaN v = false

/-- What is known of these serializers. Points and circles are about coordinates and radii that are not
NaN, texts and lists about lengths that their count field can hold. -/
def world : {f : Family} → {length : Int} → Shipped f length → World Store f.Serializer f.Snapshot f.Value
  | _, _, number => NumberSerializer.world
  | _, _, text config => TextSerializer.world config
  | _, _, numbers => NumbersSerializer.world .plain
  | _, _, point => PointSerializer.world fun v => IsNumber v.x ∧ IsNumber v.y
  | _, _, circle => CircleSerializer.world IsNumber
  | _, _, nullable inner padding _ => inner.world.optional padding

/-- The bytes of the snapshot; that of a wrapper contains the one of what it wraps. -/
def snapshotBytes : {f : Family} → {length : Int} → Shipped f length → Bytes
  | _, _, number => Family.number.contract.framed NumberSnapshot.plain []
  | _, _, text config => Family.text.contract.framed config (TextSerializer.payloadOf config)
  | _, _, numbers => Family.numbers.contract.framed NumbersKind.plain []
  | _, _, point => Family.point.contract.framed () []
  | _, _, circle => Family.circle.contract.framed () []
  | .nullable f, _, nullable inner padding _ =>
    World.nestedBytes f.contract (Family.snapshotOf (.nullable f)) padding inner.snapshotBytes

/-- A registry makes empty snapshots for the serializer and for everything that it wraps. -/
def Registered (registry : Registry Store Family.AnySnapshot) : {f : Family} → {length : Int} →
    Shipped f length → Prop
  | _, _, number =>
    Family.number.contract.Registered registry (NumberSnapshot.id .plain) (· = NumberSnapshot.plain)
  | _, _, text config =>
    Family.text.contract.Registered registry (sampleId config.snapshotIdent)
      fun made : TextConfig => made.snapshotIdent = config.snapshotIdent
  | _, _, numbers =>
    Family.numbers.contract.Registered registry (NumbersSerializer.snapshotId .plain) (· = NumbersKind.plain)
  | _, _, point => Family.point.contract.Registered registry (sampleId "PointSerializerSnapshot") fun _ => True
  | _, _, circle => Family.circle.contract.Registered registry (sampleId "CircleSerializerSnapshot")
    fun _ => True
  | .nullable f, _, nullable inner _ _ => Registered registry inner ∧
    (Family.nullable f).contract.Registered registry
      ((Family.nullable f).contract.snapshotId ({} : WrapperSnapshot f.Snapshot)) fun _ => True

/-- The comparators of the types that have no equality of their own. -/
def comparators : {f : Family} → {length : Int} → Shipped f length → List Registration
  | _, _, number | _, _, text _ | _, _, numbers => []
  | _, _, point => [⟨.point, Comparator.ofBool fun a b =>
      Comparator.doubleSame a.x b.x && Comparator.doubleSame a.y b.y⟩]
  | _, _, circle => [⟨.circle, Comparator.ofBool Comparator.doubleSame⟩]
  | _, _, nullable inner _ _ => inner.comparators

theorem world_length (s : Shipped f length) : s.world.length = length := by
  cases s <;> rfl

/-! ## The contract -/

theorem length_snapshotBytes_nullable (inner : Shipped f length) (padding : Nat)
    (padded : padding = 0 ∨ (padding : Int) = length) :
    inner.snapshotBytes.length + 16 ≤ (nullable inner padding padded).snapshotBytes.length := by
  have hLength : (nullable inner padding padded).snapshotBytes.length = _ + 16 + inner.snapshotBytes.length :=
    World.length_nestedBytes
  omega

/-- A wrapper is longer than what it wraps by one byte at most, and its snapshot by many. -/
theorem length_le_snapshotBytes (s : Shipped f length) : 16 * length ≤ s.snapshotBytes.length + 256 := by
  induction s with
  | number | point | circle => omega
  | numbers | text config =>
      have hVariable : variableLength = -1 := rfl
      omega
  | nullable inner padding padded ih =>
      have hLength : Nullable.length padding ≤ padding + 1 := by
        unfold Nullable.length
        split
        · rw [BitVec.toInt_eq_toNat_bmod, BitVec.toNat_ofNat, Int.bmod_def]
          omega
        · have hVariable : variableLength = -1 := rfl
          omega
      have hNested := inner.length_snapshotBytes_nullable padding padded
      omega

/-- A serializer of the library keeps the contract at every level of its wrappers. -/
theorem wrappable {registry : Registry Store Family.AnySnapshot} (s : Shipped f length)
    (hRegistered : s.Registered registry) (hFits : s.snapshotBytes.length ≤ Width.w32.maximum) :
    s.world.Wrappable f.contract registry s.snapshotBytes := by
  induction s with
  | number =>
      have hNumber : NumberSerializer.Registered (Family.snapshotOf .number) registry := fun store =>
        (hRegistered store).mono fun _ _ hMade => hMade.1
      exact NumberSerializer.world_wrappable hNumber
  | text config => exact TextSerializer.world_wrappable hRegistered
  | numbers => exact NumbersSerializer.world_wrappable hRegistered
  | point => exact PointSerializer.world_wrappable hRegistered
  | circle => exact CircleSerializer.world_wrappable hRegistered
  | nullable inner padding padded ih =>
      have hLength := inner.length_le_snapshotBytes
      have hNested := inner.length_snapshotBytes_nullable padding padded
      have hInner : inner.snapshotBytes.length ≤ Width.w32.maximum := by omega
      have hPadding : (padding : Int) + 1 < 0x7fffffff := by
        have hMaximum : Width.w32.maximum = 0xffffffff := rfl
        omega
      rw [← inner.world_length] at padded
      exact World.optional_wrappable (ih hRegistered.1 hInner) padded hPadding hFits hRegistered.2

/-! ## Deep equality -/

theorem find_optional (s : Shipped f length) (t : ValueType) :
    (Checker.registerAll {} s.comparators).find (.optional t) = none := by
  induction s with
  | number | text config | numbers => rfl
  | point =>
      have hOther : ValueType.point ≠ .optional t := nofun
      exact Checker.find_register_of_ne hOther _
  | circle =>
      have hOther : ValueType.circle ≠ .optional t := nofun
      exact Checker.find_register_of_ne hOther _
  | nullable inner padding padded ih => exact ih

/-- Circles are compared by their radii, wherever they are. -/
theorem equals_circle {checker : Checker} {v w : CircleSerializer.Value} {radius : BitVec 64}
    (hFind : checker.find .circle = some (Comparator.ofBool (t := .circle) Comparator.doubleSame))
    (hPointer : checker.find .shapePointer = none) (hFirst : CircleSerializer.HasRadius v radius)
    (hSecond : CircleSerializer.HasRadius w radius) (hNumber : IsNumber radius) :
    checker.equals .shapePointer v w = .ok true := by
  obtain ⟨place, rfl⟩ := hFirst.eq_circle
  obtain ⟨other, rfl⟩ := hSecond.eq_circle
  have hSame : Comparator.doubleSame radius radius = true := Comparator.doubleSame_self hNumber
  rw [Checker.equals, Checker.orElse_of_find hPointer]
  let shape : Shape := ⟨⟨"Samples", "Circle"⟩, .circle, radius⟩
  have hDynamic : checker.find (ValueType.shape.dynamic shape).type =
      some (Comparator.ofBool (t := .circle) Comparator.doubleSame) := hFind
  change checker.pointeeEqual .shape (checker.equals .shape) shape shape = _
  refine (if_pos rfl).trans ((dif_pos rfl).trans ?_)
  rw [hDynamic]
  exact congrArg Except.ok hSame

/-- Everything that is as good as a sample deeply equals it. -/
theorem compares (s : Shipped f length) (v w : f.Value) (hDomain : s.world.domain v)
    (hLike : s.world.like v w) :
    (Checker.registerAll {} s.comparators).equals f.type v w = .ok true := by
  induction s with
  | number =>
      obtain rfl : v = w := hLike
      exact (Checker.equals_int32 v v).trans (Checker.decide_self (α := BitVec 32) v)
  | text config =>
      obtain rfl : v = w := hLike
      exact (Checker.equals_string v v).trans (Checker.decide_self (α := Bytes) v)
  | numbers =>
      obtain rfl : v = w := hLike
      exact (Checker.equals_int64s v v).trans (Checker.decide_self (α := List (BitVec 64)) v)
  | point =>
      obtain rfl : v = w := hLike
      have hX : Comparator.doubleSame v.x v.x = true := Comparator.doubleSame_self hDomain.1
      have hY : Comparator.doubleSame v.y v.y = true := Comparator.doubleSame_self hDomain.2
      change (Checker.register {} .point _).equals .point v v = _
      rw [Checker.equals_of_find (Checker.find_register {} .point _)]
      change Except.ok (Comparator.doubleSame v.x v.x && Comparator.doubleSame v.y v.y) = _
      rw [hX, hY]
      rfl
  | circle =>
      obtain ⟨radius, hRadius, hNumber⟩ := hDomain
      obtain ⟨other, hFirst, hSecond⟩ := hLike
      obtain rfl := hRadius.unique hFirst
      have hOther : ValueType.circle ≠ .shapePointer := nofun
      exact equals_circle (Checker.find_register {} .circle _) (Checker.find_register_of_ne hOther _) hFirst
        hSecond hNumber
  | nullable inner padding padded ih =>
      exact Checker.equals_optional (inner.find_optional _) hLike fun x y hSome hLike =>
        ih x y (hDomain x hSome) hLike

/-! ## The suite -/

/-- A fixture that is about a serializer of the library: what it hands out, declares and registers, and
that the system grants what the options ask for. -/
structure Tests (s : Shipped f length) (fixture : Fixture f.contract) (options : RunOptions) : Prop where
  creates : ∀ store, fixture.createSerializer.Succeeds store fun created last =>
    ∃ x, created = some x ∧ s.world.live x last ∧ store.Grows last
  length : fixture.length = length
  samples_ne : fixture.samples ≠ []
  samples : ∀ v ∈ fixture.samples, s.world.domain v
  accepts : fixture.acceptsInstance = fun _ => true
  comparators : fixture.registrations = s.comparators
  registers : ∀ store, fixture.registry.Succeeds store fun registry _ => s.Registered registry
  /-- The snapshot is short enough for the length field in front of it. -/
  fits : s.snapshotBytes.length ≤ Width.w32.maximum
  /-- There is room for all samples in one channel, and for one more byte. -/
  room : ∀ x, (s.world.stream x fixture.samples).length < Bytes.longest
  usable : options.isUsable = true
  workers : Duplication.reserve options.workers = .ok ()
  channels : OutputChannel.reserve options.capacity = .ok ()
  threads : ∀ store, fixture.startThread.Succeeds store fun _ last => store.Grows last

variable {s : Shipped f length} {fixture : Fixture f.contract} {options : RunOptions}
    {registry : Registry Store Family.AnySnapshot}

theorem Tests.supplies (h : s.Tests fixture options)
    (hWrappable : s.world.Wrappable f.contract registry s.snapshotBytes) :
    s.world.Supplies ⟨fixture, Checker.registerAll {} fixture.registrations, registry, options⟩ where
  creates := by
    intro store _
    apply (h.creates store).mono
    intro created last hCreated
    obtain ⟨x, hSome, hLive, hGrows⟩ := hCreated
    exact ⟨x, hSome, hLive, hWrappable.keeps store last hGrows⟩
  length := h.length.trans s.world_length.symm
  samples := h.samples
  compares := by
    intro v w hDomain hLike
    change (Checker.registerAll {} fixture.registrations).equals f.type v w = _
    rw [h.comparators]
    exact s.compares v w hDomain hLike
  room := fun x _ _ => Nat.lt_of_lt_of_eq (h.room x) hWrappable.room.symm

theorem Tests.affords (h : s.Tests fixture options)
    (hWrappable : s.world.Wrappable f.contract registry s.snapshotBytes) :
    s.world.Affords ⟨fixture, Checker.registerAll {} fixture.registrations, registry, options⟩ where
  usable := h.usable
  samples := h.samples_ne
  workers := h.workers
  channels := h.channels
  threads := fun store _ => (h.threads store).mono fun _ last => hWrappable.keeps store last

/-- The description of the serializer, and of everything that it wraps. -/
def blueprint : {f : Family} → {length : Int} → Shipped f length → Blueprint f
  | _, _, number => .number .plain
  | _, _, text config => .text config
  | _, _, numbers => .numbers .plain
  | _, _, point => .point
  | _, _, circle => .circle
  | _, _, nullable inner padding _ => .padded inner.blueprint padding

theorem keeps_of_grows (s : Shipped f length) {before after : Store} (h : before.Grows after) :
    s.world.Keeps before after := by
  induction s with
  | number => exact NumberSerializer.world_keeps before after
  | text config => exact World.ofObjects_keeps h
  | numbers => exact World.ofObjects_keeps h
  | point => exact World.ofObjects_keeps h
  | circle => exact World.ofObjects_keeps h
  | nullable inner padding padded ih => exact ih.optional

/-- Whatever is described is built. -/
theorem build_succeeds (s : Shipped f length) (store : Store) :
    s.blueprint.build.Succeeds store fun created last =>
      ∃ x, created = some x ∧ s.world.live x last ∧ store.Grows last := by
  have hMade {κ : Type} (config : κ) : (do return some (← Object.make config) : Action Store _).Succeeds store
      fun created last => ∃ x : Object κ, created = some x ∧ (x.config = config ∧ x.id < last.cells.length) ∧
        store.Grows last := by
    apply (Object.build_succeeds config store).mono
    intro created last hCreated
    obtain ⟨x, hSome, hNew⟩ := hCreated
    exact ⟨x, hSome, ⟨hNew.config, hNew.id_lt⟩, hNew.grows⟩
  induction s with
  | number =>
      apply (hMade NumberKind.plain).mono
      intro created last hCreated
      obtain ⟨x, hSome, hLive, hGrows⟩ := hCreated
      exact ⟨x, hSome, hLive.1, hGrows⟩
  | text config => exact hMade config
  | numbers => exact hMade NumbersKind.plain
  | point => exact hMade ()
  | circle => exact hMade ()
  | nullable inner padding padded ih =>
      apply ih.bind
      intro created middle hCreated
      obtain ⟨x, rfl, hLive, hGrows⟩ := hCreated
      apply (Wrapper.make_succeeds x padding middle).bind
      intro made last hWrapped
      obtain ⟨hConfig, hLast⟩ := hWrapped
      have hInner := (inner.keeps_of_grows hLast).live x hLive
      exact Action.pure_succeeds ⟨made, rfl, World.optional_live hConfig hInner, hGrows.trans hLast⟩

/-- Numbers wrapped twice, each time padded to the length of what is wrapped. -/
def twiceWrapped : Shipped (.nullable (.nullable .number)) (Nullable.length 5) :=
  .nullable (.nullable .number 4 (.inr rfl)) 5 (.inr rfl)

/-- A fixture that makes a new twice wrapped serializer for every check. -/
def twiceWrappedBench : Bench (.nullable (.nullable .number)) where
  blueprints := [twiceWrapped.blueprint]
  length := 6
  samples := [none, some none, some (some (7 : BitVec 32))]
  entries := [.snapshot ⟨.number, NumberSnapshot.plain⟩,
    .snapshot ⟨.nullable .number, ({} : WrapperSnapshot NumberSnapshot)⟩,
    .snapshot ⟨.nullable (.nullable .number), ({} : WrapperSnapshot (WrapperSnapshot NumberSnapshot))⟩]

theorem twiceWrapped_tests : twiceWrapped.Tests twiceWrappedBench.fixture {} where
  creates := by
    intro store
    exact Bench.createSerializer_succeeds rfl (twiceWrapped.build_succeeds _)
  length := rfl
  samples_ne := List.cons_ne_nil _ _
  samples := fun _ _ _ _ _ _ => trivial
  accepts := rfl
  comparators := rfl
  registers := by
    intro store
    refine ⟨_, store, rfl, ⟨?_, ?_⟩, ?_⟩
    · intro later
      apply Contract.instantiate_succeeds
      · exact (Registry.find_register_of_ne _ _ (by decide)).trans
          ((Registry.find_register_of_ne _ _ (by decide)).trans (Registry.find_register _ _))
      · exact Action.pure_succeeds ⟨_, _, rfl, rfl, rfl, Nat.le_refl _⟩
    · intro later
      apply Contract.instantiate_succeeds
      · exact (Registry.find_register_of_ne _ _ (by decide)).trans (Registry.find_register _ _)
      · exact Action.pure_succeeds ⟨_, _, rfl, rfl, trivial, Nat.le_refl _⟩
    · intro later
      apply Contract.instantiate_succeeds
      · exact Registry.find_register _ _
      · exact Action.pure_succeeds ⟨_, _, rfl, rfl, trivial, Nat.le_refl _⟩
  fits := by decide +kernel
  room := fun _ => (by decide : 18 < Bytes.longest)
  usable := rfl
  workers := rfl
  channels := rfl
  threads := fun store => (Bench.startThread_succeeds rfl store).mono fun _ last hStarted =>
    hStarted ▸ Nat.le_refl _

end Shipped

end SerializerContract
