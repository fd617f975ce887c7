import SerializerContract.Proofs.Conformance.Codec
import SerializerContract.Proofs.Conformance.Objects
import SerializerContract.Suite.Bench

/-! Plain serializers of numbers conform. They remember nothing, and write four bytes for each number. -/
namespace SerializerContract

namespace NumberSerializer

/-- What is known of plain serializers of numbers. They remember nothing, so it is known in every state. -/
def world : World Store NumberSerializer NumberSnapshot ValueType.int32.Val where
  valid _ := True
  live x _ := x.config = .plain
  alike _ _ _ := True
  describes n _ _ := n = .plain
  domain _ := True
  like v w := v = w
  bytes _ v := wordBytes v
  length := 4
  room := Bytes.longest

/-- Numbers have no state that could be lost. -/
theorem world_keeps (before after : Store) : world.Keeps before after :=
  ⟨id, fun _ => id, fun _ _ => id, fun _ _ => id⟩

variable {A : Type} {ofAny : A → Option NumberSnapshot} {x : NumberSerializer}

/-- A plain serializer works as its codec does. -/
theorem operations_of_plain (h : x.config = .plain) : (contract ofAny).operations x = plain := by
  change x.operations = plain
  rw [operations, h]

/-- A number is written as its four bytes. -/
theorem world_serializes : world.Serializes (contract ofAny) := by
  intro x state v out hLive _ _
  rw [operations_of_plain hLive]
  apply (Operations.ofCodec_serialize_succeeds (wordCodec_trips v) out).mono
  intro _ last hWritten
  exact ⟨hWritten.1, world_keeps _ _⟩

/-- A number is read from its four bytes. -/
theorem world_deserializes : world.Deserializes (contract ofAny) := by
  intro x state v input suffix hLive _ hInput hRoom
  rw [operations_of_plain hLive]
  apply (Operations.ofCodec_deserialize_succeeds (wordCodec_trips v) hInput hRoom).mono
  intro w last hRead
  exact ⟨hRead.1.1.symm, hRead.1.2, world_keeps _ _⟩

theorem world_readsIntoTarget : world.ReadsIntoTarget (contract ofAny) := by
  intro x state v target input suffix hLive _ hInput hRoom
  rw [operations_of_plain hLive]
  apply (Operations.readIntoTarget_succeeds (wordCodec_trips v) hInput hRoom target).mono
  intro returned last hRead
  exact ⟨hRead.1, hRead.2.1.symm, hRead.2.2.1, world_keeps _ _⟩

/-- Four bytes are copied without being read. -/
theorem world_rawCopies : world.RawCopies (contract ofAny) := by
  intro x state v input suffix out hLive _ hInput _ _
  rw [operations_of_plain hLive]
  apply (OutputChannel.move_succeeds out (length_wordBytes v) hInput).onFirst.mono
  intro _ last hMoved
  exact ⟨hMoved.1.1, hMoved.1.2, world_keeps _ _⟩

theorem world_writesOnly : world.WritesOnly (contract ofAny) := by
  intro x state v out last hLive hWritten
  rw [operations_of_plain hLive] at hWritten
  obtain ⟨hOut, -⟩ := (Operations.ofCodec_serialize_succeeds (wordCodec_trips v) out).of_outcome hWritten
  exact ⟨trivial, hOut, world_keeps _ _⟩

theorem world_handles : world.Handles (contract ofAny) where
  like_trans := fun _ _ _ => Eq.trans
  domain_like := fun _ _ _ _ => trivial
  creates := by
    intro x state hLive
    rw [operations_of_plain hLive]
    exact Action.pure_succeeds ⟨rfl, rfl, world_keeps _ _⟩
  copies := by
    intro x state v hLive _
    rw [operations_of_plain hLive]
    exact Action.pure_succeeds ⟨rfl, world_keeps _ _⟩
  copiesInto := by
    intro x state v target hLive _
    rw [operations_of_plain hLive]
    exact ⟨.target, (v, state), rfl, rfl, rfl, world_keeps _ _⟩
  serializes := world_serializes
  deserializes := world_deserializes
  readsIntoTarget := world_readsIntoTarget
  rawCopies := world_rawCopies
  writesSome := fun _ _ v _ _ =>
    List.ne_nil_of_length_pos (Nat.lt_of_lt_of_eq (by decide) (length_wordBytes v).symm)
  measures := by
    intro x state hLive
    rw [operations_of_plain hLive]
    exact Action.pure_succeeds ⟨rfl, world_keeps _ _⟩
  hasLength := fun _ _ _ v _ _ => congrArg Int.ofNat (length_wordBytes v)
  length_ne_zero := by decide
  length_lt := by decide

/-- A registry holds a factory of the snapshots of plain serializers. -/
def Registered (ofAny : A → Option NumberSnapshot) (registry : Registry Store A) : Prop :=
  ∀ state, ((contract ofAny).instantiate registry (NumberSnapshot.id .plain)).Succeeds state
    fun made _ => made = .plain

/-- An id is short enough to be written. -/
theorem length_id_le : ((contract ofAny).snapshotId .plain).length ≤ Width.w32.maximum := by
  have hShort : (NumberSnapshot.id .plain).length ≤ Width.w32.maximum := by decide
  exact hShort

theorem world_writesSnapshots :
    world.WritesSnapshots (contract ofAny) ((contract ofAny).framed .plain []) := by
  intro n x state out h
  obtain rfl := h
  have hPayload : ((contract ofAny).writePayload .plain).Succeeds ({}, state) fun _ last =>
      last.1.data = [] ∧ last.2 = state := ⟨(), ({}, state), rfl, rfl, rfl⟩
  apply ((contract ofAny).writeSnapshot_succeeds (· = state) length_id_le hPayload).mono
  intro _ last hWritten
  exact ⟨hWritten.1, world_keeps _ _⟩

theorem world_readsSnapshots {registry : Registry Store A} (hRegistered : Registered ofAny registry) :
    world.ReadsSnapshots (contract ofAny) registry ((contract ofAny).framed .plain []) := by
  intro n x state input suffix _ hInput hLength
  apply ((contract ofAny).readSnapshot_succeeds (fun read _ => read = .plain) hInput hLength length_id_le
    (Nat.zero_le _) ?_).mono
  · intro read last hRead
    exact ⟨hRead.1, hRead.2, world_keeps _ _⟩
  · apply (hRegistered state).mono
    intro made last hMade
    rw [hMade]
    exact ⟨(), _, rfl, rfl, rfl⟩

theorem world_rereadsSnapshots {registry : Registry Store A} (hRegistered : Registered ofAny registry) :
    world.RereadsSnapshots (contract ofAny) registry :=
  World.rereadsSnapshots ((contract ofAny).length_framed_le length_id_le (Nat.zero_le _))
    world_writesSnapshots (world_readsSnapshots hRegistered)

theorem snapshot_of_plain (h : x.config = .plain) : (contract ofAny).snapshot x = pure (some .plain) := by
  change x.snapshot = _
  rw [snapshot, h]

theorem world_restorable : world.Restorable (contract ofAny) where
  snapshots := by
    intro x state hLive
    rw [snapshot_of_plain hLive]
    exact Action.pure_succeeds ⟨.plain, rfl, rfl, world_keeps _ _⟩
  restores := by
    intro n x state h hLive
    obtain rfl := h
    refine ⟨some _, _, rfl, _, rfl, ⟨rfl, ?_, trivial⟩, world_keeps _ _⟩
    change (typeName _).text = (typeName x).text
    rw [typeName, typeName, hLive]
  compares := by
    refine ⟨fun _ _ _ => id, fun x y state hLive hLive' _ => ⟨true, state, ?_, rfl, world_keeps _ _⟩⟩
    change (equals x y).outcome state = _
    rw [equals, hLive, hLive']
    rfl

theorem world_resolves : world.Resolves (contract ofAny) := by
  intro n x y state h _ _
  obtain rfl := h
  exact ⟨.asIs, state, rfl, world_keeps _ _, .inl rfl⟩

/-- A plain serializer is its own duplicate. -/
theorem world_duplicates : world.Duplicates (contract ofAny) := by
  intro x state hLive
  refine ⟨some x, state, ?_, x, rfl, hLive, trivial, world_keeps _ _⟩
  change (duplicate x).outcome state = _
  rw [duplicate, hLive]
  rfl

/-- Plain serializers of numbers keep the whole contract, in every state. -/
theorem world_conforms {registry : Registry Store A} (hRegistered : Registered ofAny registry) :
    world.Conforms (contract ofAny) registry fun _ => true := {
  world_handles, world_restorable with
  deserializesInto := world_readsIntoTarget.deserializesInto
  duplicates := world_duplicates
  registers := by
    intro n x state h
    obtain rfl := h
    apply (hRegistered state).mono
    intro made last hMade
    rw [hMade]
    exact ⟨rfl, world_keeps _ _⟩
  rereadsSnapshots := world_rereadsSnapshots hRegistered
  resolves := world_resolves }

/-- Plain serializers of numbers conform to the contract, also inside a wrapper. -/
theorem world_wrappable {registry : Registry Store A} (hRegistered : Registered ofAny registry) :
    world.Wrappable (contract ofAny) registry ((contract ofAny).framed .plain []) :=
  { world_conforms hRegistered with
    valid := fun _ => trivial
    keeps := fun _ _ _ => world_keeps _ _
    readsIntoTarget := world_readsIntoTarget
    writesSnapshots := world_writesSnapshots
    readsSnapshots := world_readsSnapshots hRegistered
    room := rfl }

/-! ## A suite for plain serializers -/

/-- A registry of the snapshots of plain serializers. -/
def plainRegistry : Registry Store Family.AnySnapshot :=
  Registry.register {} (NumberSnapshot.id .plain)
    (RegistryEntry.always (some ⟨.number, NumberSnapshot.plain⟩))

theorem plainRegistry_registered : Registered (Family.snapshotOf .number) plainRegistry := by
  intro state
  have hFind : plainRegistry.find (NumberSnapshot.id .plain) =
      some (RegistryEntry.always (some ⟨.number, NumberSnapshot.plain⟩)) :=
    List.lookup_cons_self
  refine Contract.instantiate_succeeds _ hFind ?_
  exact Action.pure_succeeds ⟨_, _, rfl, rfl, rfl⟩

/-- A suite that makes a new plain serializer for every check. -/
def plainSuite (samples : List (BitVec 32)) (options : RunOptions) :
    Suite (contract (Family.snapshotOf .number)) where
  fixture := {
    createSerializer := do return some (← Object.make .plain)
    length := 4
    samples := samples
    registry := pure plainRegistry }
  checker := {}
  registry := plainRegistry
  options := options

/-- Numbers are written as four bytes each. -/
theorem length_stream (x : NumberSerializer) (samples : List ValueType.int32.Val) :
    (world.stream x samples).length = 4 * samples.length := by
  induction samples with
  | nil => rfl
  | cons v rest ih =>
      have hFirst : (world.bytes x v).length = 4 := length_wordBytes v
      rw [World.stream_cons, List.length_append, ih, hFirst, List.length_cons]
      omega

theorem plainSuite_supplied {samples : List (BitVec 32)} (options : RunOptions)
    (hRoom : 4 * samples.length < Bytes.longest) : world.Supplies (plainSuite samples options) where
  creates := fun state _ => ⟨some _, _, rfl, _, rfl, rfl, world_keeps _ _⟩
  length := rfl
  samples := fun _ _ => trivial
  compares := by
    intro v w _ h
    obtain rfl := h
    have hSame : Scalar.int32.same v v = true := beq_self_eq_true (α := BitVec 32) v
    change Except.ok (Scalar.int32.isNaN v && Scalar.int32.isNaN v || Scalar.int32.same v v) = .ok true
    rw [hSame, Bool.or_true]
  room := fun x _ _ => Nat.lt_of_le_of_lt (Nat.le_of_eq (length_stream x samples)) hRoom

theorem plainSuite_afforded {samples : List (BitVec 32)} {options : RunOptions}
    (hSamples : samples ≠ []) (hUsable : options.isUsable = true)
    (hWorkers : Duplication.reserve options.workers = .ok ())
    (hChannels : OutputChannel.reserve options.capacity = .ok ()) :
    world.Affords (plainSuite samples options) :=
  ⟨hUsable, hSamples, hWorkers, hChannels, fun _ _ => Action.pure_succeeds (world_keeps _ _)⟩

end NumberSerializer

end SerializerContract
