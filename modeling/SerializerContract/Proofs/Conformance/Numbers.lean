import SerializerContract.Proofs.Conformance.Codec
import SerializerContract.Proofs.Conformance.Objects
import SerializerContract.Sample.Numbers

/-! Serializers of lists of numbers conform. They write by way of a scratch channel, but each of them has a
cell of its own, so what another one leaves in its channel is never read. -/
namespace SerializerContract

namespace Codec

theorem encodeAll_number (order : ByteOrder) (n : Nat) (v : List (BitVec (8 * n))) :
    encodeAll (number order n) v = .done (v.flatMap fun digit => order.toBytes n digit.toNat) := by
  induction v with
  | nil => rfl
  | cons first rest ih =>
      rw [encodeAll, ih, List.flatMap_cons]
      rfl

end Codec

namespace Store

/-- The store after a channel has been left in a cell. -/
def withScratch (store : Store) (id : Nat) (scratch : OutputChannel) : Store :=
  { store with cells := store.cells.modify id fun cell => { cell with scratch := scratch } }

theorem length_withScratch (store : Store) (id : Nat) (scratch : OutputChannel) :
    (store.withScratch id scratch).cells.length = store.cells.length :=
  List.length_modify ..

theorem cell_withScratch_self {store : Store} {id : Nat} (h : id < store.cells.length) (scratch : OutputChannel) :
    (store.withScratch id scratch).cell id = { store.cell id with scratch := scratch } :=
  cell_modify h _

theorem cell_withScratch_of_ne (store : Store) {id other : Nat} (h : other ≠ id) (scratch : OutputChannel) :
    (store.withScratch id scratch).cell other = store.cell other := by
  simp [withScratch, cell, List.getD_eq_getElem?_getD, Ne.symm h]

end Store

namespace NumbersSerializer

open Operations (countField length_countField)

/-- The bytes of a list of numbers: its length, and eight bytes for each number. -/
def numbersBytes (v : List (BitVec 64)) : Bytes :=
  countField v.length ++ v.flatMap fun n => ByteOrder.network.toBytes 8 n.toNat

theorem length_body (v : List (BitVec 64)) :
    (v.flatMap fun n => ByteOrder.network.toBytes 8 n.toNat).length = v.length * 8 := by
  induction v with
  | nil => rfl
  | cons first rest ih =>
      rw [List.flatMap_cons, List.length_append, ih, ByteOrder.length_toBytes, List.length_cons]
      omega

theorem length_numbersBytes (v : List (BitVec 64)) : (numbersBytes v).length = 4 + v.length * 8 := by
  rw [numbersBytes, List.length_append, length_countField, length_body]

theorem codec_trips {v : List (BitVec 64)} (h : v.length ≤ Width.w32.maximum) :
    codec.Trips v (numbersBytes v) := by
  have hEncode : codec.encode v = .done (numbersBytes v) := by
    have hField : Codec.encodeLength .network v.length = .done (countField v.length) := if_pos h
    change (Codec.encodeLength .network v.length).andThen (Codec.encodeAll (.number .network 8) v) = _
    rw [hField, Codec.encodeAll_number]
    rfl
  have hWrites : codec.Writes (.counted .network (.number .network 8) id) fun _ => True :=
    fun _ _ hComplete => Codec.encodeLength_andThen_encodeAll (Codec.number_writes .network 8)
      (fun _ _ => trivial) rfl hComplete
  exact (Codec.contiguous_reads .network (Codec.number_reads .network 8) (by decide)).trips hWrites trivial
    hEncode

variable {A : Type} {ofAny : A → Option NumbersKind} {kind : NumbersKind}

/-- What is known of serializers of lists of numbers of one kind. -/
def world (kind : NumbersKind) : World Store NumbersSerializer NumbersKind ValueType.int64s.Val :=
  .ofObjects kind kind (fun _ _ => True) (fun v : List (BitVec 64) => v.length ≤ Width.w32.maximum) Eq
    numbersBytes
    variableLength

theorem world_keeps {before after : Store} (h : before.Grows after) : (world kind).Keeps before after :=
  World.ofObjects_keeps h

/-! ## Values -/

/-- A list is written as it is encoded, or not at all, whatever the scratch channel held before; what was encoded
is left in the channel. -/
theorem writeThroughScratch_emits (v : List (BitVec 64)) (out : OutputChannel) {id : Nat} {store : Store}
    (hCell : id < store.cells.length) :
    (writeThroughScratch id v).outcome (out, store) =
      if (codec.encode v).complete then
        (.ok (), (out.appended (codec.encode v).bytes, store.withScratch id ⟨(codec.encode v).bytes⟩))
      else (.error OutputChannel.tooLarge, (out, store.withScratch id ⟨(codec.encode v).bytes⟩)) := by
  have hStored : (Action.onSecond (Store.onScratch id do
      OutputChannel.clear
      OutputChannel.write codec v)).outcome (out, store) =
        ((if (codec.encode v).complete then .ok () else .error OutputChannel.tooLarge),
          (out, store.withScratch id ⟨(codec.encode v).bytes⟩)) := rfl
  rw [writeThroughScratch, Action.outcome_bind, hStored]
  by_cases hComplete : (codec.encode v).complete = true
  · have hHeld := congrArg Cell.scratch (Store.cell_withScratch_self hCell ⟨(codec.encode v).bytes⟩)
    rw [if_pos hComplete, if_pos hComplete]
    change (Except.ok (), (out.appended ((store.withScratch id ⟨(codec.encode v).bytes⟩).cell id).scratch.data, _)) = _
    rw [hHeld]
  · rw [if_neg hComplete, if_neg hComplete]

/-- A list is written whole, whatever the scratch channel held before. -/
theorem writeThroughScratch_succeeds {v : List (BitVec 64)} {bytes : Bytes} (hTrips : codec.Trips v bytes)
    {id : Nat} {store : Store} (hCell : id < store.cells.length) (out : OutputChannel) :
    (writeThroughScratch id v).Succeeds (out, store) fun _ last =>
      last.1 = out.appended bytes ∧ store.Grows last.2 := by
  have hEmits := writeThroughScratch_emits v out hCell
  rw [hTrips.encode] at hEmits
  have hGrows : store.Grows (store.withScratch id ⟨bytes⟩) :=
    Nat.le_of_eq (Store.length_withScratch store id ⟨bytes⟩).symm
  exact ⟨(), _, hEmits, rfl, hGrows⟩

theorem length_le_of_writeThroughScratch {v : List (BitVec 64)} {id : Nat} {out : OutputChannel}
    {store : Store} {last : OutputChannel × Store}
    (h : (writeThroughScratch id v).outcome (out, store) = (.ok (), last)) :
    v.length ≤ Width.w32.maximum := by
  obtain ⟨middle, hStored, -⟩ := Action.then_ok_iff.mp h
  have hFirst : ((do OutputChannel.clear; OutputChannel.write codec v : Action OutputChannel Unit).outcome
      (store.cell id).scratch).1 = .ok () := congrArg Prod.fst (Action.onSecond_ok_iff.mp hStored).1
  obtain ⟨_, -, hWritten⟩ := Action.then_ok_iff.mp (Prod.ext hFirst rfl)
  exact Codec.length_le_of_complete (OutputChannel.complete_of_write (congrArg Prod.fst hWritten))

/-- The kinds differ only in how they copy into a reuse target. -/
theorem operations_eq (x : NumbersSerializer) : (contract ofAny).operations x =
    { plain x.id with copyInto := ((contract ofAny).operations x).copyInto } := by
  obtain ⟨id, _ | _⟩ := x <;> rfl

theorem world_creates : (world kind).Creates (contract ofAny) fun _ => true := by
  intro x store _
  rw [operations_eq]
  exact Action.pure_succeeds ⟨rfl, rfl, World.Keeps.refl _ _⟩

theorem world_copies : (world kind).Copies (contract ofAny) := by
  intro x store v _ _
  rw [operations_eq]
  exact Action.pure_succeeds ⟨rfl, World.Keeps.refl _ _⟩

theorem world_measures : (world kind).Measures (contract ofAny) := by
  intro x store _
  rw [operations_eq]
  exact Action.pure_succeeds ⟨rfl, World.Keeps.refl _ _⟩

theorem world_serializes : (world kind).Serializes (contract ofAny) := by
  intro x store v out hLive hDomain _
  rw [operations_eq]
  apply (writeThroughScratch_succeeds (codec_trips hDomain) hLive.2 out).mono
  intro _ last hWritten
  exact ⟨hWritten.1, world_keeps hWritten.2⟩

theorem world_writesOnly : (world kind).WritesOnly (contract ofAny) := by
  intro x store v out last hLive hWritten
  rw [operations_eq] at hWritten
  have hDomain := length_le_of_writeThroughScratch hWritten
  obtain ⟨hOut, hGrows⟩ :=
    (writeThroughScratch_succeeds (codec_trips hDomain) hLive.2 out).of_outcome hWritten
  exact ⟨hDomain, hOut, world_keeps hGrows⟩

theorem world_deserializes : (world kind).Deserializes (contract ofAny) := by
  intro x store v input suffix _ hDomain hInput hRoom
  rw [operations_eq]
  apply (InputChannel.read_succeeds (codec_trips hDomain) hInput hRoom).onFirst.mono
  intro w last hRead
  obtain ⟨⟨rfl, hRest⟩, rfl⟩ := hRead
  exact ⟨rfl, hRest, World.Keeps.refl _ _⟩

theorem world_readsIntoTarget : (world kind).ReadsIntoTarget (contract ofAny) := by
  intro x store v target input suffix _ hDomain hInput hRoom
  rw [operations_eq]
  apply (Operations.readIntoTarget_succeeds (codec_trips hDomain) hInput hRoom target).mono
  intro returned last hRead
  obtain ⟨rfl, hHeld, hRest, rfl⟩ := hRead
  exact ⟨rfl, hHeld.symm, hRest, World.Keeps.refl _ _⟩

theorem world_rawCopies : (world kind).RawCopies (contract ofAny) := by
  intro x store v input suffix out _ hDomain hInput hRoom _
  have hAccepted : Operations.anyLength (List.length (α := BitVec 64) v) = .ok () := rfl
  rw [operations_eq]
  apply (Operations.rawCopyCounted_succeeds hAccepted hDomain (length_body v) hInput hRoom out).onFirst.mono
  intro _ last hCopied
  obtain ⟨⟨hRest, hOut⟩, rfl⟩ := hCopied
  exact ⟨hRest, hOut, World.Keeps.refl _ _⟩

theorem world_writesSome : (world kind).WritesSome := by
  intro x store v _ _
  have hLength : ((world kind).bytes x v).length = 4 + List.length (α := BitVec 64) v * 8 :=
    length_numbersBytes v
  apply List.ne_nil_of_length_pos
  omega

/-- The plain kind copies into reuse targets whatever they hold. -/
theorem world_handles : (world .plain).Handles (contract ofAny) where
  like_trans := fun _ _ _ => Eq.trans
  domain_like := fun _ _ hDomain hSame => hSame ▸ hDomain
  creates := world_creates
  copies := world_copies
  copiesInto := by
    intro x store v target hLive _
    obtain ⟨id, _ | _⟩ := x
    · exact ⟨.target, (v, store), rfl, rfl, rfl, World.Keeps.refl _ _⟩
    · exact absurd hLive.1 (by decide : NumbersKind.stale ≠ NumbersKind.plain)
  serializes := world_serializes
  deserializes := world_deserializes
  readsIntoTarget := world_readsIntoTarget
  rawCopies := world_rawCopies
  writesSome := world_writesSome
  measures := world_measures
  hasLength := fun hPositive => absurd hPositive (by decide : ¬ 0 < variableLength)
  length_ne_zero := (by decide : variableLength ≠ 0)
  length_lt := (by decide : variableLength < 0x7fffffff)

/-! ## Snapshots -/

theorem described (kind : NumbersKind) : (contract ofAny).Described kind kind [] (· = kind) where
  takes := fun x hConfig => congrArg (fun config => pure (some config)) hConfig
  id_le := by
    cases kind with
    | plain => exact (by decide : (snapshotId .plain).length ≤ Width.w32.maximum)
    | stale => exact (by decide : (snapshotId .stale).length ≤ Width.w32.maximum)
  payload_le := Nat.zero_le _
  emptyType := fun made hMade => congrArg (fun kind => (snapshotType kind).text) hMade
  writes := fun store => ⟨(), ({}, store), rfl, rfl, rfl⟩
  reads := fun registry made store hMade => ⟨(), _, rfl, rfl, hMade, rfl⟩
  restore := rfl
  typeName := fun x y hConfig hConfig' =>
    congrArg (fun config => (typeName config).text) (hConfig.trans hConfig'.symm)

theorem configured : (contract ofAny).Configured .plain .plain where
  duplicate := fun _ _ => rfl
  equals := by
    intro x y hConfig hConfig'
    have hSame : (x.config == y.config) = true := by rw [hConfig, hConfig', beq_self_eq_true]
    exact congrArg pure hSame
  resolve := by
    intro y hConfig
    obtain ⟨id, _⟩ := y
    obtain rfl := hConfig
    exact .inl rfl

theorem world_wrappable {registry : Registry Store A}
    (hRegistered : (contract ofAny).Registered registry (snapshotId .plain) (· = .plain)) :
    (world .plain).Wrappable (contract ofAny) registry ((contract ofAny).framed .plain []) :=
  World.ofObjects_wrappable (described .plain) hRegistered configured world_handles

end NumbersSerializer

end SerializerContract
