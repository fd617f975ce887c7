import SerializerContract.Proofs.Checker
import SerializerContract.Proofs.Conformance.Codec
import SerializerContract.Proofs.Conformance.Objects
import SerializerContract.Proofs.Detection.Checks
import SerializerContract.Proofs.Detection.Probe
import SerializerContract.Proofs.Detection.Workers

/-! Serializers of numbers with one defect. All that a defect does to the bytes of a number is how many are
written, read, moved and reported; where these agree, the numbers agree too. -/
namespace SerializerContract

namespace Defect

/-- What is written for a number. -/
def bytes (d : Defect) (v : BitVec 32) : Bytes :=
  match d with
  | .trailingByte => wordBytes v ++ [0xAB]
  | .overlong => wordBytes v ++ [0]
  | .silent => []
  | .doubleWrite => wordBytes v ++ wordBytes v
  | _ => wordBytes v

/-- How many bytes are written for a number. -/
def emitted : Defect → Nat
  | .trailingByte | .overlong => 5
  | .silent => 0
  | .doubleWrite => 8
  | _ => 4

/-- How many bytes are read for a number. -/
def consumed : Defect → Nat
  | .greedyRead => 8
  | _ => 4

/-- How many bytes are moved for a number. -/
def moved : Defect → Nat
  | .brokenRawCopy => 3
  | _ => 4

def reported : Defect → Int
  | .wrongLength => 8
  | _ => 4

/-- A defective serializer writes as many bytes as its defect says. -/
theorem length_bytes (d : Defect) (v : BitVec 32) : (d.bytes v).length = d.emitted := by
  cases d <;> simp [bytes, emitted, length_wordBytes]

theorem length_flatMap_bytes (d : Defect) (samples : List (BitVec 32)) :
    (samples.flatMap d.bytes).length = samples.length * d.emitted := by
  induction samples with
  | nil => exact (Nat.zero_mul _).symm
  | cons v rest ih =>
      rw [List.flatMap_cons, List.length_append, d.length_bytes, ih, List.length_cons,
        Nat.succ_mul, Nat.add_comm]

/-- What is read can only be what was written if it is one number. -/
theorem emitted_eq_four {d : Defect} (h : d.emitted = d.consumed) : d.emitted = 4 ∧ d.consumed = 4 := by
  cases d <;> simp_all [emitted, consumed]

/-- A defect that writes four bytes writes the right ones. -/
theorem bytes_of_emitted {d : Defect} (h : d.emitted = 4) (v : BitVec 32) : d.bytes v = wordBytes v := by
  cases d <;> first | rfl | nomatch h

/-- Where there are enough bytes, the number comes first. -/
theorem bytes_of_consumed_le {d : Defect} (h : d.consumed ≤ d.emitted) (v : BitVec 32) :
    ∃ suffix, d.bytes v = wordBytes v ++ suffix := by
  cases d with
  | silent | greedyRead => exact absurd h (by decide)
  | trailingByte => exact ⟨[0xAB], rfl⟩
  | overlong => exact ⟨[0], rfl⟩
  | doubleWrite => exact ⟨wordBytes v, rfl⟩
  | _ => exact ⟨[], (List.append_nil _).symm⟩

end Defect

namespace NumberSerializer

variable {A : Type} {ofAny : A → Option NumberSnapshot} {d : Defect} {id : Nat} {x y : NumberSerializer}

/-! ## Operations -/

/-- A defective serializer works as its defect says. -/
theorem operations_of_defective (h : x.config = .defective d) :
    (contract ofAny).operations x = defective x.id d := by
  change x.operations = _
  rw [operations, h]

theorem defective_create : (defective id d).create = plain.create := by cases d <;> rfl

theorem defective_copy : (defective id d).copy = plain.copy := by cases d <;> rfl

theorem defective_copyInto : (defective id d).copyInto = plain.copyInto := by cases d <;> rfl

theorem defective_length : (defective id d).length = pure d.reported := by cases d <;> rfl

/-- A defect that reads four bytes reads the right ones. -/
theorem defective_deserialize (h : d.consumed = 4) : (defective id d).deserialize = plain.deserialize := by
  cases d <;> first | rfl | nomatch h

theorem defective_deserializeInto (h : d.consumed = 4) :
    (defective id d).deserializeInto = plain.deserializeInto := by
  cases d <;> first | rfl | nomatch h

theorem defective_rawCopy : (defective id d).rawCopy = Action.onFirst (OutputChannel.move d.moved) := by
  cases d <;> rfl

/-- Nothing but the bytes is changed, unless they go through a slot. -/
theorem defective_serialize (h : d ≠ .sharedScratch) (v : BitVec 32) (out : OutputChannel) (store : Store) :
    ((defective id d).serialize v).outcome (out, store) = (.ok (), (out.appended (d.bytes v), store)) := by
  have hWrite := OutputChannel.write_outcome (wordCodec_trips v)
  have hTwice : (do
      OutputChannel.write wordCodec v
      OutputChannel.write wordCodec v).outcome out = (.ok (), out.appended (wordBytes v ++ wordBytes v)) :=
    Action.then_ok_iff.mpr ⟨_, hWrite out, by rw [hWrite, OutputChannel.appended_appended]⟩
  have hTail (bytes : Bytes) : (do
      OutputChannel.write wordCodec v
      OutputChannel.writeRaw bytes).outcome out = (.ok (), out.appended (wordBytes v ++ bytes)) :=
    Action.then_ok_iff.mpr ⟨_, hWrite out,
      by rw [OutputChannel.writeRaw_outcome, OutputChannel.appended_appended]⟩
  cases d with
  | sharedScratch => exact absurd rfl h
  | trailingByte => exact Action.onFirst_ok_iff.mpr ⟨hTail [0xAB], rfl⟩
  | overlong => exact Action.onFirst_ok_iff.mpr ⟨hTail [0], rfl⟩
  | doubleWrite => exact Action.onFirst_ok_iff.mpr ⟨hTwice, rfl⟩
  | silent => exact congrArg (fun out => (Except.ok (), (out, store))) (OutputChannel.appended_nil out).symm
  | _ => exact Action.onFirst_ok_iff.mpr ⟨hWrite out, rfl⟩

theorem available_of_readSecond {v : BitVec 32} {input later : InputChannel}
    (h : readSecond.outcome input = (.ok v, later)) : input.available = later.available + 8 := by
  obtain ⟨_, middle, hFirst, hSecond⟩ := Action.bind_ok_iff.mp h
  have hFirst := InputChannel.available_of_read hFirst
  have hSecond := InputChannel.available_of_read hSecond
  omega

/-- A defective serializer takes as many bytes as its defect says. -/
theorem available_of_deserialize {v : BitVec 32} {before after : InputChannel × Store}
    (h : (defective id d).deserialize.outcome before = (.ok v, after)) :
    before.1.available = after.1.available + d.consumed := by
  obtain ⟨input, store⟩ := before
  obtain ⟨later, last⟩ := after
  by_cases hGreedy : d = .greedyRead
  · subst hGreedy
    exact available_of_readSecond (Action.onFirst_ok_iff.mp h).1
  · have hConsumed : d.consumed = 4 := by cases d <;> first | rfl | exact absurd rfl hGreedy
    rw [defective_deserialize hConsumed] at h
    rw [hConsumed]
    have hRead : (Action.onFirst (InputChannel.read wordCodec)).outcome (input, store) =
      (.ok v, (later, last)) := h
    exact InputChannel.available_of_read (Action.onFirst_ok_iff.mp hRead).1

/-- A defective serializer takes as many bytes as its defect says, into any target. -/
theorem available_of_deserializeInto {returned : Returned (BitVec 32)}
    {before after : (BitVec 32 × InputChannel) × Store}
    (h : (defective id d).deserializeInto.outcome before = (.ok returned, after)) :
    before.1.2.available = after.1.2.available + d.consumed := by
  obtain ⟨⟨target, input⟩, store⟩ := before
  obtain ⟨⟨held, later⟩, last⟩ := after
  by_cases hGreedy : d = .greedyRead
  · subst hGreedy
    obtain ⟨v, ⟨⟨kept, rest⟩, middle⟩, hRead, hPut⟩ := Action.bind_ok_iff.mp h
    have hTaken := available_of_readSecond (Action.onSecond_ok_iff.mp (Action.onFirst_ok_iff.mp hRead).1).1
    obtain ⟨-, hPut⟩ := Prod.mk.inj (Action.onFirst_ok_iff.mp hPut).1
    obtain ⟨-, rfl⟩ := Prod.mk.inj hPut
    exact hTaken
  · have hConsumed : d.consumed = 4 := by cases d <;> first | rfl | exact absurd rfl hGreedy
    rw [defective_deserializeInto hConsumed] at h
    rw [hConsumed]
    obtain ⟨_, ⟨⟨kept, rest⟩, middle⟩, hRead, hTarget⟩ := Action.bind_ok_iff.mp h
    obtain ⟨-, hTarget⟩ := Prod.mk.inj hTarget
    obtain ⟨hTarget, -⟩ := Prod.mk.inj hTarget
    obtain ⟨-, rfl⟩ := Prod.mk.inj hTarget
    exact InputChannel.available_of_readInto (Action.onFirst_ok_iff.mp hRead).1

/-- Every call transfers the bytes that the defect is about. -/
theorem operations_transfers (h : d ≠ .sharedScratch) (hConfig : x.config = .defective d) :
    ((contract ofAny).operations x).Transfers d.emitted d.consumed d.moved := by
  rw [operations_of_defective hConfig]
  refine ⟨?_, fun _ _ _ => available_of_deserialize, fun _ _ _ => available_of_deserializeInto, ?_⟩
  · intro v before after hWritten
    have hSame := (defective_serialize h v before.1 before.2).symm.trans hWritten
    have hLength : List.length (d.bytes v) = d.emitted := d.length_bytes v
    rw [← (Prod.mk.inj hSame).2, OutputChannel.size_appended, hLength]
  · intro before after hCopied
    obtain ⟨channels, store⟩ := before
    obtain ⟨later, last⟩ := after
    rw [defective_rawCopy] at hCopied
    exact OutputChannel.size_of_move (Action.onFirst_ok_iff.mp hCopied).1

end NumberSerializer

/-! ## What is known of them -/

namespace Defect

/-- What is known of serializers with one defect. Which of them are configured the same way is left open. -/
def world (d : Defect) (alike : NumberSerializer → NumberSerializer → Prop) :
    World Store NumberSerializer NumberSnapshot ValueType.int32.Val :=
  .ofObjects (.defective d) (.defective d) alike (fun _ => True) Eq d.bytes 4

/-- Serializers that equal each other. -/
def Agree (d : Defect) (x y : NumberSerializer) : Prop := d = .identity → x.id = y.id

variable {A : Type} {ofAny : A → Option NumberSnapshot} {d : Defect}
    {alike : NumberSerializer → NumberSerializer → Prop} {x : NumberSerializer}

open NumberSerializer (contract)

theorem world_keeps {before after : Store} (h : before.Grows after) : (d.world alike).Keeps before after :=
  World.ofObjects_keeps h

/-! ### Values -/

theorem world_creates : (d.world alike).Creates (contract ofAny) fun _ => true := by
  intro x store hLive
  rw [NumberSerializer.operations_of_defective hLive.1, NumberSerializer.defective_create]
  exact Action.pure_succeeds ⟨rfl, rfl, World.Keeps.refl _ store⟩

theorem world_copies : (d.world alike).Copies (contract ofAny) := by
  intro x store v hLive _
  rw [NumberSerializer.operations_of_defective hLive.1, NumberSerializer.defective_copy]
  exact Action.pure_succeeds ⟨rfl, World.Keeps.refl _ store⟩

theorem world_copiesInto : (d.world alike).CopiesInto (contract ofAny) := by
  intro x store v target hLive _
  rw [NumberSerializer.operations_of_defective hLive.1, NumberSerializer.defective_copyInto]
  exact ⟨.target, (v, store), rfl, rfl, rfl, World.Keeps.refl _ store⟩

/-- Every defect but the shared scratch writes its bytes behind what is there. -/
theorem world_serializes (h : d ≠ .sharedScratch) : (d.world alike).Serializes (contract ofAny) := by
  intro x store v out hLive _ _
  rw [NumberSerializer.operations_of_defective hLive.1]
  exact ⟨(), _, NumberSerializer.defective_serialize h v out store, rfl, World.Keeps.refl _ store⟩

/-- A defect that reads no more than it writes reads back what it wrote. -/
theorem world_readsOwn (h : d.consumed ≤ d.emitted) : (d.world alike).ReadsOwn (contract ofAny) := by
  intro x store v input hLive _ hInput hRoom
  obtain ⟨suffix, hBytes⟩ := bytes_of_consumed_le h v
  have hConsumed : d.consumed = 4 := by cases d <;> first | rfl | exact absurd h (by decide)
  rw [NumberSerializer.operations_of_defective hLive.1, NumberSerializer.defective_deserialize hConsumed]
  apply (Operations.ofCodec_deserialize_succeeds (wordCodec_trips v) (hInput.trans hBytes) hRoom).mono
  intro w last hRead
  obtain ⟨⟨rfl, -⟩, rfl⟩ := hRead
  exact ⟨rfl, World.Keeps.refl _ _⟩

/-- A defect that moves what it writes copies values raw. -/
theorem world_rawCopies (h : d.emitted = d.moved) : (d.world alike).RawCopies (contract ofAny) := by
  intro x store v input suffix out hLive _ hInput _ _
  have hLength : ((d.world alike).bytes x v).length = d.moved := (d.length_bytes v).trans h
  rw [NumberSerializer.operations_of_defective hLive.1, NumberSerializer.defective_rawCopy]
  apply (OutputChannel.move_succeeds out hLength hInput).onFirst.mono
  intro _ last hCopied
  obtain ⟨⟨hRest, hOut⟩, rfl⟩ := hCopied
  exact ⟨hRest, hOut, World.Keeps.refl _ _⟩

section Balanced

variable (h : d.emitted = d.consumed)

include h

theorem world_writesSome : (d.world alike).WritesSome := by
  intro x store v _ _
  have hLength : ((d.world alike).bytes x v).length = d.emitted := d.length_bytes v
  exact List.ne_nil_of_length_pos (by rw [hLength, (emitted_eq_four h).1]; decide)

theorem world_hasLength : (d.world alike).HasLength := by
  intro _ x store v _ _
  have hLength : ((d.world alike).bytes x v).length = d.emitted := d.length_bytes v
  rw [hLength, (emitted_eq_four h).1]
  rfl

theorem world_deserializes : (d.world alike).Deserializes (contract ofAny) := by
  intro x store v input suffix hLive _ hInput hRoom
  obtain ⟨hEmitted, hConsumed⟩ := emitted_eq_four h
  have hInput := hInput.trans (congrArg (· ++ suffix) (bytes_of_emitted hEmitted v))
  rw [NumberSerializer.operations_of_defective hLive.1, NumberSerializer.defective_deserialize hConsumed]
  apply (Operations.ofCodec_deserialize_succeeds (wordCodec_trips v) hInput hRoom).mono
  intro w last hRead
  obtain ⟨⟨rfl, hRest⟩, rfl⟩ := hRead
  exact ⟨rfl, hRest, World.Keeps.refl _ _⟩

theorem world_readsIntoTarget : (d.world alike).ReadsIntoTarget (contract ofAny) := by
  intro x store v target input suffix hLive _ hInput hRoom
  obtain ⟨hEmitted, hConsumed⟩ := emitted_eq_four h
  have hInput := hInput.trans (congrArg (· ++ suffix) (bytes_of_emitted hEmitted v))
  rw [NumberSerializer.operations_of_defective hLive.1, NumberSerializer.defective_deserializeInto hConsumed]
  apply (Operations.readIntoTarget_succeeds (wordCodec_trips v) hInput hRoom target).mono
  intro returned last hRead
  obtain ⟨rfl, hHeld, hRest, rfl⟩ := hRead
  exact ⟨rfl, hHeld.symm, hRest, World.Keeps.refl _ _⟩

end Balanced

/-- A defect that reports four bytes reports the right length. -/
theorem world_measures (h : d.reported = 4) : (d.world alike).Measures (contract ofAny) := by
  intro x store hLive
  rw [NumberSerializer.operations_of_defective hLive.1, NumberSerializer.defective_length, h]
  exact Action.pure_succeeds ⟨rfl, World.Keeps.refl _ store⟩

/-! ### Duplicates and equality -/

/-- All but two kinds of serializers are their own duplicates. -/
theorem duplicate_eq (hNull : d ≠ .nullDuplicate) (hThrowing : d ≠ .throwingDuplicate)
    (hConfig : x.config = .defective d) : (contract ofAny).duplicate x = pure (some x) := by
  change NumberSerializer.duplicate x = _
  rw [NumberSerializer.duplicate, hConfig]
  cases d <;> first | rfl | exact absurd rfl hNull | exact absurd rfl hThrowing

/-- Every defect but those of duplicates hands out a duplicate. -/
theorem world_duplicates (hNull : d ≠ .nullDuplicate) (hThrowing : d ≠ .throwingDuplicate) :
    (d.world d.Agree).Duplicates (contract ofAny) := by
  intro x store hLive
  rw [duplicate_eq hNull hThrowing hLive.1]
  exact Action.pure_succeeds ⟨x, rfl, hLive, fun _ => rfl, World.Keeps.refl _ store⟩

/-- A serializer that was never duplicated can be, once. -/
theorem throwingDuplicate_succeeds {store : Store} (hConfig : x.config = .defective .throwingDuplicate)
    (hNever : (store.cell x.id).duplicates = 0) :
    ((contract ofAny).duplicate x).Succeeds store fun duplicate last =>
      ∃ y, duplicate = some y ∧ y.config = x.config ∧ y.id < last.cells.length ∧ store.Grows last ∧
        (x.id < store.cells.length → 0 < (last.cell x.id).duplicates) := by
  change (NumberSerializer.duplicate x).Succeeds store _
  rw [NumberSerializer.duplicate, hConfig]
  let counted : Store :=
    { store with cells := store.cells.modify x.id fun cell => { cell with duplicates := cell.duplicates + 1 } }
  have hLength : counted.cells.length = store.cells.length := List.length_modify _ _ _
  have hCounted : (NumberSerializer.countDuplicate x.id).Succeeds store fun earlier last =>
      earlier = 0 ∧ last = counted := ⟨_, counted, rfl, hNever, rfl⟩
  apply hCounted.bind
  intro earlier _ hEarlier
  obtain ⟨rfl, rfl⟩ := hEarlier
  simp only [gt_iff_lt, Nat.lt_irrefl, if_false]
  apply (Object.make_succeeds (NumberKind.defective .throwingDuplicate) counted).bind
  intro y last hMade
  refine Action.pure_succeeds ⟨y, rfl, hMade.config, hMade.id_lt, ?_, ?_⟩
  · exact Nat.le_trans (Nat.le_of_eq hLength.symm) hMade.grows
  · intro hCell
    rw [hMade.others x.id (Nat.lt_of_lt_of_eq hCell hLength.symm), Store.cell_modify hCell]
    exact Nat.succ_pos _

/-- The second duplicate of this defect is never made. -/
theorem throwingDuplicate_fails {store : Store} (hConfig : x.config = .defective .throwingDuplicate)
    (hBefore : 0 < (store.cell x.id).duplicates) : ((contract ofAny).duplicate x).Fails store := by
  change (NumberSerializer.duplicate x).Fails store
  rw [NumberSerializer.duplicate, hConfig]
  have hCounted : (NumberSerializer.countDuplicate x.id).Succeeds store fun earlier _ => 0 < earlier :=
    ⟨_, _, rfl, hBefore⟩
  apply hCounted.bind_fails
  intro earlier _ hEarlier
  rw [if_pos hEarlier]
  exact (Action.throw_fails _).bind _

/-- A new serializer has a duplicate, unless there are none. -/
theorem duplicate_succeeds {store served : Store} (hNull : d ≠ .nullDuplicate)
    (hNew : x.IsNew (.defective d) store served) :
    ((contract ofAny).duplicate x).Succeeds served fun duplicate last =>
      ∃ y, duplicate = some y ∧ (d.world alike).live y last ∧ served.Grows last := by
  by_cases hThrowing : d = .throwingDuplicate
  · subst hThrowing
    apply (throwingDuplicate_succeeds hNew.config (by rw [hNew.cell])).mono
    intro duplicate last hDuplicated
    obtain ⟨y, hSome, hConfig, hLive, hGrows, -⟩ := hDuplicated
    exact ⟨y, hSome, ⟨hConfig.trans hNew.config, hLive⟩, hGrows⟩
  · rw [duplicate_eq hNull hThrowing hNew.config]
    exact Action.pure_succeeds ⟨x, rfl, ⟨hNew.config, hNew.id_lt⟩, Store.Grows.refl served⟩

/-- A duplicate has the same defect, and there are some. -/
theorem config_of_duplicate {y : NumberSerializer} {store last : Store} (hConfig : x.config = .defective d)
    (h : ((contract ofAny).duplicate x).outcome store = (.ok (some y), last)) :
    y.config = .defective d ∧ d ≠ .nullDuplicate := by
  by_cases hNull : d = .nullDuplicate
  · subst hNull
    change (NumberSerializer.duplicate x).outcome store = _ at h
    rw [NumberSerializer.duplicate, hConfig] at h
    cases h
  refine ⟨?_, hNull⟩
  by_cases hThrowing : d = .throwingDuplicate
  · subst hThrowing
    rcases Nat.eq_zero_or_pos (store.cell x.id).duplicates with hNever | hBefore
    · obtain ⟨_, _, hOutcome, z, rfl, hSame, -⟩ := throwingDuplicate_succeeds hConfig hNever
      obtain ⟨hSome, -⟩ := Prod.mk.inj (hOutcome.symm.trans h)
      obtain rfl := Option.some.inj (Except.ok.inj hSome)
      exact hSame.trans hConfig
    · exact absurd h ((throwingDuplicate_fails hConfig hBefore).not_ok _ _)
  · rw [duplicate_eq hNull hThrowing hConfig] at h
    obtain ⟨hSome, -⟩ := Prod.mk.inj h
    obtain rfl := Option.some.inj (Except.ok.inj hSome)
    exact hConfig

/-- Two serializers of one defect are equal, unless the defect compares identities. -/
theorem equals_eq {y : NumberSerializer} (hConfig : x.config = .defective d)
    (hConfig' : y.config = .defective d)
    (h : d.Agree x y) : (contract ofAny).equals x y = pure true := by
  change NumberSerializer.equals x y = _
  rw [NumberSerializer.equals, hConfig]
  cases d with
  | identity =>
      have hSame : x.isSame y = true := beq_iff_eq.mpr (h rfl)
      exact congrArg pure hSame
  | _ =>
      rw [hConfig']
      rfl

theorem world_compares : (d.world d.Agree).Compares (contract ofAny) where
  symm := fun _ _ _ hAgree hIdentity => (hAgree hIdentity).symm
  equals := by
    intro x y store hLive hLive' hAgree
    rw [equals_eq hLive.1 hLive'.1 hAgree]
    exact Action.pure_succeeds ⟨rfl, World.Keeps.refl _ store⟩

/-- An object that is equal to itself alone is told apart from every other one. -/
theorem world_distinguishes :
    (world .identity fun x y => x.id ≠ y.id).Distinguishes (contract ofAny) := by
  intro x y store hLive _ hOther
  change (NumberSerializer.equals x y).Succeeds store _
  rw [NumberSerializer.equals, hLive.1]
  exact Action.pure_succeeds (beq_eq_false_iff_ne.mpr hOther)

/-! ### Snapshots -/

/-- Every defect but the overlong snapshot is described by its snapshot. -/
theorem described (h : d ≠ .overlong) :
    (contract ofAny).Described (.defective d) (.defective d) [] (· = .defective d) where
  takes := by
    intro x hConfig
    change NumberSerializer.snapshot x = _
    rw [NumberSerializer.snapshot, hConfig]
    cases d <;> first | rfl | exact absurd rfl h
  id_le := by
    have hShort : (NumberSnapshot.id (.defective d)).length ≤ Width.w32.maximum := by cases d <;> decide
    exact hShort
  payload_le := Nat.zero_le _
  emptyType := fun _ hSame => by rw [hSame]
  writes := fun store => ⟨(), ({}, store), rfl, rfl, rfl⟩
  reads := by
    intro registry made store hSame
    obtain rfl := hSame
    exact ⟨(), _, rfl, rfl, rfl, rfl⟩
  restore := rfl
  typeName := by
    intro x y hConfig hConfig'
    change (NumberSerializer.typeName x).text = (NumberSerializer.typeName y).text
    rw [NumberSerializer.typeName, NumberSerializer.typeName, hConfig, hConfig']

/-- Every defect but the incompatible snapshot takes its own snapshot as it is. -/
theorem resolve_eq (h : d ≠ .incompatibleSnapshot) (hConfig : x.config = .defective d) :
    (contract ofAny).resolve (.defective d) x = pure .asIs := by
  change NumberSnapshot.resolve (.defective d) x = _
  rw [NumberSnapshot.resolve.eq_def]
  cases d with
  | incompatibleSnapshot => exact absurd rfl h
  | _ =>
      simp only [hConfig]
      rfl

end Defect

end SerializerContract
