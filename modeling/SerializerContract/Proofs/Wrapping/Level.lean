import SerializerContract.Nullable.Contract
import SerializerContract.Proofs.Conformance.Nullability
import SerializerContract.Proofs.Reading.Optional

/-! One level of wrapping. A wrapper writes a flag in front of what it wraps, and in place of null a padding that is
as long as what it wraps writes. So it adds one byte to what is written, and to what is read back. -/
namespace SerializerContract

theorem OutputChannel.appended_inj {out : OutputChannel} {bytes other : Bytes} :
    out.appended bytes = out.appended other ↔ bytes = other := by
  simp [appended]

namespace Operations

variable {σ α : Type}

/-- Whatever is written successfully takes so many bytes. -/
def Appends (operations : Operations σ α) (n : Nat) : Prop :=
  ∀ v out state later last, (operations.serialize v).outcome (out, state) = (.ok (), (later, last)) →
    ∃ bytes : Bytes, bytes.length = n ∧ later = out.appended bytes

/-- Whenever the length is asked, the same one is reported. -/
def AlwaysReports (operations : Operations σ α) (length : Int) : Prop :=
  ∀ state, ∃ last, operations.length.outcome state = (.ok length, last)

theorem AlwaysReports.reports {operations : Operations σ α} {length : Int} (h : operations.AlwaysReports length) :
    Nullable.Reports (fun _ => True) operations.length length := fun state _ =>
  let ⟨last, hReported⟩ := h state
  ⟨length, last, hReported, rfl, trivial⟩

/-- These bytes are what is written for some value, at some time. -/
def Writes (operations : Operations σ α) (bytes : Bytes) : Prop :=
  ∃ v out state last, (operations.serialize v).outcome (out, state) = (.ok (), (out.appended bytes, last))

/-- What was written is read back, up to its end. -/
def ReadsOwn (operations : Operations σ α) : Prop :=
  ∀ bytes, operations.Writes bytes → ∀ past suffix state, ∃ v last,
    operations.deserialize.outcome (⟨past, bytes ++ suffix⟩, state) = (.ok v, (⟨past ++ bytes, suffix⟩, last))

/-- What was written is read back into any reuse target, up to its end. -/
def ReadsOwnInto (operations : Operations σ α) : Prop :=
  ∀ bytes, operations.Writes bytes → ∀ past suffix reuse state, ∃ returned held last,
    operations.deserializeInto.outcome ((reuse, ⟨past, bytes ++ suffix⟩), state) =
      (.ok returned, ((held, ⟨past ++ bytes, suffix⟩), last))

/-- What was written is copied without decoding, up to its end. -/
def CopiesOwn (operations : Operations σ α) : Prop :=
  ∀ bytes, operations.Writes bytes → ∀ past suffix out state, ∃ later last,
    operations.rawCopy.outcome ((⟨past, bytes ++ suffix⟩, out), state) =
      (.ok (), ((⟨past ++ bytes, suffix⟩, later), last))

theorem Appends.length_eq {operations : Operations σ α} {n : Nat} {bytes : Bytes} (h : operations.Appends n)
    (hWrites : operations.Writes bytes) : bytes.length = n := by
  obtain ⟨v, out, state, last, hWritten⟩ := hWrites
  obtain ⟨other, hLength, hSame⟩ := h v out state _ last hWritten
  rwa [OutputChannel.appended_inj.mp hSame]

end Operations

namespace Nullable

variable {σ α : Type} {inner : Operations σ α} {padding n : Nat} {bytes front : Bytes}
    {out later : OutputChannel} {state last : σ}

open SerializerContract.World (nullBytes length_nullBytes)

theorem appended_of_serialize_none
    (h : ((operations inner padding).serialize none).outcome (out, state) = (.ok (), (later, last))) :
    later = out.appended (nullBytes padding) := by
  obtain ⟨⟨flagged, state'⟩, hFlag, hSkip⟩ := Action.then_ok_iff.mp h
  obtain ⟨rfl, rfl⟩ := appended_of_writeFlag hFlag
  rw [OutputChannel.appended_of_skip (Action.onFirst_ok_iff.mp hSkip).1, OutputChannel.appended_appended]
  rfl

/-- Null is written whenever its padding has room behind its flag. -/
theorem serialize_none_outcome (hRoom : padding ≤ OutputChannel.capacity - (out.size + 1))
    (hMemory : padding ≤ Bytes.mostMemory) (state : σ) :
    ((operations inner padding).serialize none).outcome (out, state) =
      (.ok (), (out.appended (nullBytes padding), state)) := by
  have hSize : (out.appended [flagByte true]).size = out.size + 1 := by simp [OutputChannel.size_appended]
  have hSkip : (OutputChannel.skip padding).outcome (out.appended [flagByte true]) =
      (.ok (), (out.appended [flagByte true]).appended (Bytes.zeros padding)) :=
    OutputChannel.skip_ok_iff.mpr ⟨⟨hSize ▸ hRoom, hMemory⟩, rfl⟩
  rw [OutputChannel.appended_appended] at hSkip
  refine Action.then_ok_iff.mpr ⟨(out.appended [flagByte true], state), ?_, ?_⟩
  · exact Action.onFirst_ok_iff.mpr ⟨writeFlag_outcome true out, rfl⟩
  · exact Action.onFirst_ok_iff.mpr ⟨hSkip, rfl⟩

/-- A value is written as its flag and what the inner serializer writes. -/
theorem serialize_some_outcome (v : α) (out : OutputChannel) (state : σ) :
    ((operations inner padding).serialize (some v)).outcome (out, state) =
      (inner.serialize v).outcome (out.appended [flagByte false], state) := by
  have hFlag : (Action.onFirst (σ := σ) (writeFlag false)).outcome (out, state) =
      (.ok (), (out.appended [flagByte false], state)) :=
    Action.onFirst_ok_iff.mpr ⟨writeFlag_outcome false out, rfl⟩
  change (do Action.onFirst (writeFlag false); inner.serialize v : Action (OutputChannel × σ) Unit).outcome _ = _
  rw [Action.outcome_bind, hFlag]

/-- A flag is added to what is wrapped; null is padded to the same length. -/
theorem operations_appends (h : inner.Appends n) : (operations inner n).Appends (n + 1) := by
  intro v out state later last hWritten
  cases v with
  | none => exact ⟨nullBytes n, by simp [length_nullBytes, Nat.add_comm], appended_of_serialize_none hWritten⟩
  | some u =>
      have hValue := (serialize_some_outcome u out state).symm.trans hWritten
      obtain ⟨bytes, hLength, rfl⟩ := h u _ state later last hValue
      exact ⟨flagByte false :: bytes, by simp [hLength], by rw [OutputChannel.appended_appended]; rfl⟩

/-- What a wrapper writes is null, or a flag and what is written inside. -/
theorem operations_writes_cases (h : inner.Appends n) (hWrites : (operations inner padding).Writes bytes) :
    bytes = nullBytes padding ∨ ∃ front, bytes = flagByte false :: front ∧ inner.Writes front := by
  obtain ⟨v, out, state, last, hWritten⟩ := hWrites
  cases v with
  | none => exact .inl (OutputChannel.appended_inj.mp (appended_of_serialize_none hWritten))
  | some u =>
      have hValue := (serialize_some_outcome u out state).symm.trans hWritten
      obtain ⟨front, -, hSame⟩ := h u _ state _ last hValue
      refine .inr ⟨front, ?_, u, _, state, last, hSame ▸ hValue⟩
      rw [OutputChannel.appended_appended] at hSame
      exact OutputChannel.appended_inj.mp hSame

/-- Wrapping a serializer that reads its own bytes gives one that does. -/
theorem operations_readsOwn (hAppends : inner.Appends n) (h : inner.ReadsOwn) :
    (operations inner padding).ReadsOwn := by
  intro bytes hWrites past suffix state
  obtain rfl | ⟨front, rfl, hInner⟩ := operations_writes_cases hAppends hWrites
  · have hNull : (operations inner padding).Accepts (Option.Rel fun _ _ => True) (nullBytes padding) none :=
      operations_accepts_null List.length_replicate
    exact ⟨none, state, hNull.deserialize past suffix state⟩
  · obtain ⟨v, last, hRead⟩ := h front hInner (past ++ [flagByte false]) suffix state
    refine ⟨some v, last, (deserialize_outcome false past (front ++ suffix) state).trans ?_⟩
    rw [List.append_cons past (flagByte false) front]
    exact Action.bind_ok_iff.mpr ⟨v, _, hRead, rfl⟩

/-- The same for reading into a target. -/
theorem operations_readsOwnInto (hAppends : inner.Appends n) (h : inner.ReadsOwn) (hInto : inner.ReadsOwnInto) :
    (operations inner padding).ReadsOwnInto := by
  intro bytes hWrites past suffix reuse state
  obtain rfl | ⟨front, rfl, hInner⟩ := operations_writes_cases hAppends hWrites
  · have hNull : (operations inner padding).Accepts (Option.Rel fun _ _ => True) (nullBytes padding) none :=
      operations_accepts_null List.length_replicate
    obtain ⟨held, -, hRead⟩ := hNull.deserializeInto past suffix reuse state
    exact ⟨.target, held, state, hRead⟩
  · have hAdvance : (⟨past, flagByte false :: (front ++ suffix)⟩ : InputChannel).advanceTo (front ++ suffix) =
        ⟨past ++ [flagByte false], front ++ suffix⟩ :=
      InputChannel.advanceTo_append past [flagByte false] (front ++ suffix)
    rw [List.append_cons past (flagByte false) front]
    -- A value in the reuse target is lent to be read into; otherwise a new one is read.
    cases reuse with
    | none =>
        obtain ⟨v, last, hRead⟩ := h front hInner (past ++ [flagByte false]) suffix state
        exact ⟨.target, some v, last, deserializeInto_new_outcome rfl (hAdvance ▸ hRead)⟩
    | some old =>
        obtain ⟨returned, held, last, hRead⟩ := hInto front hInner (past ++ [flagByte false]) suffix old state
        exact ⟨.target, some held, last, deserializeInto_lent_outcome rfl (hAdvance ▸ hRead)⟩

/-- The same for raw copies. -/
theorem operations_copiesOwn (hAppends : inner.Appends n) (h : inner.CopiesOwn) :
    (operations inner padding).CopiesOwn := by
  intro bytes hWrites past suffix out state
  obtain rfl | ⟨front, rfl, hInner⟩ := operations_writes_cases hAppends hWrites
  · have hNull : (operations inner padding).Accepts (Option.Rel fun _ _ => True) (nullBytes padding) none :=
      operations_accepts_null List.length_replicate
    exact ⟨_, state, hNull.rawCopy past suffix out state⟩
  · obtain ⟨later, last, hCopied⟩ := h front hInner (past ++ [flagByte false]) suffix
      (out.appended [flagByte false]) state
    refine ⟨later, last, (rawCopy_outcome false past (front ++ suffix) out state).trans ?_⟩
    rw [List.append_cons past (flagByte false) front]
    exact hCopied

end Nullable

end SerializerContract
