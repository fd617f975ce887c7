import SerializerContract.Proofs.Detection.Transfers

/-! Byte accounting in the nullability probe. A wrapper adds one byte to what is written and to what is read,
and its padding to its length; so the probe compares the length that is reported with what is written, and
that with what is read. -/
namespace SerializerContract

namespace Nullable

variable {σ α : Type} {inner : Operations σ α} {emitted consumed moved : Nat}

theorem available_of_readFlag {isNull : Bool} {input later : InputChannel}
    (h : readFlag.outcome input = (.ok isNull, later)) : input.available = later.available + 1 := by
  obtain ⟨flag, middle, hRead, hRest⟩ := Action.bind_ok_iff.mp h
  obtain ⟨-, rfl⟩ := Prod.mk.inj hRest
  exact InputChannel.available_of_read hRead

/-- A wrapper writes a flag and what the wrapped serializer writes. -/
theorem size_of_serialize_some (padding : Nat) (h : inner.Transfers emitted consumed moved) {v : α}
    {before after : OutputChannel × σ}
    (hOutcome : (serialize inner padding (some v)).outcome before = (.ok (), after)) :
    after.1.size = before.1.size + 1 + emitted := by
  obtain ⟨middle, hFlag, hValue⟩ := Action.then_ok_iff.mp hOutcome
  obtain ⟨hFlag, -⟩ := Action.onFirst_ok_iff.mp hFlag
  rw [writeFlag_outcome] at hFlag
  have hSize : middle.1.size = before.1.size + 1 := by
    rw [← (Prod.mk.inj hFlag).2, OutputChannel.size_appended, List.length_singleton]
  have hAdded := h.serialize v middle after hValue
  omega

/-- A wrapper reads a flag and what the wrapped serializer reads. -/
theorem available_of_deserialize_some (padding : Nat) (h : inner.Transfers emitted consumed moved) {v : α}
    {before after : InputChannel × σ}
    (hOutcome : (deserialize inner padding).outcome before = (.ok (some v), after)) :
    before.1.available = after.1.available + 1 + consumed := by
  obtain ⟨isNull, middle, hFlag, hRest⟩ := Action.bind_ok_iff.mp hOutcome
  have hFirst := available_of_readFlag (Action.onFirst_ok_iff.mp hFlag).1
  cases isNull with
  | true =>
      obtain ⟨_, _, hNull⟩ := Action.then_ok_iff.mp hRest
      nomatch hNull
  | false =>
      obtain ⟨u, last, hRead, hSome⟩ := Action.bind_ok_iff.mp hRest
      obtain ⟨-, rfl⟩ := Prod.mk.inj hSome
      have hTaken := h.deserialize u middle last hRead
      omega

/-- A length that does not change is the padding if it is positive. -/
theorem paddingFor_of_fixed {reported : Int} (h : inner.length = pure reported) (hPositive : 0 < reported) :
    paddingFor inner true = pure reported := by
  simp [paddingFor, h, hPositive]

end Nullable

namespace Suite

variable {σ A S N : Type} {t : ValueType} {C : Contract σ A t S N} {checker : Checker}
    {inner : Operations σ t.Val} {emitted consumed moved padding : Nat} {state last : σ}

/-- A sample that is kept shows that as many bytes were read as written. -/
theorem emitted_eq_of_probeSample (h : inner.Transfers emitted consumed moved) {length : Int}
    (hPositive : 0 < length) {reuse reuse' : Option t.Val} {v : t.Val}
    (hOutcome : (Nullable.probeSample checker (Nullable.operations inner padding) length reuse v).outcome
      state =
      (.ok reuse', last)) : (emitted : Int) + 1 = length ∧ emitted = consumed := by
  obtain ⟨⟨_, out⟩, written, hWritten, hRest⟩ := Action.bind_ok_iff.mp hOutcome
  have hSize : out.size = 0 + 1 + emitted :=
    Nullable.size_of_serialize_some padding h (Action.withLocal_ok_iff.mp hWritten)
  obtain ⟨hRight, hRest⟩ := Action.ok_of_throw_if hRest
  have hFixed : (out.size : Int) = length := by
    simpa [Nullable.hasWrongSize, hPositive] using hRight
  obtain ⟨⟨restored, input⟩, read, hRead, hRest⟩ := Action.bind_ok_iff.mp hRest
  obtain ⟨equal, compared, hHolds, hRest⟩ := Action.bind_ok_iff.mp hRest
  obtain ⟨hSame, -⟩ := Action.ok_of_throw_if hRest
  have hSame : equal = true ∧ input.available = 0 := by simpa using hSame
  cases restored with
  | none =>
      obtain rfl := hSame.1
      nomatch hHolds
  | some u =>
      have hTaken : out.size = input.available + 1 + consumed :=
        Nullable.available_of_deserialize_some padding h (Action.withLocal_ok_iff.mp hRead)
      omega

/-- A serializer whose duplicates report a fixed length passes the probe only if they write that many bytes,
and read as many. -/
theorem emitted_eq_of_probe {x : S} {samples : List t.Val} (hSamples : samples ≠ []) {reported : Int}
    (hPositive : 0 < reported) (hBound : reported < 0x7fffffff)
    (hDuplicate : ∀ y duplicated, (C.duplicate x).outcome state = (.ok (some y), duplicated) →
      (C.operations y).Transfers emitted consumed moved ∧ (C.operations y).length = pure reported)
    (hOutcome : (Nullable.probe C checker x samples).outcome state = (.ok (), last)) :
    (emitted : Int) = reported ∧ emitted = consumed := by
  obtain ⟨duplicate, duplicated, hDuplicated, hRest⟩ := Action.bind_ok_iff.mp hOutcome
  cases duplicate with
  | none => nomatch hRest
  | some inner =>
      obtain ⟨hTransfers, hLength⟩ := hDuplicate inner duplicated hDuplicated
      obtain ⟨fixed, measured, hFixed, hRest⟩ := Action.bind_ok_iff.mp hRest
      rw [Nullable.paddingFor_of_fixed hLength hPositive] at hFixed
      obtain ⟨rfl⟩ := hFixed
      obtain ⟨padding, checked, hPadding, hRest⟩ := Action.bind_ok_iff.mp hRest
      have hNonnegative : ¬ reported < 0 := by omega
      have hPadding : Nullable.checkPadding reported = .ok padding := (Prod.mk.inj hPadding).1
      rw [Nullable.checkPadding, if_neg hNonnegative] at hPadding
      obtain rfl := Except.ok.inj hPadding
      obtain ⟨expected, _, -, hRest⟩ := Action.bind_ok_iff.mp hRest
      obtain ⟨wrapped, _, hWrapped, hRest⟩ := Action.bind_ok_iff.mp hRest
      obtain ⟨rfl⟩ := hWrapped
      obtain ⟨hExpected, hProbed⟩ := Action.ok_of_throw_if hRest
      have hLonger : expected = reported + 1 := by
        rw [← Decidable.not_not.mp hExpected, World.length_toNat hBound, World.wrappedLength, if_pos hPositive]
      subst hLonger
      obtain ⟨v, rest, rfl⟩ := List.exists_cons_of_ne_nil hSamples
      obtain ⟨probed, -, hSamples⟩ := Action.then_ok_iff.mp hProbed
      obtain ⟨reuse, sampled, hSample, -⟩ := Action.bind_ok_iff.mp hSamples
      have hBalance := emitted_eq_of_probeSample hTransfers (by omega) hSample
      omega

/-- The probe has a duplicate to wrap. -/
theorem duplicate_of_probe {x : S} {samples : List t.Val}
    (hOutcome : (Nullable.probe C checker x samples).outcome state = (.ok (), last)) :
    ∃ y duplicated, (C.duplicate x).outcome state = (.ok (some y), duplicated) := by
  obtain ⟨duplicate, duplicated, hDuplicated, hRest⟩ := Action.bind_ok_iff.mp hOutcome
  cases duplicate with
  | none => nomatch hRest
  | some y => exact ⟨y, duplicated, hDuplicated⟩

/-- A handler succeeds exactly if what it handles does. -/
theorem reported_ok_iff {α : Type} {kind : FindingKind} {property message : String} {action : Action σ α}
    {a : α} :
    (reported kind property message action).outcome state = (.ok a, last) ↔
      action.outcome state = (.ok a, last) := by
  simp only [reported, Action.outcome]
  rcases action state with ⟨failure | result, middle⟩
  · dsimp only
    split <;> simp
  · rfl

/-- A check that passes has probed what the fixture hands out. -/
theorem probe_of_checkNullability {suite : Suite C} (h : suite.checkNullability.outcome
      state = (.ok (), last)) :
    ∃ x served, suite.fixture.createSerializer.outcome state = (.ok (some x), served) ∧
      (Nullable.probe C suite.checker x suite.fixture.samples).outcome served = (.ok (), last) := by
  obtain ⟨x, served, hCreated, hProbe⟩ := Action.bind_ok_iff.mp h
  exact ⟨x, served, getSerializer_ok_iff.mp hCreated, reported_ok_iff.mp hProbe⟩

end Suite

end SerializerContract
