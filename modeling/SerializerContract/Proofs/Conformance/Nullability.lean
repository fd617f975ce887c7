import SerializerContract.Proofs.Conformance.Snapshots
import SerializerContract.Proofs.Conformance.Wrapper

/-! The nullability check. The wrapper of a conforming serializer writes null and every value with the
length that it reports, reads them back and copies them. -/
namespace SerializerContract

namespace World

/-- The length of a padded wrapper, if the wrapped length is fixed. -/
def wrappedLength (length : Int) : Int := if 0 < length then length + 1 else variableLength

/-- A length that was reported as it is wanted is the wrapped length. -/
theorem length_toNat {length : Int} (hLength : length < 0x7fffffff) :
    Nullable.length length.toNat = wrappedLength length := by
  unfold Nullable.length wrappedLength
  by_cases hPositive : 0 < length
  · have hNat : 0 < length.toNat := by omega
    have hSame : BitVec.ofNat 32 (length.toNat + 1) = BitVec.ofInt 32 (length + 1) := by
      rw [← BitVec.ofInt_natCast, Int.natCast_add, Int.toNat_of_nonneg (Int.le_of_lt hPositive)]
      rfl
    have hRange : -2 ^ 31 ≤ length + 1 ∧ length + 1 < 2 ^ 31 := by omega
    rw [if_pos hNat, if_pos hPositive, hSame, BitVec.toInt_ofInt_eq_self (by decide) hRange.1 hRange.2]
  · have hZero : ¬ 0 < length.toNat := by omega
    rw [if_neg hZero, if_neg hPositive]

end World

namespace Nullable

open SerializerContract.World (wrappedLength)

variable {σ α : Type} {holds : σ → Prop} {length : Int} {state : σ}

/-- The same length is reported as long as something holds, and that holds afterwards. -/
def Reports (holds : σ → Prop) (action : Action σ Int) (length : Int) : Prop :=
  ∀ state, holds state → action.Succeeds state fun reported last => reported = length ∧ holds last

/-- A fixed length is also the padding; otherwise there is none. -/
theorem paddingFor_succeeds {inner : Operations σ α} (hReports : Reports holds inner.length length)
    (hState : holds state) : (paddingFor inner true).Succeeds state fun padding last =>
      checkPadding padding = .ok length.toNat ∧ holds last := by
  apply (hReports state hState).bind
  intro length middle hMeasured
  obtain ⟨rfl, hMiddle⟩ := hMeasured
  by_cases hPositive : length > 0
  · rw [if_pos hPositive]
    apply (hReports middle hMiddle).mono
    intro length last hMeasured
    obtain ⟨rfl, hLast⟩ := hMeasured
    have hNonnegative : ¬ length < 0 := by omega
    exact ⟨if_neg hNonnegative, hLast⟩
  · rw [if_neg hPositive]
    have hZero : length.toNat = 0 := by omega
    exact Action.pure_succeeds ⟨by rw [hZero]; rfl, hMiddle⟩

/-- The length that is expected of a wrapper is found from what the wrapped serializer reports. -/
theorem expectedLength_succeeds {action : Action σ Int} (hReports : Reports holds action length)
    (hLength : length < 0x7fffffff) (hState : holds state) :
    (expectedLength action).Succeeds state fun expected last =>
      expected = wrappedLength length ∧ holds last := by
  apply (hReports state hState).bind
  intro length middle hMeasured
  obtain ⟨rfl, hMiddle⟩ := hMeasured
  unfold wrappedLength
  by_cases hPositive : length > 0
  · rw [if_pos hPositive, if_pos hPositive]
    apply (hReports middle hMiddle).bind
    intro length last hMeasured
    obtain ⟨rfl, hLast⟩ := hMeasured
    have hRange : -2 ^ 31 ≤ length + 1 ∧ length + 1 < 2 ^ 31 := by omega
    exact Action.pure_succeeds ⟨BitVec.toInt_ofInt_eq_self (by decide) hRange.1 hRange.2, hLast⟩
  · rw [if_neg hPositive, if_neg hPositive]
    exact Action.pure_succeeds ⟨rfl, hMiddle⟩

end Nullable

namespace World

variable {σ A S N : Type} {t : ValueType} {C : Contract σ A t S N} {W : World σ S N t.Val}
    {suite : Suite C} {state : σ} {x : S}

/-- The length that is reported is always the one of the world, as long as nothing known is lost. -/
def Reports (W : World σ S N t.Val) (length : Action σ Int) (state : σ) : Prop :=
  Nullable.Reports (W.Keeps state) length W.length

/-- A live serializer reports one length. -/
theorem Measures.reports (h : W.Measures C) (hLive : W.live x state) :
    W.Reports (C.operations x).length state :=
  fun later hLater => (h x later (hLater.live x hLive)).mono fun _ _ hMeasured =>
    ⟨hMeasured.1, hLater.trans hMeasured.2⟩

/-- What is as long as a flag and a value of fixed length has the expected size. -/
theorem hasWrongSize_wrapped {length : Int} {out : OutputChannel} {n : Nat} (hSize : out.size = 1 + n)
    (hFixed : 0 < length → (n : Int) = length) : Nullable.hasWrongSize (wrappedLength length) out = false := by
  unfold Nullable.hasWrongSize wrappedLength
  by_cases hPositive : 0 < length
  · have hSame : (out.size : Int) = length + 1 := by
      rw [hSize, ← hFixed hPositive]
      omega
    simp [hPositive, hSame]
  · simp [hPositive, variableLength]

/-! ## Null -/

/-- Null makes its round trip through any wrapper. -/
theorem probeNull_succeeds (inner : Operations σ t.Val) {length : Int} (hLength : length < 0x7fffffff) :
    (Nullable.probeNull (Nullable.operations inner length.toNat) (wrappedLength length)).Succeeds
      state fun _ last => last = state := by
  have hPadding : length.toNat < 0x7fffffff := by omega
  have hMemory : length.toNat ≤ Bytes.mostMemory := by
    unfold Bytes.mostMemory
    omega
  have hRoom : OutputChannel.size {} + (nullBytes length.toNat).length ≤ OutputChannel.capacity := by
    rw [length_nullBytes, OutputChannel.size_empty, OutputChannel.capacity, Bytes.longest]
    omega
  apply (serialize_none_succeeds inner hRoom hMemory).withLocal.bind
  intro result _ h
  obtain ⟨_, out⟩ := result
  obtain ⟨rfl, rfl⟩ := h
  have hSize : (OutputChannel.appended {} (nullBytes length.toNat)).size = 1 + length.toNat := by
    rw [OutputChannel.size_appended, length_nullBytes, OutputChannel.size_empty, Nat.zero_add]
  have hFixed : 0 < length → (length.toNat : Int) = length := by omega
  have hRight := hasWrongSize_wrapped hSize hFixed
  simp only [hRight, Bool.false_eq_true, if_false]
  have hInput : (InputChannel.ofBytes (nullBytes length.toNat)).rest = nullBytes length.toNat ++ [] :=
    (List.append_nil _).symm
  apply (deserialize_none_succeeds inner hInput).withLocal.bind
  intro result last h
  obtain ⟨_, input⟩ := result
  obtain ⟨rfl, hEnd, rfl⟩ := h
  simp only [InputChannel.available_of_rest hEnd]
  exact Action.pure_succeeds rfl

/-! ## Samples -/

theorem holds_succeeds {v u : t.Val} (hEqual : suite.checker.equals t v u = .ok true) :
    (Action.ofExcept (Nullable.holds suite.checker v (some u))).Succeeds state fun equal last =>
      equal = true ∧ last = state :=
  Action.ofExcept_succeeds hEqual

section Probe

variable (hJudges : W.Judges suite) (hTrans : ∀ u v w, W.like u v → W.like v w → W.like u w)
    (hClosed : ∀ v w, W.domain v → W.like v w → W.domain w) (hSerializes : W.Serializes C)
    (hDeserializes : W.Deserializes C) (hCopies : W.Copies C) (hCopiesInto : W.CopiesInto C)
    (hFixed : W.HasLength)

include hJudges hTrans hClosed hSerializes hDeserializes hCopies hCopiesInto hFixed

/-- A wrapped sample has the expected size, is read back, and is copied into whatever was copied before. -/
theorem probeSample_succeeds {v : t.Val} (hSample : v ∈ suite.fixture.samples) (hLive : W.live x state)
    (reuse : Option t.Val) (padding : Nat) :
    (Nullable.probeSample suite.checker (Nullable.operations (C.operations x) padding)
      (wrappedLength W.length) reuse v).Succeeds state fun _ last => W.Keeps state last := by
  have hDomain := hJudges.samples v hSample
  have hRoom : (W.valueBytes x v).length ≤ W.room := by
    have hLess := hJudges.room x state v hLive hSample
    rw [length_valueBytes]
    omega
  apply (serialize_some_succeeds padding hSerializes hLive hDomain
    (by rwa [OutputChannel.size_empty, Nat.zero_add])).withLocal.bind
  intro result written h
  obtain ⟨_, out⟩ := result
  obtain ⟨rfl, hWritten⟩ := h
  have hSize : (OutputChannel.appended {} (W.valueBytes x v)).size = 1 + (W.bytes x v).length := by
    rw [OutputChannel.size_appended, length_valueBytes, OutputChannel.size_empty, Nat.zero_add]
  have hRight := hasWrongSize_wrapped hSize fun hPositive =>
    hFixed hPositive x state v hLive hDomain
  simp only [hRight, Bool.false_eq_true, if_false]
  have hInput : (InputChannel.ofBytes (W.valueBytes x v)).rest = W.valueBytes x v ++ [] :=
    (List.append_nil _).symm
  apply (deserialize_some_succeeds padding hDeserializes (hWritten.live x hLive) hDomain hInput
    hRoom).withLocal.bind
  intro result read h
  obtain ⟨_, input⟩ := result
  obtain ⟨u, rfl, hLike, hEnd, hRead⟩ := h
  have hRead := hWritten.trans hRead
  apply (holds_succeeds (hJudges.compares v u hDomain hLike)).bind
  intro _ _ h
  obtain ⟨rfl, rfl⟩ := h
  simp only [InputChannel.available_of_rest hEnd]
  apply (copyInto_some_succeeds hCopies hCopiesInto (hRead.live x hLive) (hClosed v u hDomain hLike)
    reuse).withLocal.bind
  intro result last h
  obtain ⟨_, held⟩ := result
  obtain ⟨rfl, w, rfl, hLike', hLast⟩ := h
  have hSame := hJudges.compares v w hDomain (hTrans v u w hLike hLike')
  apply (holds_succeeds hSame).bind
  intro _ _ h
  obtain ⟨rfl, rfl⟩ := h
  exact Action.pure_succeeds (hRead.trans hLast)

/-- All samples of a conforming serializer are kept through a wrapper, into fresh targets and reused ones. -/
theorem probeSamples_succeeds (samples : List t.Val)
    (hSamples : ∀ v ∈ samples, v ∈ suite.fixture.samples) (hLive : W.live x state)
    (reuse : Option t.Val) (padding : Nat) :
    (Nullable.probeSamples suite.checker (Nullable.operations (C.operations x) padding)
      (wrappedLength W.length) reuse samples).Succeeds state fun _ last => W.Keeps state last := by
  induction samples generalizing reuse state with
  | nil => exact Action.pure_succeeds (Keeps.refl W state)
  | cons v rest ih =>
      apply (probeSample_succeeds hJudges hTrans hClosed hSerializes hDeserializes hCopies hCopiesInto
        hFixed (hSamples v List.mem_cons_self) hLive reuse padding).bind
      intro held middle hMiddle
      exact (ih (fun w hw => hSamples w (List.mem_cons_of_mem v hw)) (hMiddle.live x hLive) held).mono
        fun _ _ => hMiddle.trans

/-- The probe is about a duplicate; of the serializer itself it only asks the length. -/
theorem probe_succeeds (hMeasures : W.Measures C) (hLength : W.length < 0x7fffffff) {post : σ → Prop}
    (hDuplicate : (C.duplicate x).Succeeds state fun duplicate last =>
      ∃ y, duplicate = some y ∧ W.live y last ∧ W.Reports (C.operations x).length last ∧ post last) :
    (Nullable.probe C suite.checker x suite.fixture.samples).Succeeds state fun _ last =>
      ∃ duplicated, post duplicated ∧ W.Keeps duplicated last := by
  apply hDuplicate.bind
  intro _ duplicated h
  obtain ⟨y, rfl, hLive, hReports, hPost⟩ := h
  apply (Nullable.paddingFor_succeeds (hMeasures.reports hLive) (Keeps.refl W duplicated)).bind
  intro padding padded h
  obtain ⟨hPadding, hPadded⟩ := h
  apply (Action.ofExcept_succeeds hPadding).bind
  intro _ _ h
  obtain ⟨rfl, rfl⟩ := h
  apply (Nullable.expectedLength_succeeds hReports hLength hPadded).bind
  intro _ measured h
  obtain ⟨rfl, hInner⟩ := h
  have hReported : (Nullable.operations (C.operations y) W.length.toNat).length.Succeeds measured
      fun reported last => reported = wrappedLength W.length ∧ last = measured :=
    Action.pure_succeeds ⟨length_toNat hLength, rfl⟩
  apply hReported.bind
  intro _ _ h
  obtain ⟨rfl, rfl⟩ := h
  simp only [ne_eq, not_true_eq_false, if_false]
  apply (probeNull_succeeds (C.operations y) hLength).bind
  intro _ _ h
  obtain rfl := h
  exact (probeSamples_succeeds hJudges hTrans hClosed hSerializes hDeserializes hCopies hCopiesInto
    hFixed _ (fun _ => id) (hInner.live y hLive) none _).mono fun _ _ hLast =>
      ⟨duplicated, hPost, hInner.trans hLast⟩

omit hJudges in
/-- A conforming serializer passes the check of nullability, if its length leaves room for a flag. -/
theorem checkNullability_passes (hSupplies : W.Supplies suite) (hMeasures : W.Measures C)
    (hDuplicates : W.Duplicates C) (hLength : W.length < 0x7fffffff) (hValid : W.valid state) :
    suite.checkNullability.Succeeds state fun _ last => W.Keeps state last := by
  apply (hSupplies.getSerializer_succeeds _ hValid).bind
  intro x served h
  obtain ⟨hLive, hServed⟩ := h
  have hDuplicate := (hDuplicates x served hLive).mono fun _ last hDuplicated =>
    let ⟨y, hSame, hLiveDuplicate, _, hKeeps⟩ := hDuplicated
    (⟨y, hSame, hLiveDuplicate, hMeasures.reports (hKeeps.live x hLive), hKeeps⟩ :
      ∃ y, _ = some y ∧ W.live y last ∧ W.Reports (C.operations x).length last ∧ W.Keeps served last)
  refine (Suite.reported_succeeds (probe_succeeds hSupplies.judges hTrans hClosed hSerializes hDeserializes
    hCopies hCopiesInto hFixed hMeasures hLength hDuplicate)).mono fun _ _ h => ?_
  obtain ⟨duplicated, hDuplicated, hLast⟩ := h
  exact hServed.trans (hDuplicated.trans hLast)

end Probe

end World

end SerializerContract
