import SerializerContract.Proofs.Suite.Calls
import SerializerContract.Proofs.Suite.Streams

/-! What the six stream checks decide. Each of them passes exactly if the samples are read back as they
were written, for any serializer at all, and the ones that read one stream make a bounded number of
calls. -/
namespace SerializerContract

namespace Suite

variable {σ A S N ρ : Type} {t : ValueType} {C : Contract σ A t S N} {suite : Suite C}
    {state last : σ}

theorem getSerializer_ok_iff {property : String} {serializer : S} :
    (suite.getSerializer property).outcome state = (.ok serializer, last) ↔
      suite.fixture.createSerializer.outcome state = (.ok (some serializer), last) := by
  rw [getSerializer, Action.bind_ok_iff]
  constructor
  · intro h
    obtain ⟨_ | created, middle, hCreate, hRest⟩ := h
    · simp at hRest
    · obtain ⟨hSame, rfl⟩ := Prod.mk.inj hRest
      obtain rfl := Except.ok.inj hSame
      exact hCreate
  · exact fun hCreate => ⟨some serializer, last, hCreate, rfl⟩

/-- A check asks for a serializer, and what it does with it is guarded. -/
theorem getSerializer_guarded_ok_iff {property : String} {check : S → Action σ Unit} :
    (do
      let serializer ← suite.getSerializer property
      guarded property (check serializer) : Action σ Unit).outcome state = (.ok (), last) ↔
      ∃ serializer served, suite.fixture.createSerializer.outcome state = (.ok (some serializer), served) ∧
        (check serializer).outcome served = (.ok (), last) := by
  rw [Action.bind_ok_iff]
  simp only [getSerializer_ok_iff, guarded_ok_iff]

/-- A sequence check passes exactly when all samples can be written and the stream reads back as the list of
them. -/
theorem asSequence_ok_iff {reader : Reader σ ρ t.Val}
    {reads : t.Val → (ρ × InputChannel) × σ → (ρ × InputChannel) × σ → Prop}
    (hReader : Follows reader reads) {property : String} {operations : Operations σ t.Val}
    {start : Action σ ρ} :
    (suite.asSequence property operations reader start).outcome state = (.ok (), last) ↔
      ∃ out written, Successive (Serializes operations) suite.fixture.samples ({}, state) (out, written) ∧
        ∃ carried created, start.outcome written = (.ok carried, created) ∧
          suite.ReadsBackAll reads carried out.inputView created last := by
  rw [asSequence, Action.bind_ok_iff]
  constructor
  · intro h
    obtain ⟨⟨_, out⟩, written, hSerialize, hRest⟩ := h
    obtain ⟨carried, created, hStart, hStream⟩ := Action.bind_ok_iff.mp hRest
    exact ⟨out, written, serializeAll_ok_iff.mp (Action.withLocal_ok_iff.mp hSerialize), carried, created,
      hStart, (compareStream_checkCount_ok_iff hReader).mp hStream⟩
  · intro h
    obtain ⟨out, written, hSerialize, carried, created, hStart, hStream⟩ := h
    refine ⟨((), out), written, Action.withLocal_ok_iff.mpr (serializeAll_ok_iff.mpr hSerialize), ?_⟩
    exact Action.bind_ok_iff.mpr
      ⟨carried, created, hStart, (compareStream_checkCount_ok_iff hReader).mpr hStream⟩

/-- The comparison of a raw copy passes exactly when the sample comes back alone from its copy. -/
theorem compareRawCopy_ok_iff {property : String} {operations : Operations σ t.Val} {v : t.Val} :
    (suite.compareRawCopy property operations v).outcome state = (.ok (), last) ↔
      suite.CopiesBackAlone operations v state last := by
  rw [compareRawCopy, Action.bind_ok_iff]
  constructor
  · intro h
    obtain ⟨out, written, hSerialize, hRest⟩ := h
    obtain ⟨⟨_, source, target⟩, copied, hCopy, hRest⟩ := Action.bind_ok_iff.mp hRest
    obtain ⟨_, hConsumed, hRest⟩ := Action.then_ok_iff.mp hRest
    obtain ⟨hSource, rfl⟩ := checkConsumed_ok_iff.mp hConsumed
    obtain ⟨_, hChecked, hRest⟩ := Action.then_ok_iff.mp hRest
    obtain ⟨hAvailable, rfl⟩ := checkAvailable_ok_iff.mp hChecked
    obtain ⟨actual, input, hRead, hEqual, hEnd⟩ :=
      (compareOne_ok_iff (readFresh_follows operations)).mp hRest
    exact ⟨out, written, source, target, copied, input, serializeOne_ok_iff.mp hSerialize,
      Action.withLocal_ok_iff.mp hCopy, hSource, ⟨hAvailable, actual, hRead, hEqual⟩, hEnd⟩
  · intro h
    obtain ⟨out, written, source, target, copied, input, hSerialize, hCopy, hSource, ⟨hAvailable,
      actual, hRead, hEqual⟩, hEnd⟩ := h
    refine ⟨out, written, serializeOne_ok_iff.mpr hSerialize, Action.bind_ok_iff.mpr
      ⟨((), source, target), copied, Action.withLocal_ok_iff.mpr hCopy, ?_⟩⟩
    refine Action.then_ok_iff.mpr ⟨copied, checkConsumed_ok_iff.mpr ⟨hSource, rfl⟩, ?_⟩
    refine Action.then_ok_iff.mpr ⟨copied, checkAvailable_ok_iff.mpr ⟨hAvailable, rfl⟩, ?_⟩
    exact (compareOne_ok_iff (readFresh_follows operations)).mpr ⟨actual, input, hRead, hEqual, hEnd⟩

/-- The individual check passes exactly when each sample reads back alone into a new value. -/
theorem checkIndividually_ok_iff :
    suite.checkIndividually.outcome state = (.ok (), last) ↔
      ∃ serializer served, suite.fixture.createSerializer.outcome state = (.ok (some serializer), served) ∧
        Successive (suite.ReadsBackAlone (C.operations serializer) (ReadsFresh (C.operations serializer)))
          suite.fixture.samples ((), served) ((), last) := by
  refine getSerializer_guarded_ok_iff.trans ?_
  simp only [individually_ok_iff (readFresh_follows _)]
  exact exists_congr fun serializer => exists_congr fun served => and_congr_right fun _ =>
    ⟨fun ⟨_, h⟩ => h, fun h => ⟨(), h⟩⟩

/-- The reusing check passes exactly when each sample reads back alone into what was read before it. -/
theorem checkIndividuallyReusing_ok_iff :
    suite.checkIndividuallyReusing.outcome state = (.ok (), last) ↔
      ∃ serializer served, suite.fixture.createSerializer.outcome state = (.ok (some serializer), served) ∧
        ∃ target created, (C.operations serializer).create.outcome served = (.ok target, created) ∧
          ∃ held, Successive
            (suite.ReadsBackAlone (C.operations serializer) (ReadsReusing (C.operations serializer)))
            suite.fixture.samples (target, created) (held, last) := by
  refine getSerializer_guarded_ok_iff.trans ?_
  simp only [Action.bind_ok_iff, individually_ok_iff (readReusing_follows _)]

/-- The sequence check passes exactly when the written samples read back one after the other and nothing is
left. -/
theorem checkSequence_ok_iff :
    suite.checkSequence.outcome state = (.ok (), last) ↔
      ∃ serializer served, suite.fixture.createSerializer.outcome state = (.ok (some serializer), served) ∧
        ∃ out written, Successive (Serializes (C.operations serializer)) suite.fixture.samples ({}, served)
          (out, written) ∧
            suite.ReadsBackAll (ReadsNew (C.operations serializer)) () out.inputView written last := by
  refine getSerializer_guarded_ok_iff.trans ?_
  simp only [asSequence_ok_iff (readNew_follows _), Action.outcome_pure, Prod.mk.injEq]
  constructor
  · intro h
    obtain ⟨serializer, served, hServed, out, written, hSerialize, _, _, ⟨-, rfl⟩, hStream⟩ := h
    exact ⟨serializer, served, hServed, out, written, hSerialize, hStream⟩
  · intro h
    obtain ⟨serializer, served, hServed, out, written, hSerialize, hStream⟩ := h
    exact ⟨serializer, served, hServed, out, written, hSerialize, (), written, ⟨trivial, rfl⟩, hStream⟩

/-- The same with one value that is reused for the whole stream. -/
theorem checkSequenceReusing_ok_iff :
    suite.checkSequenceReusing.outcome state = (.ok (), last) ↔
      ∃ serializer served, suite.fixture.createSerializer.outcome state = (.ok (some serializer), served) ∧
        ∃ out written, Successive (Serializes (C.operations serializer)) suite.fixture.samples ({}, served)
          (out, written) ∧
            ∃ target created, (C.operations serializer).create.outcome written = (.ok target, created) ∧
              suite.ReadsBackAll (ReadsReusing (C.operations serializer)) target out.inputView created last := by
  refine getSerializer_guarded_ok_iff.trans ?_
  simp only [asSequence_ok_iff (readReusing_follows _)]

/-- The raw copy check passes exactly when each sample reads back from its copy. -/
theorem checkRawCopy_ok_iff :
    suite.checkRawCopy.outcome state = (.ok (), last) ↔
      ∃ serializer served, suite.fixture.createSerializer.outcome state = (.ok (some serializer), served) ∧
        Successive (suite.CopiesBackAlone (C.operations serializer)) suite.fixture.samples served last := by
  refine getSerializer_guarded_ok_iff.trans ?_
  simp only [forM_ok_iff, compareRawCopy_ok_iff]

/-- The check passes exactly when the copied stream reads back as all the samples. -/
theorem checkRawCopySequence_ok_iff :
    suite.checkRawCopySequence.outcome state = (.ok (), last) ↔
      ∃ serializer served, suite.fixture.createSerializer.outcome state = (.ok (some serializer), served) ∧
        ∃ out written, Successive (Serializes (C.operations serializer)) suite.fixture.samples ({}, served)
          (out, written) ∧
            ∃ source target copied, Successive (RawCopies (C.operations serializer)) suite.fixture.samples
              ((out.inputView, {}), written) ((source, target), copied) ∧ source.available = 0 ∧
                suite.ReadsBackAll (ReadsFresh (C.operations serializer)) () target.inputView copied
                  last := by
  refine getSerializer_guarded_ok_iff.trans ?_
  refine exists_congr fun serializer => exists_congr fun served => and_congr_right fun _ => ?_
  rw [Action.bind_ok_iff]
  constructor
  · intro h
    obtain ⟨⟨_, out⟩, written, hSerialize, hRest⟩ := h
    obtain ⟨⟨_, source, target⟩, copied, hCopy, hRest⟩ := Action.bind_ok_iff.mp hRest
    obtain ⟨_, hConsumed, hStream⟩ := Action.then_ok_iff.mp hRest
    obtain ⟨hSource, rfl⟩ := checkConsumed_ok_iff.mp hConsumed
    exact ⟨out, written, serializeAll_ok_iff.mp (Action.withLocal_ok_iff.mp hSerialize), source, target,
      copied, copyAll_ok_iff.mp (Action.withLocal_ok_iff.mp hCopy), hSource,
      (compareStream_checkCount_ok_iff (readFresh_follows _)).mp hStream⟩
  · intro h
    obtain ⟨out, written, hSerialize, source, target, copied, hCopy, hSource, hStream⟩ := h
    refine ⟨((), out), written, Action.withLocal_ok_iff.mpr (serializeAll_ok_iff.mpr hSerialize),
      Action.bind_ok_iff.mpr ⟨((), (source, target)), copied,
        Action.withLocal_ok_iff.mpr (copyAll_ok_iff.mpr hCopy), ?_⟩⟩
    exact Action.then_ok_iff.mpr ⟨copied, checkConsumed_ok_iff.mpr ⟨hSource, rfl⟩,
      (compareStream_checkCount_ok_iff (readFresh_follows _)).mpr hStream⟩

/-! ## Calls -/

theorem getSerializer_guarded_countsAtMost {bound : Nat} {property : String}
    {check : S → Action σ Unit} {counted : S → Action (σ × Nat) Unit}
    (hCheck : ∀ serializer, Action.CountsAtMost Prod.mk bound (counted serializer) (check serializer)) :
    Action.CountsAtMost Prod.mk bound
      (do
        let serializer ← suite.counted.getSerializer property
        guarded property (counted serializer))
      (do
        let serializer ← suite.getSerializer property
        guarded property (check serializer)) := by
  refine Action.CountsAtMost.bind ?_ (fun serializer => (hCheck serializer).guarded)
    (Nat.le_of_eq (Nat.zero_add _))
  refine (Action.counted_countsAtMost 0 suite.fixture.createSerializer).bind (fun created => ?_)
    (Nat.le_of_eq (Nat.zero_add 0))
  cases created with
  | none => exact .ofExcept Prod.mk 0 (.error _)
  | some serializer => exact .ofExcept Prod.mk 0 (.ok serializer)

theorem checkConsumed_countsAtMost (property message : String) (input : InputChannel) :
    Action.CountsAtMost Prod.mk 0 (checkConsumed property message input)
      (checkConsumed (σ := σ) property message input) := by
  unfold checkConsumed
  split
  · exact .ofExcept Prod.mk 0 (.error _)
  · exact .ofExcept Prod.mk 0 (.ok ())

theorem checkSequence_countsAtMost (suite : Suite C) :
    Action.CountsAtMost Prod.mk suite.fixture.samples.length suite.counted.checkSequence
      suite.checkSequence :=
  getSerializer_guarded_countsAtMost fun serializer =>
    asSequence_countsAtMost suite _ (readNew_countsAtMost (C.operations serializer)) _
      (.ofExcept Prod.mk 0 (.ok ()))

theorem checkSequenceReusing_countsAtMost (suite : Suite C) :
    Action.CountsAtMost Prod.mk suite.fixture.samples.length suite.counted.checkSequenceReusing
      suite.checkSequenceReusing :=
  getSerializer_guarded_countsAtMost fun serializer =>
    asSequence_countsAtMost suite _ (readReusing_countsAtMost (C.operations serializer)) _
      (Action.counted_countsAtMost 0 _)

theorem checkRawCopySequence_countsAtMost (suite : Suite C) :
    Action.CountsAtMost Prod.mk suite.fixture.samples.length suite.counted.checkRawCopySequence
      suite.checkRawCopySequence := by
  refine getSerializer_guarded_countsAtMost fun serializer => ?_
  refine (serializeAll_countsAtMost (C.operations serializer) suite.fixture.samples).withLocal.bind
    (fun written => ?_) (Nat.le_of_eq (Nat.zero_add _))
  refine (copyAll_countsAtMost (C.operations serializer) _).withLocal.bind
    (fun copied => ?_) (Nat.le_of_eq (Nat.zero_add _))
  exact (checkConsumed_countsAtMost _ sourceLeft copied.2.1).bind (fun _ =>
    compareStream_checkCount_countsAtMost suite _ (readFresh_countsAtMost (C.operations serializer)) _ ()
      copied.2.2.inputView) (Nat.le_of_eq (Nat.zero_add _))

/-- The stream checks miss nothing and come to an end. On a suite that counts the calls of deserialize,
the checks of one stream do the same and count at most one call for each sample. They pass exactly if
the samples can be serialized one after the other, and, for the copying check, copied so that nothing is
left, and every sample is then read back in turn, with data available before each, and nothing left after
the last. The individual checks pass exactly if every sample, on its own and in its turn, is read back
from a channel that is not empty and holds nothing else. -/
theorem stream_checks_pass_iff (suite : Suite C) (state last : σ) :
    (Action.CountsAtMost Prod.mk suite.fixture.samples.length suite.counted.checkSequence
        suite.checkSequence ∧
      Action.CountsAtMost Prod.mk suite.fixture.samples.length suite.counted.checkSequenceReusing
        suite.checkSequenceReusing ∧
      Action.CountsAtMost Prod.mk suite.fixture.samples.length suite.counted.checkRawCopySequence
        suite.checkRawCopySequence) ∧
    (suite.checkSequence.outcome state = (.ok (), last) ↔
      ∃ serializer served, suite.fixture.createSerializer.outcome state = (.ok (some serializer), served) ∧
        ∃ out written, Successive (Serializes (C.operations serializer)) suite.fixture.samples ({}, served)
          (out, written) ∧
            suite.ReadsBackAll (ReadsNew (C.operations serializer)) () out.inputView written last) ∧
    (suite.checkSequenceReusing.outcome state = (.ok (), last) ↔
      ∃ serializer served, suite.fixture.createSerializer.outcome state = (.ok (some serializer), served) ∧
        ∃ out written, Successive (Serializes (C.operations serializer)) suite.fixture.samples ({}, served)
          (out, written) ∧
            ∃ target created, (C.operations serializer).create.outcome written = (.ok target, created) ∧
              suite.ReadsBackAll (ReadsReusing (C.operations serializer)) target out.inputView created
                last) ∧
    (suite.checkRawCopySequence.outcome state = (.ok (), last) ↔
      ∃ serializer served, suite.fixture.createSerializer.outcome state = (.ok (some serializer), served) ∧
        ∃ out written, Successive (Serializes (C.operations serializer)) suite.fixture.samples ({}, served)
          (out, written) ∧
            ∃ source target copied, Successive (RawCopies (C.operations serializer)) suite.fixture.samples
              ((out.inputView, {}), written) ((source, target), copied) ∧ source.available = 0 ∧
                suite.ReadsBackAll (ReadsFresh (C.operations serializer)) () target.inputView copied
                  last) ∧
    (suite.checkIndividually.outcome state = (.ok (), last) ↔
      ∃ serializer served, suite.fixture.createSerializer.outcome state = (.ok (some serializer), served) ∧
        Successive (suite.ReadsBackAlone (C.operations serializer) (ReadsFresh (C.operations serializer)))
          suite.fixture.samples ((), served) ((), last)) ∧
    (suite.checkIndividuallyReusing.outcome state = (.ok (), last) ↔
      ∃ serializer served, suite.fixture.createSerializer.outcome state = (.ok (some serializer), served) ∧
        ∃ target created, (C.operations serializer).create.outcome served = (.ok target, created) ∧
          ∃ held, Successive
            (suite.ReadsBackAlone (C.operations serializer) (ReadsReusing (C.operations serializer)))
            suite.fixture.samples (target, created) (held, last)) ∧
    (suite.checkRawCopy.outcome state = (.ok (), last) ↔
      ∃ serializer served, suite.fixture.createSerializer.outcome state = (.ok (some serializer), served) ∧
        Successive (suite.CopiesBackAlone (C.operations serializer)) suite.fixture.samples served last) :=
  ⟨⟨checkSequence_countsAtMost suite, checkSequenceReusing_countsAtMost suite,
      checkRawCopySequence_countsAtMost suite⟩,
    checkSequence_ok_iff, checkSequenceReusing_ok_iff, checkRawCopySequence_ok_iff,
    checkIndividually_ok_iff, checkIndividuallyReusing_ok_iff, checkRawCopy_ok_iff⟩

end Suite

end SerializerContract
