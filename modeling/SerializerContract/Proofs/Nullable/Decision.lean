import SerializerContract.Proofs.Conformance.Number
import SerializerContract.Proofs.Wrapping.Level

/-! What the nullability probe decides. Null itself is handled by the wrapper alone and always comes out right; so
whether the probe passes is a matter of the samples, and of what the wrapped serializer does with them. -/
namespace SerializerContract

namespace Operations

variable {σ α : Type}

/-- Operations that only append to an output channel, and that see of an input channel only what is still to be
read. Apart from that they can do anything, and fail with anything. -/
structure Regular (operations : Operations σ α) : Prop where
  appends : ∀ v state, ∃ result bytes last, ∀ out,
    (operations.serialize v).outcome (out, state) = (result, (out.appended bytes, last))
  looksAhead : ∀ rest state, ∃ result left last, ∀ past, ∃ past',
    operations.deserialize.outcome (⟨past, rest⟩, state) = (result, (⟨past', left⟩, last))

/-- The operations of a codec are regular: they depend on nothing but the channels. -/
theorem ofCodec_regular (codec : Codec α) (initial : α) (length : Int)
    (rawCopy : Action (InputChannel × OutputChannel) Unit) :
    (ofCodec (σ := σ) codec initial length rawCopy).Regular where
  appends v state := ⟨_, (codec.encode v).bytes, state, fun _ => rfl⟩
  looksAhead rest state := by
    cases hStop : (codec.decode codec.blank rest).stop with
    | none =>
        refine ⟨.ok (codec.decode codec.blank rest).value, (codec.decode codec.blank rest).rest, state, fun past => ?_⟩
        refine ⟨((⟨past, rest⟩ : InputChannel).advanceTo (codec.decode codec.blank rest).rest).past, ?_⟩
        simp only [Action.outcome, ofCodec, Action.onFirst, InputChannel.read, hStop]
        rfl
    | some stop =>
        refine ⟨.error (InputChannel.failureOf stop), rest, state, fun past => ⟨past, ?_⟩⟩
        simp only [Action.outcome, ofCodec, Action.onFirst, InputChannel.read, hStop]

/-- A value is copied: into what was copied last, if there is such a thing. -/
def Carries (operations : Operations σ α) (v : α) (reuse : Option α) (state : σ) (copied : α) (last : σ) : Prop :=
  match reuse with
  | none => (operations.copy v).outcome state = (.ok copied, last)
  | some old => ∃ returned, (operations.copyInto v).outcome (old, state) = (.ok returned, (copied, last))

end Operations

namespace Nullable

variable {σ A S N : Type} {t : ValueType} {checker : Checker} {inner : Operations σ t.Val} {padding : Nat}
    {length : Int} {v : t.Val} {reuse : Option t.Val} {state last : σ}

/-- A sample is kept by a serializer: it is written with as many bytes as the length says, if that is fixed; all
of them are read back as a value that equals the sample; and so does the copy that is made of this value. -/
def SampleKept (checker : Checker) (operations : Operations σ t.Val) (length : Int) (v : t.Val)
    (reuse : Option t.Val) (state : σ) (copied : t.Val) (last : σ) : Prop :=
  ∃ bytes written r past read,
    (operations.serialize v).outcome ({}, state) = (.ok (), (⟨bytes⟩, written)) ∧
    (0 < length → (bytes.length : Int) = length) ∧
    operations.deserialize.outcome (.ofBytes bytes, written) = (.ok r, (⟨past, []⟩, read)) ∧
    checker.equals t v r = .ok true ∧
    operations.Carries r reuse read copied last ∧
    checker.equals t v copied = .ok true

/-- All samples are kept, one after the other; each is copied into what was copied before. -/
inductive SamplesKept (checker : Checker) (operations : Operations σ t.Val) (length : Int) :
    Option t.Val → List t.Val → σ → σ → Prop where
  | nil (reuse : Option t.Val) (state : σ) : SamplesKept checker operations length reuse [] state state
  | cons {reuse : Option t.Val} {v : t.Val} {rest : List t.Val} {state middle last : σ} {copied : t.Val}
      (first : SampleKept checker operations length v reuse state copied middle)
      (others : SamplesKept checker operations length (some copied) rest middle last) :
      SamplesKept checker operations length reuse (v :: rest) state last

/-! ## The steps of the probe -/

/-- A wrapped value is written as a flag and what is written for the value. -/
theorem serialize_wrapped_ok_iff (h : inner.Regular) {out : OutputChannel} :
    (Action.withLocal {} ((operations inner padding).serialize (some v))).outcome state = (.ok ((), out), last) ↔
      ∃ bytes, (inner.serialize v).outcome ({}, state) = (.ok (), (⟨bytes⟩, last)) ∧
        out = ⟨flagByte false :: bytes⟩ := by
  obtain ⟨result, bytes, written, hWritten⟩ := h.appends v state
  rw [Action.withLocal_ok_iff, serialize_some_outcome, hWritten, hWritten]
  constructor
  · intro hOk
    obtain ⟨rfl, rfl, rfl⟩ : result = .ok () ∧ _ = out ∧ written = last := by simpa using hOk
    exact ⟨bytes, rfl, rfl⟩
  · rintro ⟨other, hOk, rfl⟩
    obtain ⟨rfl, hSame, rfl⟩ : result = .ok () ∧ ({} : OutputChannel).appended bytes = ⟨other⟩ ∧ written = last := by
      simpa using hOk
    obtain rfl : bytes = other := by simpa [OutputChannel.appended] using hSame
    rfl

/-- After its flag a wrapped value is read as what is wrapped. -/
theorem deserialize_wrapped_ok_iff (h : inner.Regular) {bytes : Bytes} {restored : Option t.Val} :
    (∃ input, (Action.withLocal (OutputChannel.mk (flagByte false :: bytes)).inputView
        (operations inner padding).deserialize).outcome state = (.ok (restored, input), last) ∧
        input.available = 0) ↔
      ∃ r past, inner.deserialize.outcome (.ofBytes bytes, state) = (.ok r, (⟨past, []⟩, last)) ∧
        restored = some r := by
  obtain ⟨result, left, read, hRead⟩ := h.looksAhead bytes state
  obtain ⟨past, hAlone⟩ := hRead []
  obtain ⟨past', hBehind⟩ := hRead [flagByte false]
  have hWrapped : (operations inner padding).deserialize.outcome
      ((OutputChannel.mk (flagByte false :: bytes)).inputView, state) = (result.map some, (⟨past', left⟩, read)) := by
    refine (deserialize_outcome false [] bytes state).trans ?_
    rw [if_neg Bool.false_ne_true, Action.outcome_bind]
    simp only [List.nil_append, hBehind]
    cases result <;> rfl
  have hAlone : inner.deserialize.outcome (.ofBytes bytes, state) = (result, (⟨past, left⟩, read)) := hAlone
  simp only [Action.withLocal_ok_iff, hWrapped, hAlone]
  cases result with
  | error failure => simp [Except.map]
  | ok r =>
      constructor
      · rintro ⟨input, hOk, hEnd⟩
        obtain ⟨rfl, rfl, rfl⟩ : some r = restored ∧ InputChannel.mk past' left = input ∧ read = last := by
          simpa [Except.map] using hOk
        obtain rfl : left = [] := List.length_eq_zero_iff.mp hEnd
        exact ⟨r, past, rfl, rfl⟩
      · rintro ⟨other, before, hOk, rfl⟩
        obtain ⟨rfl, ⟨rfl, rfl⟩, rfl⟩ : r = other ∧ (past = before ∧ left = []) ∧ read = last := by simpa using hOk
        exact ⟨⟨past', []⟩, rfl, rfl⟩

/-- The copy of a wrapped value is in the reuse target, which lends what it holds. -/
theorem copyInto_wrapped_ok_iff {r : t.Val} {returned : Returned (Option t.Val)} {held : Option t.Val} :
    (Action.withLocal reuse ((operations inner padding).copyInto (some r))).outcome state =
        (.ok (returned, held), last) ↔
      ∃ copied, inner.Carries r reuse state copied last ∧ returned = .target ∧ held = some copied := by
  rw [Action.withLocal_ok_iff]
  change (copyInto inner (some r)).outcome (reuse, state) = _ ↔ _
  cases reuse with
  | none =>
      constructor
      · intro hOk
        rcases hCopied : (inner.copy r).outcome state with ⟨_ | copied, middle⟩
        · rw [copyInto_new_throws_outcome hCopied] at hOk
          simp at hOk
        · rw [copyInto_new_outcome hCopied] at hOk
          obtain ⟨rfl, rfl, rfl⟩ : Returned.target = returned ∧ some copied = held ∧ middle = last := by
            simpa using hOk
          exact ⟨copied, hCopied, rfl, rfl⟩
      · rintro ⟨copied, hCopied, rfl, rfl⟩
        exact copyInto_new_outcome hCopied
  | some old =>
      constructor
      · intro hOk
        rcases hCopied : (inner.copyInto r).outcome (old, state) with ⟨result, copied, middle⟩
        rw [copyInto_lent_outcome hCopied] at hOk
        cases result with
        | error failure => simp [Except.map] at hOk
        | ok other =>
            obtain ⟨rfl, rfl, rfl⟩ : Returned.target = returned ∧ some copied = held ∧ middle = last := by
              simpa [Except.map] using hOk
            exact ⟨copied, ⟨other, hCopied⟩, rfl, rfl⟩
      · rintro ⟨copied, ⟨_, hCopied⟩, rfl, rfl⟩
        exact copyInto_lent_outcome hCopied

/-- A flag and as many bytes as the length says have the expected size, and nothing else does. -/
theorem hasWrongSize_flagged {bytes : Bytes} {isNull : Bool} :
    hasWrongSize (World.wrappedLength length) ⟨flagByte isNull :: bytes⟩ = false ↔
      (0 < length → (bytes.length : Int) = length) := by
  unfold hasWrongSize World.wrappedLength
  by_cases hPositive : 0 < length
  · simp only [hPositive, if_true, OutputChannel.size, List.length_cons]
    simp
    omega
  · simp [hPositive, variableLength]

/-- The probe goes on after a sample if the sample was kept, and hands on the copy. -/
theorem probeSample_ok_iff (h : inner.Regular) {held : Option t.Val} :
    (probeSample checker (operations inner padding) (World.wrappedLength length) reuse v).outcome state =
        (.ok held, last) ↔
      ∃ copied, SampleKept checker inner length v reuse state copied last ∧ held = some copied := by
  constructor
  · intro hOk
    obtain ⟨⟨_, out⟩, written, hWritten, hMeasured⟩ := Action.bind_ok_iff.mp hOk
    obtain ⟨bytes, hBytes, rfl⟩ := (serialize_wrapped_ok_iff h).mp hWritten
    obtain ⟨hSize, hReads⟩ := Action.throw_if_ok_iff.mp hMeasured
    obtain ⟨⟨restored, input⟩, read, hRead, hCompares⟩ := Action.bind_ok_iff.mp hReads
    obtain ⟨equal, compared, hCompared, hJudged⟩ := Action.bind_ok_iff.mp hCompares
    obtain ⟨hRight, hCopies⟩ := Action.throw_if_ok_iff.mp hJudged
    have hRight : equal = true ∧ input.available = 0 := by simpa using hRight
    obtain ⟨r, past, hInner, rfl⟩ := (deserialize_wrapped_ok_iff h).mp ⟨input, hRead, hRight.2⟩
    obtain ⟨hEqual, rfl⟩ := Prod.mk.inj hCompared
    obtain ⟨⟨returned, target⟩, carried, hCarried, hCopyCompares⟩ := Action.bind_ok_iff.mp hCopies
    obtain ⟨copied, hCopied, rfl, rfl⟩ := copyInto_wrapped_ok_iff.mp hCarried
    obtain ⟨same, compared', hCopyCompared, hCopyJudged⟩ := Action.bind_ok_iff.mp hCopyCompares
    obtain ⟨hSame, hDone⟩ := Action.throw_if_ok_iff.mp hCopyJudged
    have hSame : same = true := by simpa using hSame
    obtain ⟨hCopyEqual, rfl⟩ := Prod.mk.inj hCopyCompared
    obtain ⟨rfl, rfl⟩ : some copied = held ∧ carried = last := by simpa using hDone
    exact ⟨copied, ⟨bytes, written, r, past, _, hBytes, hasWrongSize_flagged.mp (by simpa using hSize), hInner,
      hRight.1 ▸ hEqual, hCopied, hSame ▸ hCopyEqual⟩, rfl⟩
  · rintro ⟨copied, ⟨bytes, written, r, past, read, hBytes, hSize, hInner, hEqual, hCopied, hCopyEqual⟩, rfl⟩
    have hRestored : ∃ input, (Action.withLocal (OutputChannel.mk (flagByte false :: bytes)).inputView
        (operations inner padding).deserialize).outcome written = (.ok (some r, input), read) ∧ input.available = 0 :=
      (deserialize_wrapped_ok_iff h).mpr ⟨r, past, hInner, rfl⟩
    obtain ⟨input, hRead, hEnd⟩ := hRestored
    refine Action.bind_ok_iff.mpr ⟨_, _, (serialize_wrapped_ok_iff h).mpr ⟨bytes, hBytes, rfl⟩, ?_⟩
    refine Action.throw_if_ok_iff.mpr ⟨by simp [hasWrongSize_flagged.mpr hSize], ?_⟩
    refine Action.bind_ok_iff.mpr ⟨_, _, hRead, ?_⟩
    refine Action.bind_ok_iff.mpr ⟨true, read, congrArg (·, read) hEqual, ?_⟩
    refine Action.throw_if_ok_iff.mpr ⟨by simp [hEnd], ?_⟩
    refine Action.bind_ok_iff.mpr ⟨_, _, copyInto_wrapped_ok_iff.mpr ⟨copied, hCopied, rfl, rfl⟩, ?_⟩
    refine Action.bind_ok_iff.mpr ⟨true, last, congrArg (·, last) hCopyEqual, ?_⟩
    exact Action.throw_if_ok_iff.mpr ⟨by simp, rfl⟩

/-- The probe passes over the samples exactly when every one of them is kept through its round trip. -/
theorem probeSamples_ok_iff (h : inner.Regular) {samples : List t.Val} :
    (probeSamples checker (operations inner padding) (World.wrappedLength length) reuse samples).outcome state =
        (.ok (), last) ↔ SamplesKept checker inner length reuse samples state last := by
  induction samples generalizing reuse state with
  | nil =>
      constructor
      · intro hOk
        obtain rfl : state = last := by simpa [probeSamples] using hOk
        exact .nil reuse state
      · rintro ⟨⟩
        rfl
  | cons v rest ih =>
      rw [probeSamples, Action.bind_ok_iff]
      constructor
      · rintro ⟨held, middle, hSample, hRest⟩
        obtain ⟨copied, hKept, rfl⟩ := (probeSample_ok_iff h).mp hSample
        exact .cons hKept (ih.mp hRest)
      · intro hKept
        obtain _ | ⟨hKept, hRest⟩ := hKept
        exact ⟨_, _, (probeSample_ok_iff h).mpr ⟨_, hKept, rfl⟩, ih.mpr hRest⟩

/-! ## The whole probe -/

/-- All that is asked before anything is written: the length of the duplicate, for its wrapper, and the length of
the serializer itself. -/
def askLengths (C : Contract σ A t S N) (x y : S) : Action σ Unit := do
  let _ ← paddingFor (C.operations y) true
  let _ ← expectedLength (C.operations x).length

variable {C : Contract σ A t S N} {x y : S}

/-- Null is written, read and copied as it should be, whatever is wrapped. -/
theorem probeNull_outcome (inner : Operations σ t.Val) (hBound : length < 0x7fffffff) (state : σ) :
    (probeNull (operations inner length.toNat) (World.wrappedLength length)).outcome state = (.ok (), state) := by
  have hPasses : (probeNull (operations inner length.toNat) (World.wrappedLength length)).Succeeds state
      fun _ last => last = state := World.probeNull_succeeds inner hBound
  obtain ⟨_, last, hOutcome, rfl⟩ := hPasses
  exact hOutcome

variable (checker) in
/-- After the lengths were asked, the wrapper reports what is expected and null is handled, so that only the samples
are left. -/
theorem probe_outcome (hBound : length < 0x7fffffff) {duplicated : σ}
    (hDuplicate : (C.duplicate x).outcome state = (.ok (some y), duplicated))
    (hSource : Reports (fun _ => True) (C.operations x).length length)
    (hReports : Reports (fun _ => True) (C.operations y).length length) (samples : List t.Val) :
    ∃ measured, (askLengths C x y).outcome duplicated = (.ok (), measured) ∧
      (probe C checker x samples).outcome state =
        (probeSamples checker (operations (C.operations y) length.toNat) (World.wrappedLength length) none
          samples).outcome measured := by
  have hPads : (paddingFor (C.operations y) true).Succeeds duplicated fun padding _ =>
      checkPadding padding = .ok length.toNat ∧ True := paddingFor_succeeds hReports trivial
  obtain ⟨padding, padded, hPadding, hChecked, -⟩ := hPads
  have hExpects : (expectedLength (C.operations x).length).Succeeds padded fun expected _ =>
      expected = World.wrappedLength length ∧ True := expectedLength_succeeds hSource hBound trivial
  obtain ⟨_, measured, hExpected, rfl, -⟩ := hExpects
  refine ⟨measured, ?_, ?_⟩
  · refine Action.bind_ok_iff.mpr ⟨padding, padded, hPadding, ?_⟩
    exact Action.bind_ok_iff.mpr ⟨_, measured, hExpected, rfl⟩
  · have hLength : (operations (C.operations y) length.toNat).length.outcome measured =
        (.ok (World.wrappedLength length), measured) :=
      congrArg (fun reported => (Except.ok reported, measured)) (World.length_toNat hBound)
    rw [probe, Action.outcome_bind, hDuplicate]
    simp only [Action.outcome_bind, hPadding, Action.outcome_ofExcept, hChecked, hExpected, hLength, ne_eq,
      not_true_eq_false, if_false, probeNull_outcome (C.operations y) hBound measured]

/-- What the probe decides. Nothing about null ever fails, whatever the serializer is: after the lengths were asked,
the outcome of the probe is that of the samples. It passes if and only if the duplicate keeps every sample. -/
theorem probe_decides (C : Contract σ A t S N) (checker : Checker) (x y : S) (samples : List t.Val) {length : Int}
    (hBound : length < 0x7fffffff) {state duplicated : σ}
    (hDuplicate : (C.duplicate x).outcome state = (.ok (some y), duplicated))
    (hSource : (C.operations x).AlwaysReports length) (hSame : (C.operations y).AlwaysReports length)
    (hRegular : (C.operations y).Regular) :
    (∀ later, (probeNull (operations (C.operations y) length.toNat) (World.wrappedLength length)).outcome later =
      (.ok (), later)) ∧
    ∃ measured, (askLengths C x y).outcome duplicated = (.ok (), measured) ∧
      (probe C checker x samples).outcome state =
        (probeSamples checker (operations (C.operations y) length.toNat) (World.wrappedLength length) none
          samples).outcome measured ∧
      ∀ last, (probe C checker x samples).outcome state = (.ok (), last) ↔
        SamplesKept checker (C.operations y) length none samples measured last := by
  obtain ⟨measured, hAsked, hProbe⟩ := probe_outcome checker hBound hDuplicate hSource.reports
    hSame.reports samples
  refine ⟨probeNull_outcome (C.operations y) hBound, measured, hAsked, hProbe, fun last => ?_⟩
  rw [hProbe]
  exact probeSamples_ok_iff hRegular

/-- A plain serializer of numbers keeps two numbers, and so the probe passes. -/
theorem probe_decides_numbers :
    let numbers := NumberSerializer.contract (A := Unit) fun _ => none
    let x : NumberSerializer := ⟨0, .plain⟩
    let samples : List (BitVec 32) := [7, 9]
    (numbers.duplicate x).outcome {} = (.ok (some x), {}) ∧ (numbers.operations x).AlwaysReports 4 ∧
      (numbers.operations x).Regular ∧ (probe numbers {} x samples).outcome {} = (.ok (), {}) := by
  intro numbers x samples
  have hDuplicate : (numbers.duplicate x).outcome {} = (.ok (some x), {}) := rfl
  have hReports : (numbers.operations x).AlwaysReports 4 := fun store => ⟨store, rfl⟩
  have hRegular : (numbers.operations x).Regular := Operations.ofCodec_regular ..
  obtain ⟨-, measured, hAsked, -, hDecides⟩ :=
    probe_decides numbers {} x x samples (by decide) hDuplicate hReports hReports hRegular
  obtain rfl : {} = measured := congrArg Prod.snd hAsked
  have hFirst : SampleKept {} (numbers.operations x) 4 (7 : BitVec 32) none {} (7 : BitVec 32) {} :=
    ⟨[0, 0, 0, 7], {}, (7 : BitVec 32), [0, 0, 0, 7], {}, rfl, fun _ => rfl, rfl, rfl, rfl, rfl⟩
  have hSecond : SampleKept {} (numbers.operations x) 4 (9 : BitVec 32) (some (7 : BitVec 32)) {} (9 : BitVec 32) {} :=
    ⟨[0, 0, 0, 9], {}, (9 : BitVec 32), [0, 0, 0, 9], {}, rfl, fun _ => rfl, rfl, rfl, ⟨.target, rfl⟩, rfl⟩
  exact ⟨hDuplicate, hReports, hRegular, (hDecides {}).mpr (.cons hFirst (.cons hSecond (.nil ..)))⟩

end Nullable

end SerializerContract
