import SerializerContract.Proofs.Conformance.Nullability

/-! Byte accounting. Where every call writes, reads and moves its fixed number of bytes, whatever the values
are, a check that passes has read as many bytes as were written. So serializers that do not read what they
write are found with any samples, also where the values would agree by chance. -/
namespace SerializerContract

/-- Every call that succeeds writes, reads or moves the same number of bytes. -/
structure Operations.Transfers {σ α : Type} (operations : Operations σ α) (emitted consumed moved : Nat) :
    Prop where
  serialize : ∀ v before after, (operations.serialize v).outcome before = (.ok (), after) →
    after.1.size = before.1.size + emitted
  deserialize : ∀ v before after, operations.deserialize.outcome before = (.ok v, after) →
    before.1.available = after.1.available + consumed
  deserializeInto : ∀ returned before after, operations.deserializeInto.outcome before = (.ok returned, after) →
    before.1.2.available = after.1.2.available + consumed
  rawCopy : ∀ before after, operations.rawCopy.outcome before = (.ok (), after) →
    before.1.1.available = after.1.1.available + moved ∧ after.1.2.size = before.1.2.size + moved

namespace Successive

variable {ε κ : Type} {step : ε → κ → κ → Prop} {xs : List ε} {state last : κ}

/-- What grows by the same amount with every step. -/
theorem grows (measure : κ → Nat) {amount : Nat} (h : Successive step xs state last)
    (hStep : ∀ x before after, step x before after → measure after = measure before + amount) :
    measure last = measure state + xs.length * amount := by
  induction h with
  | nil => simp
  | cons hFirst hRest ih =>
      have hFirst := hStep _ _ _ hFirst
      rw [ih, hFirst, List.length_cons, Nat.succ_mul]
      omega

/-- What shrinks by the same amount with every step. -/
theorem shrinks (measure : κ → Nat) {amount : Nat} (h : Successive step xs state last)
    (hStep : ∀ x before after, step x before after → measure before = measure after + amount) :
    measure state = measure last + xs.length * amount := by
  induction h with
  | nil => simp
  | cons hFirst hRest ih =>
      have hFirst := hStep _ _ _ hFirst
      rw [hFirst, ih, List.length_cons, Nat.succ_mul]
      omega

end Successive

namespace Suite

variable {σ A S N ρ : Type} {t : ValueType} {C : Contract σ A t S N} {suite : Suite C}
    {operations : Operations σ t.Val} {emitted consumed moved : Nat} {state last : σ}

/-! ## Readers -/

/-- A reader takes the same number of bytes every time. -/
def Consumes (reads : t.Val → (ρ × InputChannel) × σ → (ρ × InputChannel) × σ → Prop) (consumed : Nat) :
    Prop :=
  ∀ actual before after, reads actual before after →
    before.1.2.available = after.1.2.available + consumed

variable (h : operations.Transfers emitted consumed moved)

include h

theorem readsNew_consumes : Consumes (ReadsNew operations) consumed :=
  fun actual before after hRead => h.deserialize actual (before.1.2, before.2) (after.1.2, after.2) hRead

theorem readsReusing_consumes : Consumes (ReadsReusing operations) consumed := by
  intro actual before after hRead
  obtain ⟨returned, hOutcome, -⟩ := hRead
  exact h.deserializeInto returned before after hOutcome

theorem readsFresh_consumes : Consumes (ReadsFresh operations) consumed := by
  intro actual before after hRead
  obtain ⟨created, held, middle, -, hRead⟩ := hRead
  exact readsReusing_consumes h actual _ _ hRead

/-! ## Streams -/

/-- Samples are written with as many bytes each. -/
theorem size_of_serializes {samples : List t.Val} {out : OutputChannel}
    (hWritten : Successive (Serializes operations) samples ({}, state) (out, last)) :
    out.size = samples.length * emitted := by
  have hSize := hWritten.grows (fun state => state.1.size) fun v before after hStep =>
    h.serialize v before after hStep
  simpa using hSize

/-- A sample that is read back alone, with nothing left, was read with as many bytes as it was written. -/
theorem emitted_eq_of_readsBackAlone {reads : t.Val → (ρ × InputChannel) × σ → (ρ × InputChannel) × σ → Prop}
    (hReads : Consumes reads consumed) {v : t.Val} {before after : ρ × σ}
    (hAlone : suite.ReadsBackAlone operations reads v before after) : emitted = consumed := by
  obtain ⟨out, input, middle, hWritten, ⟨-, actual, hRead, -⟩, hEnd⟩ := hAlone
  have hSize : out.size = 0 + emitted := h.serialize v _ _ hWritten
  have hTaken : out.size = input.available + consumed := hReads actual _ _ hRead
  omega

/-- A sample that is read back from its raw copy was moved and read with as many bytes as it was written. -/
theorem emitted_eq_of_copiesBackAlone {v : t.Val} (hAlone : suite.CopiesBackAlone operations v state last) :
    emitted = moved ∧ moved = consumed := by
  obtain ⟨out, written, source, target, copied, input, hWritten, hCopied, hSource, ⟨-, actual, hRead, -⟩,
    hEnd⟩ := hAlone
  have hSize : out.size = 0 + emitted := h.serialize v _ _ hWritten
  obtain ⟨hTaken, hAdded⟩ := h.rawCopy _ _ hCopied
  have hTaken : out.size = source.available + moved := hTaken
  have hAdded : target.size = 0 + moved := hAdded
  have hRead : target.size = input.available + consumed := readsFresh_consumes h actual _ _ hRead
  omega

omit h in
/-- Reading all samples back takes as many bytes for each. -/
theorem available_of_readsBackAll {reads : t.Val → (ρ × InputChannel) × σ → (ρ × InputChannel) × σ → Prop}
    (hReads : Consumes reads consumed) {carried : ρ} {input : InputChannel}
    (hAll : suite.ReadsBackAll reads carried input state last) :
    input.available = suite.fixture.samples.length * consumed := by
  obtain ⟨carried', input', hStream, hEnd⟩ := hAll
  have hTaken := hStream.shrinks (fun state => state.1.2.available) fun v before after hStep =>
    let ⟨_, actual, hRead, _⟩ := hStep
    hReads actual before after hRead
  have hTaken : input.available = input'.available + suite.fixture.samples.length * consumed := hTaken
  omega

omit h

/-! ## The stream checks -/

section Checks

variable (hSamples : suite.fixture.samples ≠ []) (hTransfers : ∀ serializer served,
    suite.fixture.createSerializer.outcome state = (.ok (some serializer), served) →
      (C.operations serializer).Transfers emitted consumed moved)

include hSamples hTransfers

/-- A check that passes has read as many bytes as it wrote. -/
theorem emitted_eq_of_checkIndividually (h : suite.checkIndividually.outcome state = (.ok (), last)) :
    emitted = consumed := by
  obtain ⟨serializer, served, hCreated, hStream⟩ := checkIndividually_ok_iff.mp h
  have h := hTransfers serializer served hCreated
  obtain ⟨v, rest, hSome⟩ := List.exists_cons_of_ne_nil hSamples
  rw [hSome] at hStream
  obtain ⟨_, hFirst, -⟩ := Successive.cons_iff.mp hStream
  exact emitted_eq_of_readsBackAlone h (readsFresh_consumes h) hFirst

theorem emitted_eq_of_checkIndividuallyReusing
    (h : suite.checkIndividuallyReusing.outcome state = (.ok (), last)) : emitted = consumed := by
  obtain ⟨serializer, served, hCreated, target, created, -, held, hStream⟩ :=
    checkIndividuallyReusing_ok_iff.mp h
  have h := hTransfers serializer served hCreated
  obtain ⟨v, rest, hSome⟩ := List.exists_cons_of_ne_nil hSamples
  rw [hSome] at hStream
  obtain ⟨_, hFirst, -⟩ := Successive.cons_iff.mp hStream
  exact emitted_eq_of_readsBackAlone h (readsReusing_consumes h) hFirst

/-- A check that passes has read as many bytes as it wrote, all samples together. -/
theorem emitted_eq_of_checkSequence (h : suite.checkSequence.outcome state = (.ok (), last)) :
    emitted = consumed := by
  obtain ⟨serializer, served, hCreated, out, written, hWritten, hRead⟩ := checkSequence_ok_iff.mp h
  have h := hTransfers serializer served hCreated
  have hSize := size_of_serializes h hWritten
  have hTaken := available_of_readsBackAll (readsNew_consumes h) hRead
  exact Nat.eq_of_mul_eq_mul_left (List.length_pos_iff.mpr hSamples) (hSize.symm.trans hTaken)

theorem emitted_eq_of_checkSequenceReusing
    (h : suite.checkSequenceReusing.outcome state = (.ok (), last)) : emitted = consumed := by
  obtain ⟨serializer, served, hCreated, out, written, hWritten, target, created, -, hRead⟩ :=
    checkSequenceReusing_ok_iff.mp h
  have h := hTransfers serializer served hCreated
  have hSize := size_of_serializes h hWritten
  have hTaken := available_of_readsBackAll (readsReusing_consumes h) hRead
  exact Nat.eq_of_mul_eq_mul_left (List.length_pos_iff.mpr hSamples) (hSize.symm.trans hTaken)

/-- A check that passes has moved and read as many bytes as it wrote. -/
theorem emitted_eq_of_checkRawCopy (h : suite.checkRawCopy.outcome state = (.ok (), last)) :
    emitted = moved ∧ moved = consumed := by
  obtain ⟨serializer, served, hCreated, hStream⟩ := checkRawCopy_ok_iff.mp h
  have h := hTransfers serializer served hCreated
  obtain ⟨v, rest, hSome⟩ := List.exists_cons_of_ne_nil hSamples
  rw [hSome] at hStream
  obtain ⟨_, hFirst, -⟩ := Successive.cons_iff.mp hStream
  exact emitted_eq_of_copiesBackAlone h hFirst

theorem emitted_eq_of_checkRawCopySequence
    (h : suite.checkRawCopySequence.outcome state = (.ok (), last)) : emitted = moved ∧ moved = consumed := by
  obtain ⟨serializer, served, hCreated, out, written, hWritten, source, target, copied, hCopied, hSource,
    hRead⟩ := checkRawCopySequence_ok_iff.mp h
  have h := hTransfers serializer served hCreated
  have hPositive := List.length_pos_iff.mpr hSamples
  have hSize := size_of_serializes h hWritten
  have hTaken := hCopied.shrinks (fun state => state.1.1.available) fun _ before after hStep =>
    (h.rawCopy before after hStep).1
  have hAdded := hCopied.grows (fun state => state.1.2.size) fun _ before after hStep =>
    (h.rawCopy before after hStep).2
  have hTaken : out.size = source.available + suite.fixture.samples.length * moved := hTaken
  have hAdded : target.size = 0 + suite.fixture.samples.length * moved := hAdded
  have hRead : target.size = suite.fixture.samples.length * consumed :=
    available_of_readsBackAll (readsFresh_consumes h) hRead
  exact ⟨Nat.eq_of_mul_eq_mul_left hPositive (by omega), Nat.eq_of_mul_eq_mul_left hPositive (by omega)⟩

end Checks

end Suite

end SerializerContract
