import SerializerContract.Proofs.Conformance.Number
import SerializerContract.Proofs.Conformance.Wrapper

/-! Reuse targets of wrapped serializers. The contract lets a serializer return a value other than the
reuse target. A wrapper lends its own target to the wrapped serializer and returns it afterwards, whatever
was returned to it; so what a wrapper returns is right only if the value was left in the lent target. -/
namespace SerializerContract

namespace World

variable {σ A S N : Type} {t : ValueType} {C : Contract σ A t S N} {W : World σ S N t.Val}
    {state : σ} {x : S} {padding : Nat} {v : Option t.Val}

/-! ## Values that are returned -/

/-- What is returned is a copy, whatever becomes of the reuse target. -/
def ReturnsCopies (W : World σ S N t.Val) (C : Contract σ A t S N) : Prop :=
  ∀ x state v target, W.live x state → W.domain v →
    ((C.operations x).copyInto v).Succeeds (target, state) fun returned last =>
      W.like v (returned.value last.1) ∧ W.Keeps state last.2

/-- Every value is copied faithfully and survives a round trip, judged by what is returned. -/
structure Faithful (W : World σ S N t.Val) (C : Contract σ A t S N) : Prop where
  copies : W.Copies C
  returnsCopies : W.ReturnsCopies C
  serializes : W.Serializes C
  deserializes : W.Deserializes C
  deserializesInto : W.DeserializesInto C

/-- What a serializer leaves in a reuse target that it copies to. -/
def leftByCopy (C : Contract σ A t S N) (x : S) (v old : t.Val) (state : σ) : t.Val :=
  (((C.operations x).copyInto v).outcome (old, state)).2.1

/-- What a serializer leaves in a reuse target that it reads into. -/
def leftByRead (C : Contract σ A t S N) (x : S) (old : t.Val) (input : InputChannel) (state : σ) : t.Val :=
  ((C.operations x).deserializeInto.outcome ((old, input), state)).2.1.1

/-! ## What a wrapper returns -/

/-- A copy is in the wrapper's target, unless it was left out of a value that was lent. -/
theorem Faithful.copyInto_succeeds (h : W.Faithful C) (hLive : W.live x state)
    (hDomain : ∀ u ∈ v, W.domain u) (reuse : Option t.Val) :
    ((Nullable.operations (C.operations x) padding).copyInto v).Succeeds (reuse, state)
      fun returned last => returned = .target ∧ W.Keeps state last.2 ∧
        (Option.Rel W.like v (returned.value last.1) ↔
          ∀ u ∈ v, ∀ old ∈ reuse, W.like u (leftByCopy C x u old state)) := by
  cases v with
  | none =>
      refine ⟨.target, (none, state), rfl, rfl, Keeps.refl W state, fun _ _ hNone => ?_, fun _ => .none⟩
      cases hNone
  | some u =>
      cases reuse with
      | none =>
          obtain ⟨copied, last, hOutcome, hLike, hKeeps⟩ := h.copies x state u hLive (hDomain u rfl)
          refine ⟨.target, (some copied, last), Nullable.copyInto_new_outcome hOutcome, rfl, hKeeps, ?_⟩
          simp [Returned.value, hLike]
      | some old =>
          obtain ⟨returned, ⟨held, last⟩, hOutcome, -, hKeeps⟩ :=
            h.returnsCopies x state u old hLive (hDomain u rfl)
          refine ⟨.target, (some held, last), Nullable.copyInto_lent_outcome hOutcome, rfl, hKeeps, ?_⟩
          have hHeld : leftByCopy C x u old state = held := by rw [leftByCopy, hOutcome]
          simp [Returned.value, hHeld]

/-- What is read is in the wrapper's target, unless it was left out of a value that was lent. Exactly the
bytes of the optional value are consumed in any case. -/
theorem Faithful.deserializeInto_succeeds (h : W.Faithful C) (hLive : W.live x state)
    (hDomain : ∀ u ∈ v, W.domain u) (reuse : Option t.Val) {input : InputChannel} {suffix : Bytes}
    (hInput : input.rest = W.optionalBytes x padding v ++ suffix) (hRoom : input.rest.length ≤ W.room) :
    (Nullable.operations (C.operations x) padding).deserializeInto.Succeeds ((reuse, input), state)
      fun returned last => returned = .target ∧ last.1.2.rest = suffix ∧ W.Keeps state last.2 ∧
        (Option.Rel W.like v (returned.value last.1.1) ↔
          ∀ u ∈ v, ∀ old ∈ reuse, W.like u
            (leftByRead C x old (input.advanceTo input.rest.tail) state)) := by
  cases v with
  | none =>
      apply (deserializeInto_none_succeeds (C.operations x) hInput reuse).mono
      intro returned last hRead
      obtain ⟨rfl, hHeld, hRest, hSame⟩ := hRead
      refine ⟨rfl, hRest, hSame ▸ Keeps.refl W state, fun _ _ hNone => ?_, fun _ => ?_⟩
      · cases hNone
      · rw [Returned.value, hHeld]
        exact .none
  | some u =>
      have hFlag : input.rest = Nullable.flagByte false :: (W.bytes x u ++ suffix) := hInput
      have hShorter : (W.bytes x u ++ suffix).length ≤ W.room := by
        rw [hFlag, List.length_cons] at hRoom
        omega
      have hTail : input.rest.tail = W.bytes x u ++ suffix := by rw [hFlag, List.tail_cons]
      cases reuse with
      | none =>
          obtain ⟨w, ⟨input', last⟩, hOutcome, hLike, hRest, hKeeps⟩ := h.deserializes x state u
            (input.advanceTo (W.bytes x u ++ suffix)) suffix hLive (hDomain u rfl) rfl hShorter
          refine ⟨.target, ((some w, input'), last), Nullable.deserializeInto_new_outcome hFlag hOutcome,
            rfl, hRest, hKeeps, ?_⟩
          simp [Returned.value, hLike]
      | some old =>
          obtain ⟨returned, ⟨⟨held, input'⟩, last⟩, hOutcome, -, hRest, hKeeps⟩ := h.deserializesInto x
            state u old (input.advanceTo (W.bytes x u ++ suffix)) suffix hLive (hDomain u rfl) rfl hShorter
          refine ⟨.target, ((some held, input'), last), Nullable.deserializeInto_lent_outcome hFlag hOutcome,
            rfl, hRest, hKeeps, ?_⟩
          have hHeld : leftByRead C x old (input.advanceTo input.rest.tail) state = held := by
            rw [leftByRead, hTail, hOutcome]
          simp [Returned.value, hHeld]

/-- A wrapper of a serializer that is faithful by what it returns always returns its reuse target. The
target is the copied or deserialized value if that is null, if the target held null, and otherwise exactly
if the wrapped serializer left the value in the target that was lent to it. Whatever was written for an
optional value is consumed to the last byte, and nothing behind it. -/
theorem wrapper_returns_iff_left (h : W.Faithful C) (hLive : W.live x state)
    (hLongest : W.room ≤ Bytes.longest) (hPadding : padding ≤ 0x7fffffff)
    (hDomain : ∀ u ∈ v, W.domain u) (reuse : Option t.Val) :
    ((Nullable.operations (C.operations x) padding).copyInto v).Succeeds (reuse, state)
      (fun returned last => returned = .target ∧ W.Keeps state last.2 ∧
        (Option.Rel W.like v (returned.value last.1) ↔
          ∀ u ∈ v, ∀ old ∈ reuse, W.like u (leftByCopy C x u old state))) ∧
    ∀ out : OutputChannel, out.size + (W.optionalBytes x padding v).length ≤ W.room →
      ((Nullable.operations (C.operations x) padding).serialize v).Succeeds (out, state)
        fun _ written => ∃ bytes, written.1 = out.appended bytes ∧ W.Keeps state written.2 ∧
          ∀ later (input : InputChannel) suffix, W.Keeps written.2 later → input.rest = bytes ++ suffix →
            input.rest.length ≤ W.room →
            (Nullable.operations (C.operations x) padding).deserializeInto.Succeeds ((reuse, input), later)
              fun returned last => returned = .target ∧ last.1.2.rest = suffix ∧ W.Keeps later last.2 ∧
                (Option.Rel W.like v (returned.value last.1.1) ↔
                  ∀ u ∈ v, ∀ old ∈ reuse, W.like u
                    (leftByRead C x old (input.advanceTo input.rest.tail) later)) := by
  refine ⟨h.copyInto_succeeds hLive hDomain reuse, fun out hRoom => ?_⟩
  apply (serialize_succeeds h.serializes hLive hDomain hPadding hRoom hLongest).mono
  intro _ written hWritten
  obtain ⟨hOut, hKeeps⟩ := hWritten
  refine ⟨_, hOut, hKeeps, fun later input suffix hLater hInput hFits => ?_⟩
  exact h.deserializeInto_succeeds ((hKeeps.trans hLater).live x hLive) hDomain reuse hInput hFits

end World

/-! ## A serializer that leaves reuse targets alone -/

namespace NumberSerializer

variable {A : Type} {ofAny : A → Option NumberSnapshot} {x : NumberSerializer}

def aloofScript : Script := { copyInto := .returnsOther, readInto := .returnsOther }

/-- Reuse targets are left alone, and the values are returned beside them. -/
def aloof : NumberKind := .scripted aloofScript 0

/-- What is known of serializers of numbers that leave reuse targets alone. -/
def aloofWorld : World Store NumberSerializer NumberSnapshot ValueType.int32.Val :=
  { world with live := fun x _ => x.config = aloof }

theorem aloofWorld_keeps (before after : Store) : aloofWorld.Keeps before after :=
  ⟨id, fun _ => id, fun _ _ => id, fun _ _ => id⟩

theorem operations_of_aloof (h : x.config = aloof) :
    (contract ofAny).operations x = aloofScript.operations x.id := by
  change x.operations = _
  rw [operations, h]
  rfl

theorem aloof_serialize_outcome (id : Nat) (v : BitVec 32) (out : OutputChannel) (state : Store) :
    ((aloofScript.operations id).serialize v).outcome (out, state) =
      (.ok (), (out.appended (wordBytes v), state)) := by
  have hSame : v + aloofScript.writeAdd = v := BitVec.add_zero v
  have hOnce : (Script.writeTimes (v + aloofScript.writeAdd) 1).outcome out =
      (.ok (), out.appended (wordBytes v)) := by
    rw [hSame]
    exact Action.then_ok_iff.mpr ⟨_, OutputChannel.write_outcome (wordCodec_trips v) out, rfl⟩
  refine Action.then_ok_iff.mpr ⟨(out, state), rfl, Action.onFirst_ok_iff.mpr ⟨?_, rfl⟩⟩
  refine Action.then_ok_iff.mpr ⟨out.appended (wordBytes v), hOnce, ?_⟩
  rw [OutputChannel.writeRaw_outcome]
  exact congrArg (Prod.mk (Except.ok ())) (OutputChannel.appended_nil _)

/-- The aloof serializer reads its number back from the front of the input. -/
theorem aloof_readNumber_succeeds {input : InputChannel} {v : BitVec 32} {suffix : Bytes}
    (hInput : input.rest = wordBytes v ++ suffix) (hLength : input.rest.length ≤ Bytes.longest) :
    aloofScript.readNumber.Succeeds input fun w last => w = v ∧ last.rest = suffix := by
  have hOnce : (Script.readLast 1 0).Succeeds input fun w last => w = v ∧ last.rest = suffix :=
    (InputChannel.read_succeeds (wordCodec_trips v) hInput hLength).bind fun w last hRead =>
      ⟨w, last, rfl, hRead⟩
  apply hOnce.bind
  intro w middle hRead
  obtain ⟨rfl, hRest⟩ := hRead
  apply (InputChannel.skip_succeeds (List.length_nil : ([] : Bytes).length = 0) hRest).bind
  intro _ last hSkipped
  exact Action.pure_succeeds ⟨BitVec.add_zero w, hSkipped⟩

/-- The serializer that ignores its target is faithful all the same. -/
theorem aloofWorld_faithful : aloofWorld.Faithful (contract ofAny) where
  copies := by
    intro x state v hLive _
    rw [operations_of_aloof hLive]
    exact Action.pure_succeeds ⟨(BitVec.add_zero v).symm, aloofWorld_keeps _ _⟩
  returnsCopies := by
    intro x state v target hLive _
    rw [operations_of_aloof hLive]
    exact ⟨.other v, (target, state), rfl, rfl, aloofWorld_keeps _ _⟩
  serializes := by
    intro x state v out hLive _ _
    rw [operations_of_aloof hLive]
    exact ⟨(), _, aloof_serialize_outcome x.id v out state, rfl, aloofWorld_keeps _ _⟩
  deserializes := by
    intro x state v input suffix hLive _ hInput hRoom
    rw [operations_of_aloof hLive]
    apply (aloof_readNumber_succeeds hInput hRoom).onFirst.bind
    intro w last hRead
    obtain ⟨⟨rfl, hRest⟩, -⟩ := hRead
    exact Action.pure_succeeds ⟨rfl, hRest, aloofWorld_keeps _ _⟩
  deserializesInto := by
    intro x state v target input suffix hLive _ hInput hRoom
    rw [operations_of_aloof hLive]
    apply (aloof_readNumber_succeeds hInput hRoom).onSecond.onFirst.bind
    intro w last hRead
    obtain ⟨⟨⟨rfl, hRest⟩, -⟩, -⟩ := hRead
    exact ⟨.other w, last, rfl, rfl, hRest, aloofWorld_keeps _ _⟩

/-- A serializer can be faithful by what it returns, and its wrapper still returns the old value. -/
theorem aloof_reuse_lost :
    aloofWorld.Faithful (contract (Family.snapshotOf .number)) ∧ aloofWorld.live ⟨0, aloof⟩ {} ∧
    (Nullable.copyInto (aloofScript.operations 0) (some 5)).outcome (some 3, {}) =
      (.ok .target, (some 3, {})) ∧
    (Nullable.deserializeInto (aloofScript.operations 0) 0).outcome
        ((some 3, .ofBytes [0, 0, 0, 0, 5]), {}) =
      (.ok .target, ((some 3, ⟨[0, 0, 0, 0, 5], []⟩), {})) :=
  ⟨aloofWorld_faithful, rfl, rfl, rfl⟩

/-- The wrapper of such a serializer returns a target that is not the value it copied. -/
theorem aloof_wrapper_returns_old :
    aloofWorld.Faithful (contract (Family.snapshotOf .number)) ∧ aloofWorld.live ⟨0, aloof⟩ {} ∧
    aloofWorld.room ≤ Bytes.longest ∧ (∀ u ∈ some (5 : BitVec 32), aloofWorld.domain u) ∧
    ((Nullable.operations ((contract (Family.snapshotOf .number)).operations ⟨0, aloof⟩) 4).copyInto
      (some (5 : BitVec 32))).Succeeds (some (3 : BitVec 32), {}) fun returned last =>
        returned = .target ∧ ¬ Option.Rel aloofWorld.like (some (5 : BitVec 32)) (returned.value last.1) := by
  have hFaithful : aloofWorld.Faithful (contract (Family.snapshotOf .number)) := aloofWorld_faithful
  have hLive : aloofWorld.live ⟨0, aloof⟩ {} := rfl
  have hPadding : 4 ≤ 0x7fffffff := by decide
  have hDomain : ∀ u ∈ (some (5 : BitVec 32) : Option ValueType.int32.Val), aloofWorld.domain u :=
    fun _ _ => trivial
  refine ⟨hFaithful, hLive, Nat.le_refl _, hDomain, ?_⟩
  have hReturns := World.wrapper_returns_iff_left hFaithful hLive (Nat.le_refl _) hPadding hDomain
    (some (3 : BitVec 32))
  apply hReturns.1.mono
  intro returned last hReturned
  obtain ⟨hTarget, -, hLeft⟩ := hReturned
  refine ⟨hTarget, fun hSame => ?_⟩
  have hFive : (5 : BitVec 32) = 3 := hLeft.mp hSame (5 : BitVec 32) rfl (3 : BitVec 32) rfl
  exact absurd hFive (by decide)

end NumberSerializer

end SerializerContract
