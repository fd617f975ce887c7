import SerializerContract.Proofs.Conformance.Wrapper
import SerializerContract.Proofs.Reading.Operations

/-! Reading an optional value from any source. The three ways to read it fail alike on the flag, on the padding,
or on what is wrapped. A flag is copied as yes or no, so it is copied as it is only if it is one of these. -/
namespace SerializerContract

namespace Nullable

variable {σ α : Type} {inner : Operations σ α} {padding : Nat} {like : α → α → Prop} {front rest : Bytes}
    {v : α}

/-- One byte decides between null and a value. -/
theorem readFlag_outcome_cons (isNull : Bool) (past rest : Bytes) :
    readFlag.outcome ⟨past, flagByte isNull :: rest⟩ = (.ok isNull, ⟨past ++ [flagByte isNull], rest⟩) :=
  (readFlag_outcome rfl).trans
    (congrArg (Prod.mk (Except.ok isNull)) (InputChannel.advanceTo_append past [flagByte isNull] rest))

/-- An exhausted input has no flag. -/
theorem readFlag_fails (past : Bytes) : readFlag.Fails ⟨past, []⟩ :=
  (InputChannel.read_fails ((Codec.number_sized .network 1).rejects [] Nat.one_pos) past).bind _

/-- A flag is copied, and then the padding is moved or the value is copied. -/
theorem rawCopy_outcome (isNull : Bool) (past rest : Bytes) (out : OutputChannel) (state : σ) :
    (rawCopy inner padding).outcome ((⟨past, flagByte isNull :: rest⟩, out), state) =
      (if isNull then Action.onFirst (OutputChannel.move padding) else inner.rawCopy).outcome
        ((⟨past ++ [flagByte isNull], rest⟩, out.appended [flagByte isNull]), state) := by
  have hRead : (Action.onFirst (σ := σ) (Action.onFirst (σ := OutputChannel) readFlag)).outcome
      ((⟨past, flagByte isNull :: rest⟩, out), state) =
        (.ok isNull, ((⟨past ++ [flagByte isNull], rest⟩, out), state)) :=
    Action.onFirst_ok_iff.mpr ⟨Action.onFirst_ok_iff.mpr ⟨readFlag_outcome_cons isNull past rest, rfl⟩, rfl⟩
  have hWrite : (Action.onFirst (σ := σ) (Action.onSecond (s := InputChannel) (writeFlag isNull))).outcome
      ((⟨past ++ [flagByte isNull], rest⟩, out), state) =
        (.ok (), ((⟨past ++ [flagByte isNull], rest⟩, out.appended [flagByte isNull]), state)) :=
    Action.onFirst_ok_iff.mpr ⟨Action.onSecond_ok_iff.mpr ⟨writeFlag_outcome isNull out, rfl⟩, rfl⟩
  rw [rawCopy, Action.outcome_bind, hRead]
  simp only [Action.outcome_bind, hWrite]

/-- A flag is read, and then the padding is passed over or the value is decoded. -/
theorem deserialize_outcome (isNull : Bool) (past rest : Bytes) (state : σ) :
    (deserialize inner padding).outcome (⟨past, flagByte isNull :: rest⟩, state) =
      (if isNull then (do Action.onFirst (InputChannel.skip padding); return none)
        else do return some (← inner.deserialize) : Action (InputChannel × σ) (Option α)).outcome
        (⟨past ++ [flagByte isNull], rest⟩, state) := by
  have hRead : (Action.onFirst (σ := σ) readFlag).outcome (⟨past, flagByte isNull :: rest⟩, state) =
      (.ok isNull, (⟨past ++ [flagByte isNull], rest⟩, state)) :=
    Action.onFirst_ok_iff.mpr ⟨readFlag_outcome_cons isNull past rest, rfl⟩
  rw [deserialize, Action.outcome_bind, hRead]

theorem readFlag_into_outcome_cons (isNull : Bool) (past rest : Bytes) (reuse : Option α) (state : σ) :
    (Action.onFirst (σ := σ) (Action.onSecond (s := Option α) readFlag)).outcome
      ((reuse, ⟨past, flagByte isNull :: rest⟩), state) =
        (.ok isNull, ((reuse, ⟨past ++ [flagByte isNull], rest⟩), state)) :=
  Action.onFirst_ok_iff.mpr ⟨Action.onSecond_ok_iff.mpr ⟨readFlag_outcome_cons isNull past rest, rfl⟩, rfl⟩

theorem withInner_fails {β ρ : Type} {action : Action ((α × ρ) × σ) β} {old : α} {part : ρ} {state : σ}
    (h : action.Fails ((old, part), state)) (reuse : Option α) :
    (withInner old action).Fails ((reuse, part), state) := by
  obtain ⟨failure, ⟨⟨held, part'⟩, last⟩, hOutcome⟩ := h
  exact ⟨failure, ((some held, part'), last), by rw [withInner_outcome, hOutcome]⟩

/-! ## What a wrapper does with a source -/

/-- Null is a flag and a padding, whatever the padding consists of. -/
theorem operations_accepts_null {pad : Bytes} (hPad : pad.length = padding) :
    (operations inner padding).Accepts (Option.Rel like) (flagByte true :: pad) none where
  like_self := .none
  rawCopy past suffix out state := by
    have hMove := OutputChannel.move_outcome hPad (past ++ [flagByte true]) suffix
      (out.appended [flagByte true])
    refine (rawCopy_outcome true past (pad ++ suffix) out state).trans ?_
    rw [if_pos rfl]
    refine Action.onFirst_ok_iff.mpr ⟨hMove.trans ?_, rfl⟩
    simp
  deserialize past suffix state := by
    have hSkip := InputChannel.skip_outcome hPad (past ++ [flagByte true]) suffix
    refine (deserialize_outcome true past (pad ++ suffix) state).trans ?_
    rw [if_pos rfl]
    refine Action.then_ok_iff.mpr ⟨_, Action.onFirst_ok_iff.mpr ⟨hSkip, rfl⟩, ?_⟩
    simp
  deserializeInto past suffix reuse state := by
    have hSkip := InputChannel.skip_outcome hPad (past ++ [flagByte true]) suffix
    refine ⟨none, .none, ?_⟩
    refine Action.bind_ok_iff.mpr ⟨true, _, readFlag_into_outcome_cons true past (pad ++ suffix) reuse state, ?_⟩
    simp only [if_true]
    refine Action.then_ok_iff.mpr ⟨((reuse, ⟨past ++ [flagByte true] ++ pad, suffix⟩), state), ?_, ?_⟩
    · exact Action.onFirst_ok_iff.mpr ⟨Action.onSecond_ok_iff.mpr ⟨hSkip, rfl⟩, rfl⟩
    · refine Action.then_ok_iff.mpr ⟨((none, ⟨past ++ [flagByte true] ++ pad, suffix⟩), state), rfl, ?_⟩
      simp

/-- Any other value is a flag and what is wrapped. A value in the reuse target is lent. -/
theorem operations_accepts_value (h : inner.Accepts like front v) :
    (operations inner padding).Accepts (Option.Rel like) (flagByte false :: front) (some v) where
  like_self := .some h.like_self
  rawCopy past suffix out state := by
    refine (rawCopy_outcome false past (front ++ suffix) out state).trans ?_
    simp [h.rawCopy]
  deserialize past suffix state := by
    refine (deserialize_outcome false past (front ++ suffix) state).trans ?_
    rw [List.append_cons past (flagByte false) front]
    exact Action.bind_ok_iff.mpr ⟨v, _, h.deserialize (past ++ [flagByte false]) suffix state, rfl⟩
  deserializeInto past suffix reuse state := by
    have hAdvance : (⟨past, flagByte false :: (front ++ suffix)⟩ : InputChannel).advanceTo (front ++ suffix) =
        ⟨past ++ [flagByte false], front ++ suffix⟩ :=
      InputChannel.advanceTo_append past [flagByte false] (front ++ suffix)
    rw [List.append_cons past (flagByte false) front]
    cases reuse with
    | none =>
        exact ⟨some v, .some h.like_self, deserializeInto_new_outcome rfl
          (hAdvance ▸ h.deserialize (past ++ [flagByte false]) suffix state)⟩
    | some old =>
        obtain ⟨held, hLike, hInto⟩ := h.deserializeInto (past ++ [flagByte false]) suffix old state
        exact ⟨some held, .some hLike, deserializeInto_lent_outcome rfl (hAdvance ▸ hInto)⟩

/-- All three readings refuse the empty input. -/
theorem operations_refuses_nil : (operations inner padding).Refuses [] where
  rawCopy past _ _ := (readFlag_fails past).onFirst.onFirst.bind _
  deserialize past _ := (readFlag_fails past).onFirst.bind _
  deserializeInto past _ _ := (readFlag_fails past).onSecond.onFirst.bind _

/-- All three readings refuse a null whose padding is cut short. -/
theorem operations_refuses_null (hShort : rest.length < padding) :
    (operations inner padding).Refuses (flagByte true :: rest) where
  rawCopy past out state :=
    (OutputChannel.move_fails hShort (past ++ [flagByte true]) (out.appended [flagByte true])).onFirst
      |>.of_outcome_eq (rawCopy_outcome true past rest out state)
  deserialize past state :=
    (InputChannel.skip_fails hShort (past ++ [flagByte true])).onFirst.bind _
      |>.of_outcome_eq (deserialize_outcome true past rest state)
  deserializeInto past reuse state :=
    .of_first (readFlag_into_outcome_cons true past rest reuse state)
      ((InputChannel.skip_fails hShort (past ++ [flagByte true])).onSecond.onFirst.bind _)

/-- All three readings refuse a flagged value that the inner serializer refuses. -/
theorem operations_refuses_value (h : inner.Refuses rest) :
    (operations inner padding).Refuses (flagByte false :: rest) where
  rawCopy past out state :=
    (h.rawCopy (past ++ [flagByte false]) (out.appended [flagByte false]) state)
      |>.of_outcome_eq (rawCopy_outcome false past rest out state)
  deserialize past state :=
    ((h.deserialize (past ++ [flagByte false]) state).bind _)
      |>.of_outcome_eq (deserialize_outcome false past rest state)
  deserializeInto past reuse state := by
    refine .of_first (readFlag_into_outcome_cons false past rest reuse state) ?_
    refine .of_first (a := ((reuse, ⟨past ++ [flagByte false], rest⟩), state)) rfl ?_
    cases reuse with
    | none =>
        have hNew : (Action.zoom (fun x : (Option α × InputChannel) × σ => (x.1.2, x.2))
            (fun x y => ((y.1.1, x.1), x.2)) inner.deserialize).Fails
            ((none, ⟨past ++ [flagByte false], rest⟩), state) :=
          Action.Fails.zoom (h.deserialize (past ++ [flagByte false]) state)
        exact hNew.bind _
    | some old =>
        exact (withInner_fails (h.deserializeInto (past ++ [flagByte false]) old state) (some old)).bind _

/-- After a flag the padding is all that counts, or what is wrapped. -/
theorem operations_agrees {flag : UInt8}
    (h : flag = flagByte true ∨ flag = flagByte false ∧ inner.Agrees like rest) :
    (operations inner padding).Agrees (Option.Rel like) (flag :: rest) := by
  obtain rfl | ⟨rfl, hInner⟩ := h
  · by_cases hShort : rest.length < padding
    · exact .refused (operations_refuses_null hShort)
    · obtain ⟨pad, suffix, rfl, hPad⟩ := Codec.exists_front (Nat.not_lt.mp hShort)
      exact .accepted (operations_accepts_null hPad) suffix
  · cases hInner with
    | refused hRefuses => exact .refused (operations_refuses_value hRefuses)
    | accepted hAccepts suffix => exact .accepted (operations_accepts_value hAccepts) suffix

end Nullable

end SerializerContract
