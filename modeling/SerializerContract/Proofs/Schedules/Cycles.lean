import SerializerContract.Proofs.Schedules.Turns

/-! Workers whose duplicates do the same whatever the state is. What becomes of a sample is then the same for
every worker and at any time, so a worker fails at the first of its samples that fails a cycle, in whatever state
and with whatever it has read before. -/
namespace SerializerContract.Duplication

variable {σ A S N l β : Type} {t : ValueType} {C : Contract σ A t S N} {checker : Checker}
    {valid : σ → Prop} {x y : S} {state other : σ}

/-- Two operations on a channel do the same, each in any valid state, and leave a valid one. -/
def Alike (valid : σ → Prop) (first second : Action (l × σ) β) : Prop :=
  ∀ given state other, valid state → valid other → ∃ result after state' other',
    first.outcome (given, state) = (result, (after, state')) ∧
      second.outcome (given, other) = (result, (after, other')) ∧ valid state' ∧ valid other'

/-- What is alike beside nothing is alike on the state alone. -/
theorem Alike.second {first second : Action σ β}
    (h : Alike valid (Action.onSecond first : Action (Unit × σ) β) (Action.onSecond second))
    (hState : valid state) (hOther : valid other) : ∃ result state' other',
      first.outcome state = (result, state') ∧ second.outcome other = (result, other') ∧
        valid state' ∧ valid other' := by
  obtain ⟨result, after, state', other', hFirst, hSecond, hState', hOther'⟩ := h () state other hState hOther
  exact ⟨result, state', other', congrArg (fun last => (last.1, last.2.2)) hFirst,
    congrArg (fun last => (last.1, last.2.2)) hSecond, hState', hOther'⟩

/-- What workers do with two serializers is the same and does not depend on the state. -/
structure ActAlike (C : Contract σ A t S N) (valid : σ → Prop) (x y : S) : Prop where
  serialize : ∀ v, Alike valid ((C.operations x).serialize v) ((C.operations y).serialize v)
  deserialize : Alike valid (C.operations x).deserialize (C.operations y).deserialize
  copy : ∀ v, Alike valid (Action.onSecond ((C.operations x).copy v) : Action (Unit × σ) t.Val)
    (Action.onSecond ((C.operations y).copy v))

/-- What a sample fails with when it is serialized, deserialized, copied and compared, if it fails. -/
def cycle (C : Contract σ A t S N) (checker : Checker) (serializer : S) (sample : t.Val) (state : σ) :
    Option Failure :=
  (alone C checker 4 { serializer := serializer, samples := [sample] } state).1.failure

/-- A worker fails with what its sample fails with, or goes on to its other samples. -/
theorem alone_cycle (checker : Checker) (h : ActAlike C valid x y) (hState : valid state) (hOther : valid other)
    (input : InputChannel) (v : t.Val) (rest : List t.Val) :
    (∃ failure, cycle C checker x v other = some failure ∧
      (alone C checker 4 { serializer := y, input := input, samples := v :: rest } state).1.failure = some failure) ∨
      (cycle C checker x v other = none ∧ ∃ input' state', valid state' ∧
        alone C checker 4 { serializer := y, input := input, samples := v :: rest } state =
          ({ serializer := y, input := input', samples := rest }, state')) := by
  obtain ⟨written, out, otherWritten, stateWritten, hX, hY, hOther, hState⟩ := h.serialize v {} other state hOther hState
  cases written with
  | error failure =>
      exact .inl ⟨failure, by simp [cycle, alone, step, hX, settle], by simp [alone, step, hY, settle]⟩
  | ok =>
  obtain ⟨read, input', otherRead, stateRead, hXRead, hYRead, hOther, hState⟩ :=
    h.deserialize (.ofBytes out.data) otherWritten stateWritten hOther hState
  cases read with
  | error failure =>
      exact .inl ⟨failure, by simp [cycle, alone, step, hX, hXRead, settle],
        by simp [alone, step, hY, hYRead, settle]⟩
  | ok w =>
  obtain ⟨copied, otherCopied, stateCopied, hXCopied, hYCopied, hOther, hState⟩ := (h.copy w).second hOther hState
  cases copied with
  | error failure =>
      exact .inl ⟨failure, by simp [cycle, alone, step, hX, hXRead, hXCopied, settle],
        by simp [alone, step, hY, hYRead, hYCopied, settle]⟩
  | ok copy =>
  rcases hEqual : checker.equals t v copy with failure | _ | _
  · refine .inl ⟨failure, ?_, ?_⟩
    · simp [cycle, alone, step, hX, hXRead, hXCopied, hEqual, settle]
    · simp [alone, step, hY, hYRead, hYCopied, hEqual, settle]
  · refine .inl ⟨unequal t v copy, ?_, ?_⟩
    · simp [cycle, alone, step, hX, hXRead, hXCopied, hEqual, settle]
    · simp [alone, step, hY, hYRead, hYCopied, hEqual, settle]
  · refine .inr ⟨?_, input', stateCopied, hState, ?_⟩
    · simp [cycle, alone, step, hX, hXRead, hXCopied, hEqual, settle]
    · simp [alone, step, hY, hYRead, hYCopied, hEqual, settle]

/-- A worker on its own fails with what the first of its samples that fails a cycle fails with. -/
theorem failure_alone (h : ActAlike C valid x y) (hState : valid state) (hOther : valid other)
    (input : InputChannel) (samples : List t.Val) :
    (alone C checker (4 * samples.length) { serializer := y, input := input, samples := samples } state).1.failure =
      samples.findSome? fun v => cycle C checker x v other := by
  induction samples generalizing input state with
  | nil => rfl
  | cons v rest ih =>
      have hTurns : 4 * (v :: rest).length = 4 + 4 * rest.length := by
        rw [List.length_cons]
        omega
      rw [hTurns, alone_add, List.findSome?_cons]
      obtain ⟨failure, hCycle, hFailed⟩ | ⟨hCycle, input', state', hState', hNext⟩ :=
        alone_cycle checker h hState hOther input v rest
      · have hRests : Rests (alone C checker 4 { serializer := y, input := input, samples := v :: rest } state).1 :=
          .inl (by rw [hFailed]; exact Option.some_ne_none failure)
        rw [alone_of_rests hRests, hCycle, hFailed]
      · rw [hNext, hCycle]
        exact ih hState' input'

end SerializerContract.Duplication
