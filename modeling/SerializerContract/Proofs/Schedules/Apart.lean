import SerializerContract.Proofs.Escapes.Workers
import SerializerContract.Proofs.Schedules.Turns

/-! Workers whose duplicates share nothing that changes. Each duplicate has a part of the state of its own: its
operations are told by that part alone and leave the parts of the others as they were. A worker then does in
every schedule what it would do if nobody else took turns. -/
namespace SerializerContract.Duplication

variable {σ A S N V α β l : Type} {t : ValueType} {C : Contract σ A t S N} {checker : Checker}
    {valid : σ → Prop} {part : Nat → σ → V} {i : Nat} {worker : Worker S t.Val} {state own : σ}

/-- An operation on a channel that sees and changes the `i`-th part of the state only. -/
structure Confined (valid : σ → Prop) (part : Nat → σ → V) (i : Nat) (action : Action (l × σ) β) : Prop where
  /-- The result, the channel and the part afterwards are told by the channel and the part before. -/
  told : ∀ given state other, valid state → valid other → part i state = part i other →
    (action.outcome (given, state)).1 = (action.outcome (given, other)).1 ∧
      (action.outcome (given, state)).2.1 = (action.outcome (given, other)).2.1 ∧
        part i (action.outcome (given, state)).2.2 = part i (action.outcome (given, other)).2.2
  stays : ∀ given state, valid state → valid (action.outcome (given, state)).2.2
  kept : ∀ given state, valid state → ∀ j, j ≠ i → part j (action.outcome (given, state)).2.2 = part j state

/-- What a worker does with a duplicate is confined to one part of the state. -/
structure Owns (C : Contract σ A t S N) (valid : σ → Prop) (part : Nat → σ → V) (i : Nat) (x : S) : Prop where
  serialize : ∀ v, Confined valid part i ((C.operations x).serialize v)
  deserialize : Confined valid part i (C.operations x).deserialize
  copy : ∀ v, Confined valid part i (Action.onSecond ((C.operations x).copy v) : Action (Unit × σ) t.Val)

/-- Every worker has a duplicate with a part of the state of its own. -/
def ShareNothing (C : Contract σ A t S N) (valid : σ → Prop) (part : Nat → σ → V)
    (workers : List (Worker S t.Val)) : Prop :=
  ∀ i worker, workers[i]? = some worker → Owns C valid part i worker.serializer

/-- A step of a worker is confined to the part of its duplicate. -/
theorem step_told (checker : Checker) (h : Owns C valid part i worker.serializer) (hValid : valid state) (hOwn : valid own)
    (hPart : part i state = part i own) :
    (step C checker worker state).1 = (step C checker worker own).1 ∧
      part i (step C checker worker state).2 = part i (step C checker worker own).2 := by
  by_cases hRests : Rests worker
  · rw [step_of_rests hRests, step_of_rests hRests]
    exact ⟨rfl, hPart⟩
  rw [Rests, not_or, not_not] at hRests
  obtain ⟨x, output, input, stage, samples, _⟩ := worker
  obtain ⟨rfl, hSamples⟩ := hRests
  obtain ⟨v, rest, rfl⟩ := List.exists_cons_of_ne_nil hSamples
  cases stage with
  | serialize =>
      obtain ⟨hResult, hChannel, hAfter⟩ := (h.serialize v).told output state own hValid hOwn hPart
      simp only [step]
      exact ⟨by rw [hResult, hChannel], hAfter⟩
  | deserialize =>
      obtain ⟨hResult, hChannel, hAfter⟩ := h.deserialize.told input state own hValid hOwn hPart
      simp only [step]
      exact ⟨by rw [hResult, hChannel], hAfter⟩
  | copy w =>
      obtain ⟨hResult, -, hAfter⟩ := (h.copy w).told () state own hValid hOwn hPart
      have hCopied : (((C.operations x).copy w).outcome state).1 = (((C.operations x).copy w).outcome own).1 := hResult
      simp only [step]
      exact ⟨by rw [hCopied], hAfter⟩
  | compare copied => exact ⟨rfl, hPart⟩

/-- A turn of one worker leaves the parts of all the others as they were. -/
theorem step_kept (checker : Checker) (h : Owns C valid part i worker.serializer) (hValid : valid state) :
    valid (step C checker worker state).2 ∧ ∀ j, j ≠ i → part j (step C checker worker state).2 = part j state := by
  by_cases hRests : Rests worker
  · rw [step_of_rests hRests]
    exact ⟨hValid, fun _ _ => rfl⟩
  rw [Rests, not_or, not_not] at hRests
  obtain ⟨x, output, input, stage, samples, _⟩ := worker
  obtain ⟨rfl, hSamples⟩ := hRests
  obtain ⟨v, rest, rfl⟩ := List.exists_cons_of_ne_nil hSamples
  cases stage with
  | serialize => exact ⟨(h.serialize v).stays output state hValid, (h.serialize v).kept output state hValid⟩
  | deserialize => exact ⟨h.deserialize.stays input state hValid, h.deserialize.kept input state hValid⟩
  | copy w => exact ⟨(h.copy w).stays () state hValid, (h.copy w).kept () state hValid⟩
  | compare copied => exact ⟨hValid, fun _ _ => rfl⟩

theorem settle_serializer {worker : Worker S α} (result : Except Failure β) {next : β → Worker S α}
    (h : ∀ b, (next b).serializer = worker.serializer) :
    (settle worker result next).serializer = worker.serializer := by
  cases result with
  | error failure => rfl
  | ok b => exact h b

/-- A worker uses one serializer all the time. -/
theorem step_serializer (worker : Worker S t.Val) (state : σ) :
    (step C checker worker state).1.serializer = worker.serializer := by
  by_cases hRests : Rests worker
  · rw [step_of_rests hRests]
  rw [Rests, not_or, not_not] at hRests
  obtain ⟨x, output, input, stage, samples, _⟩ := worker
  obtain ⟨rfl, hSamples⟩ := hRests
  obtain ⟨v, rest, rfl⟩ := List.exists_cons_of_ne_nil hSamples
  cases stage <;> exact settle_serializer _ fun _ => rfl

/-- Whoever takes a turn, every worker keeps its duplicate. -/
theorem ShareNothing.stepAt {workers : List (Worker S t.Val)} (h : ShareNothing C valid part workers)
    (checker : Checker) (state : σ) (j : Nat) : ShareNothing C valid part (stepAt C checker workers state j).1 := by
  intro i worker hWorker
  by_cases hSame : j = i
  · subst hSame
    cases hBefore : workers[j]? with
    | none =>
        rw [stepAt_none hBefore, hBefore] at hWorker
        nomatch hWorker
    | some before =>
        rw [getElem?_stepAt_self C checker state hBefore] at hWorker
        obtain rfl := Option.some.inj hWorker
        rw [step_serializer]
        exact h j before hBefore
  · rw [getElem?_stepAt_of_ne C checker state hSame] at hWorker
    exact h i worker hWorker

/-- The turn of another worker leaves a worker's part of the state as it was. -/
theorem ShareNothing.stepAt_kept {workers : List (Worker S t.Val)} (h : ShareNothing C valid part workers)
    (checker : Checker) (hValid : valid state) (j : Nat) :
    valid (Duplication.stepAt C checker workers state j).2 ∧
      ∀ i, i ≠ j → part i (Duplication.stepAt C checker workers state j).2 = part i state := by
  cases hWorker : workers[j]? with
  | none =>
      rw [stepAt_none hWorker]
      exact ⟨hValid, fun _ _ => rfl⟩
  | some worker =>
      rw [stepAt_self hWorker]
      exact step_kept checker (h j worker hWorker) hValid

/-- A worker that takes some turns among others ends as if it had taken them alone. -/
theorem follow_alone (checker : Checker) (schedule : List Nat) {workers : List (Worker S t.Val)}
    (hShare : ShareNothing C valid part workers) (hValid : valid state) (hWorker : workers[i]? = some worker)
    (hOwn : valid own) (hPart : part i state = part i own) :
    (follow C checker schedule workers state).1[i]? =
      some (alone C checker (schedule.count i) worker own).1 := by
  induction schedule generalizing workers worker state own with
  | nil => exact hWorker
  | cons j schedule ih =>
      obtain ⟨hNext, hKept⟩ := hShare.stepAt_kept checker hValid j
      have hOthers := hShare.stepAt checker state j
      by_cases hSame : j = i
      · subst hSame
        obtain ⟨hStep, hAfter⟩ := step_told checker (hShare j worker hWorker) hValid hOwn hPart
        have hFound := getElem?_stepAt_self C checker state hWorker
        rw [hStep] at hFound
        have hParts : part j (Duplication.stepAt C checker workers state j).2 =
            part j (step C checker worker own).2 := by
          rw [stepAt_self hWorker]
          exact hAfter
        rw [List.count_cons_self]
        exact ih hOthers hNext hFound (step_kept checker (hShare j worker hWorker) hOwn).1 hParts
      · rw [List.count_cons_of_ne hSame]
        exact ih hOthers hNext ((getElem?_stepAt_of_ne C checker state hSame).trans hWorker) hOwn
          ((hKept i (Ne.symm hSame)).trans hPart)

/-- Each worker at the end of a run was there at its beginning. -/
theorem exists_begun {schedule : List Nat} {workers : List (Worker S t.Val)} {state : σ} {i : Nat}
    {worker : Worker S t.Val} (h : (follow C checker schedule workers state).1[i]? = some worker) :
    ∃ begun, workers[i]? = some begun := by
  have hIndex := (List.getElem?_eq_some_iff.mp h).1
  rw [follow_length] at hIndex
  exact ⟨_, List.getElem?_eq_getElem hIndex⟩

/-- Workers that follow a schedule until all of them rest end as each of them does alone. -/
theorem follow_rests {schedule : List Nat} {workers : List (Worker S t.Val)}
    (hShare : ShareNothing C valid part workers) (hValid : valid state)
    (hRest : ∀ worker ∈ (follow C checker schedule workers state).1, Rests worker)
    (hWorker : workers[i]? = some worker) :
    (follow C checker schedule workers state).1[i]? =
      some (alone C checker (turnsToRest worker) worker state).1 := by
  have hEnd := follow_alone checker schedule hShare hValid hWorker hValid rfl
  rw [hEnd, alone_unique (hRest _ (List.mem_of_getElem? hEnd)) (rests_alone (Nat.le_refl _))]

/-- A schedule in which every worker has turns enough lets all of them rest in the end. -/
theorem rests_follow {schedule : List Nat} {workers : List (Worker S t.Val)}
    (hShare : ShareNothing C valid part workers) (hValid : valid state)
    (hTurns : ∀ i worker, workers[i]? = some worker → turnsToRest worker ≤ schedule.count i) :
    ∀ worker ∈ (follow C checker schedule workers state).1, Rests worker := by
  intro worker hWorker
  obtain ⟨i, hFound⟩ := List.getElem?_of_mem hWorker
  obtain ⟨begun, hBegun⟩ := exists_begun hFound
  rw [follow_alone checker schedule hShare hValid hBegun hValid rfl] at hFound
  obtain rfl := Option.some.inj hFound
  exact rests_alone (hTurns i begun hBegun)

end SerializerContract.Duplication
