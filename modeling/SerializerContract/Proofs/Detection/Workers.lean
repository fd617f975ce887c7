import SerializerContract.Proofs.Detection.Transfers

/-! Workers that fail. A worker that has failed takes no more steps, so its failure is there in the end, and
the run reports it. The first worker begins; if it reads more than it wrote, its second step fails. -/
namespace SerializerContract

theorem RunOptions.workers_ne_zero {options : RunOptions} (h : options.isUsable = true) :
    options.workers ≠ 0 := by
  simp only [isUsable, Bool.and_eq_true, bne_iff_ne] at h
  exact h.1

namespace Duplication

variable {σ A S N : Type} {t : ValueType} {C : Contract σ A t S N} {checker : Checker}
    {worker : Worker S t.Val} {workers : List (Worker S t.Val)} {state : σ}

/-- A worker that has failed takes no more steps. -/
theorem step_of_failed (h : worker.failure ≠ none) : step C checker worker state = (worker, state) := by
  cases hFailure : worker.failure with
  | none => exact absurd hFailure h
  | some failure => simp only [step, hFailure]

theorem stepAt_of_failed {i : Nat} (hWorker : workers[i]? = some worker) (h : worker.failure ≠ none) (j : Nat) :
    (stepAt C checker workers state j).1[i]? = some worker := by
  unfold stepAt
  cases hNext : workers[j]? with
  | none => exact hWorker
  | some next =>
      by_cases hSame : j = i
      · subst hSame
        obtain rfl := Option.some.inj (hNext.symm.trans hWorker)
        have hLength := (List.getElem?_eq_some_iff.mp hWorker).1
        simp only [step_of_failed h, List.getElem?_set_self hLength]
      · simp only [List.getElem?_set_ne hSame, hWorker]

/-- A worker that has failed stays as it is, whoever takes the next steps. -/
theorem follow_of_failed (schedule : List Nat) {i : Nat} (hWorker : workers[i]? = some worker)
    (h : worker.failure ≠ none) :
    (follow C checker schedule workers state).1[i]? = some worker := by
  induction schedule generalizing workers state with
  | nil => exact hWorker
  | cons j schedule ih => exact ih (stepAt_of_failed hWorker h j)

/-- If no failure is found, no worker has failed. -/
theorem failure_of_firstFailure {i : Nat} (h : firstFailure workers i = none) (hWorker : worker ∈ workers) :
    worker.failure = none := by
  induction workers generalizing i with
  | nil => nomatch hWorker
  | cons first rest ih =>
      rw [firstFailure] at h
      cases hFailure : first.failure with
      | some failure =>
          rw [hFailure] at h
          nomatch h
      | none =>
          rw [hFailure] at h
          rcases List.mem_cons.mp hWorker with rfl | hRest
          · exact hFailure
          · exact ih h hRest

theorem le_of_firstFailure {α : Type} {workers : List (Worker S α)} {first i : Nat} {cause : Failure}
    (h : firstFailure workers first = some (i, cause)) : first ≤ i := by
  induction workers generalizing first with
  | nil => nomatch h
  | cons worker rest ih =>
      rw [firstFailure] at h
      cases hFailure : worker.failure with
      | some failure =>
          rw [hFailure] at h
          obtain ⟨rfl, -⟩ := Prod.mk.inj (Option.some.inj h)
          exact Nat.le_refl _
      | none =>
          rw [hFailure] at h
          exact Nat.le_of_succ_le (ih h)

/-- The failure that is reported is that of the first worker that failed. -/
theorem firstFailure_eq_some_iff {α : Type} {workers : List (Worker S α)} (first : Nat) {i : Nat} {cause : Failure} :
    firstFailure workers first = some (first + i, cause) ↔
      ∃ worker, workers[i]? = some worker ∧ worker.failure = some cause ∧
        ∀ j < i, ∀ other, workers[j]? = some other → other.failure = none := by
  induction workers generalizing first i with
  | nil => exact ⟨fun h => (nomatch h), fun ⟨_, h, _⟩ => nomatch h⟩
  | cons worker rest ih =>
      rw [firstFailure]
      cases i with
      | zero =>
          cases hFailure : worker.failure with
          | some failure => simp [hFailure]
          | none =>
              refine ⟨fun h => absurd (le_of_firstFailure h) (Nat.not_succ_le_self _), ?_⟩
              rintro ⟨_, hFound, hFailed, -⟩
              obtain rfl := Option.some.inj hFound
              rw [hFailure] at hFailed
              cases hFailed
      | succ i =>
          cases hFailure : worker.failure with
          | some failure =>
              refine ⟨fun h => ?_, ?_⟩
              · have hFirst := congrArg Prod.fst (Option.some.inj h)
                simp at hFirst
              · rintro ⟨_, -, -, hBefore⟩
                have hNone := hBefore 0 (Nat.succ_pos i) worker rfl
                rw [hFailure] at hNone
                cases hNone
          | none =>
              have hShift : first + (i + 1) = first + 1 + i := by omega
              simp only [hShift, ih (first + 1)]
              refine exists_congr fun found => and_congr_right fun _ => and_congr_right fun _ => ?_
              refine ⟨fun h j hj other hOther => ?_, fun h j hj other hOther => ?_⟩
              · cases j with
                | zero =>
                    obtain rfl := Option.some.inj hOther
                    exact hFailure
                | succ j => exact h j (Nat.lt_of_succ_lt_succ hj) other hOther
              · exact h (j + 1) (Nat.succ_lt_succ hj) other hOther

/-- What is found is the failure of the first worker that failed: those before it have not. -/
theorem firstFailure_zero_iff {α : Type} {workers : List (Worker S α)} {i : Nat} {cause : Failure} :
    firstFailure workers 0 = some (i, cause) ↔
      ∃ worker, workers[i]? = some worker ∧ worker.failure = some cause ∧
        ∀ j < i, ∀ other, workers[j]? = some other → other.failure = none := by
  rw [← firstFailure_eq_some_iff 0, Nat.zero_add]

/-! ## The first worker -/

variable {emitted consumed moved : Nat} {x : S}

theorem stepAt_zero (worker : Worker S t.Val) (others : List (Worker S t.Val)) (state : σ) :
    stepAt C checker (worker :: others) state 0 =
      ((step C checker worker state).1 :: others, (step C checker worker state).2) := rfl

/-- A worker that fails in its first step, or in its second one, is found to have failed. -/
theorem consumed_le_of_follow (h : (C.operations x).Transfers emitted consumed moved) {v : t.Val}
    {rest : List t.Val} {others : List (Worker S t.Val)} {schedule : List Nat}
    (hFinished : ∀ worker ∈ (follow C checker (0 :: 0 :: schedule)
      ({ serializer := x, samples := v :: rest } :: others) state).1, worker.failure = none) :
    consumed ≤ emitted := by
  have hKept (failed : Worker S t.Val) (middle : σ) (schedule : List Nat) (hFailed : failed.failure ≠ none) :
      failed ∈ (follow C checker schedule (failed :: others) middle).1 :=
    List.mem_of_getElem? (follow_of_failed schedule (i := 0) rfl hFailed)
  rw [follow, stepAt_zero] at hFinished
  cases hWritten : ((C.operations x).serialize v).outcome ({}, state) with
  | mk result after =>
      obtain ⟨out, written⟩ := after
      cases result with
      | error failure =>
          simp only [step, hWritten, settle] at hFinished
          exact absurd (hFinished _ (hKept _ written (0 :: schedule) nofun)) nofun
      | ok _ =>
          have hSize : out.size = 0 + emitted := h.serialize v _ _ hWritten
          simp only [step, hWritten, settle] at hFinished
          rw [follow, stepAt_zero] at hFinished
          cases hRead : (C.operations x).deserialize.outcome (.ofBytes out.data, written) with
          | mk result after =>
              obtain ⟨input, last⟩ := after
              cases result with
              | error failure =>
                  simp only [step, hRead, settle] at hFinished
                  exact absurd (hFinished _ (hKept _ last schedule nofun)) nofun
              | ok w =>
                  have hTaken : out.size = input.available + consumed := h.deserialize w _ _ hRead
                  omega

/-- The first worker begins with two steps. -/
theorem inTurn_cons {worker : Worker S t.Val} (h : worker.samples ≠ []) (others : List (Worker S t.Val)) :
    ∃ schedule, inTurn (worker :: others) = 0 :: 0 :: schedule := by
  obtain ⟨v, rest, hSome⟩ := List.exists_cons_of_ne_nil h
  have hSteps : 4 * worker.samples.length = 4 * rest.length + 2 + 1 + 1 := by
    rw [hSome, List.length_cons]
    omega
  rw [inTurn, List.length_cons, List.range_succ_eq_map, List.flatMap_cons]
  simp only [List.getElem?_cons_zero, Option.map_some, Option.getD_some, hSteps, List.replicate_succ]
  exact ⟨_, rfl⟩

theorem checkInput_ok {y : S} {samples : List t.Val} {options : RunOptions}
    (h : checkInput (some x) samples options = .ok y) : x = y := by
  simp only [checkInput] at h
  split at h
  · nomatch h
  · split at h
    · nomatch h
    · exact Except.ok.inj h

/-- The first worker works with a duplicate that was made first. -/
theorem recruit_first {options : RunOptions} {samples : List t.Val} {count i : Nat} {last : σ}
    (h : (recruit C options samples x (count + 1) i).outcome state = (.ok workers, last)) :
    ∃ y duplicated others, (C.duplicate x).outcome state = (.ok (some y), duplicated) ∧
      workers = { serializer := y, samples := samplesFrom i samples } :: others := by
  obtain ⟨duplicate, duplicated, hDuplicated, hRest⟩ := Action.bind_ok_iff.mp h
  cases duplicate with
  | none => nomatch hRest
  | some y =>
      obtain ⟨_, _, -, hRest⟩ := Action.bind_ok_iff.mp hRest
      obtain ⟨others, _, -, hWorkers⟩ := Action.bind_ok_iff.mp hRest
      obtain ⟨rfl⟩ := hWorkers
      exact ⟨y, duplicated, others, hDuplicated, rfl⟩

/-- A serializer that cannot be duplicated fails the run, with any number of workers. -/
theorem run_fails {options : RunOptions} {startThread : Action σ Unit} {samples : List t.Val}
    (hWorkers : options.workers ≠ 0) (hReserved : reserve options.workers = .ok ())
    (h : (C.duplicate x).Fails state) : (run C checker options startThread samples x).Fails state := by
  apply (Action.ofExcept_succeeds hReserved).bind_fails
  intro _ _ hReserved
  obtain ⟨-, rfl⟩ := hReserved
  obtain ⟨count, hCount⟩ := Nat.exists_eq_succ_of_ne_zero hWorkers
  rw [hCount]
  exact (h.bind _).bind _

/-- A serializer whose duplicates read more than they write fails the run, with any number of workers. -/
theorem consumed_le_of_run {options : RunOptions} {startThread : Action σ Unit} {samples : List t.Val}
    {last : σ}
    (hWorkers : options.workers ≠ 0) (hSamples : samples ≠ [])
    (hDuplicate : ∀ state y last, (C.duplicate x).outcome state = (.ok (some y), last) →
      (C.operations y).Transfers emitted consumed moved)
    (h : (run C checker options startThread samples x).outcome state = (.ok (), last)) :
    consumed ≤ emitted := by
  obtain ⟨_, _, -, hRest⟩ := Action.bind_ok_iff.mp h
  obtain ⟨workers, recruited, hRecruited, hRest⟩ := Action.bind_ok_iff.mp hRest
  obtain ⟨started, -, hRest⟩ := Action.then_ok_iff.mp hRest
  obtain ⟨finished, _, hFinished, hRest⟩ := Action.bind_ok_iff.mp hRest
  cases hFirst : firstFailure finished 0 with
  | some failed =>
      rw [hFirst] at hRest
      nomatch hRest
  | none =>
      obtain ⟨count, hCount⟩ := Nat.exists_eq_succ_of_ne_zero hWorkers
      rw [hCount] at hRecruited
      obtain ⟨y, duplicated, others, hDuplicated, rfl⟩ := recruit_first hRecruited
      have hTurns : samplesFrom 0 samples = samples := by simp [samplesFrom]
      rw [hTurns] at hFinished
      have hSome : ({ serializer := y, samples := samples } : Worker S t.Val).samples ≠ [] := hSamples
      obtain ⟨schedule, hSchedule⟩ := inTurn_cons hSome others
      obtain ⟨v, rest, rfl⟩ := List.exists_cons_of_ne_nil hSamples
      obtain ⟨rfl⟩ := hFinished
      rw [hSchedule] at hFirst
      exact consumed_le_of_follow (hDuplicate _ y duplicated hDuplicated) fun worker hWorker =>
        failure_of_firstFailure hFirst hWorker

end Duplication

namespace Suite

variable {σ A S N : Type} {t : ValueType} {C : Contract σ A t S N} {suite : Suite C} {state last : σ}

/-- What the check of duplicates has seen when it passes. -/
theorem duplicated_of_checkDuplicate (h : suite.checkDuplicate.outcome state = (.ok (), last)) :
    ∃ x served, suite.fixture.createSerializer.outcome state = (.ok (some x), served) ∧
      ∃ y duplicated, (C.duplicate x).outcome served = (.ok (some y), duplicated) ∧
        ∃ compared, (C.equals y x).outcome duplicated = (.ok true, compared) ∧
          (Duplication.run C suite.checker suite.options suite.fixture.startThread suite.fixture.samples
            x).outcome compared = (.ok (), last) := by
  obtain ⟨x, served, hCreated, hRest⟩ := getSerializer_guarded_ok_iff.mp h
  obtain ⟨duplicate, duplicated, hDuplicated, hRest⟩ := Action.bind_ok_iff.mp hRest
  cases duplicate with
  | none => nomatch hRest
  | some y =>
      obtain ⟨equal, compared, hCompared, hRest⟩ := Action.bind_ok_iff.mp hRest
      obtain ⟨hEqual, hRest⟩ := Action.ok_of_throw_if hRest
      obtain ⟨z, checked, hChecked, hRun⟩ := Action.bind_ok_iff.mp hRest
      obtain rfl : equal = true := by simpa using hEqual
      obtain ⟨hInput, rfl⟩ := Prod.mk.inj hChecked
      obtain rfl := Duplication.checkInput_ok hInput
      exact ⟨x, served, hCreated, y, duplicated, hDuplicated, compared, hCompared, hRun⟩

end Suite

end SerializerContract
