import SerializerContract.Proofs.Incomparable.Checks

/-! Workers with values that nothing compares. A worker compares in the fourth of its turns; until then it does
what it would do with any checker, and in that turn it fails, for nothing but the comparison. This does not
depend on the turns of the others, so it is so in every schedule. -/
namespace SerializerContract

namespace Duplication

variable {σ A S N : Type} {t : ValueType} {C : Contract σ A t S N} {checker : Checker} {failure : Failure}
    {worker : Worker S t.Val} {state : σ}

/-- How many turns it takes a worker to compare the sample at hand. -/
def turnsLeft {α : Type} : Stage α → Nat
  | .serialize => 4
  | .deserialize => 3
  | .copy _ => 2
  | .compare _ => 1

theorem turnsLeft_pos {α : Type} (stage : Stage α) : 0 < turnsLeft stage := by
  cases stage <;> simp [turnsLeft]

/-- Before it compares, a worker does the same with any checker. If it does not fail, it is a turn closer. -/
theorem step_before_compare (C : Contract σ A t S N) (checker other : Checker) (state : σ)
    (hFailure : worker.failure = none) (hSamples : worker.samples ≠ []) (hLeft : turnsLeft worker.stage ≠ 1) :
    step C checker worker state = step C other worker state ∧
      ((step C checker worker state).1.failure = none →
        (step C checker worker state).1.samples = worker.samples ∧
          turnsLeft (step C checker worker state).1.stage + 1 = turnsLeft worker.stage) := by
  obtain ⟨x, output, input, stage, samples, _⟩ := worker
  obtain rfl := hFailure
  obtain ⟨v, rest, rfl⟩ := List.exists_cons_of_ne_nil hSamples
  cases stage with
  | serialize =>
      rcases hWritten : ((C.operations x).serialize v).outcome (output, state) with ⟨_ | _, out, last⟩ <;>
        simp [step, hWritten, settle, turnsLeft]
  | deserialize =>
      rcases hRead : (C.operations x).deserialize.outcome (input, state) with ⟨_ | w, input', last⟩ <;>
        simp [step, hRead, settle, turnsLeft]
  | copy w =>
      rcases hCopied : ((C.operations x).copy w).outcome state with ⟨_ | copied, last⟩ <;>
        simp [step, hCopied, settle, turnsLeft]
  | compare copied => exact absurd rfl hLeft

/-- A worker that is about to compare fails with the failure of the comparison. -/
theorem step_compare (hThrows : ∀ v w, checker.equals t v w = .error failure) (hFailure : worker.failure = none)
    (hSamples : worker.samples ≠ []) (hLeft : turnsLeft worker.stage = 1) :
    step C checker worker state = ({ worker with failure := some failure }, state) := by
  obtain ⟨x, output, input, stage, samples, _⟩ := worker
  obtain rfl := hFailure
  obtain ⟨v, rest, rfl⟩ := List.exists_cons_of_ne_nil hSamples
  cases stage with
  | compare copied => simp [step, hThrows, settle]
  | serialize => simp [turnsLeft] at hLeft
  | deserialize => simp [turnsLeft] at hLeft
  | copy w => simp [turnsLeft] at hLeft

/-- Workers that take their turns one after the other take four for each of their samples. -/
theorem turns_le_count_inTurn {workers : List (Worker S t.Val)} {i : Nat} (h : workers[i]? = some worker) :
    4 * worker.samples.length ≤ (inTurn workers).count i := by
  have hIndex : i ∈ List.range workers.length :=
    List.mem_range.mpr (List.getElem?_eq_some_iff.mp h).1
  have hTurns := List.sublist_flatten_of_mem (List.mem_map_of_mem
    (f := fun i => List.replicate (4 * ((workers[i]?.map fun w => w.samples.length).getD 0)) i) hIndex)
  simp only [h, Option.map_some, Option.getD_some] at hTurns
  have hCount := hTurns.count_le i
  rwa [List.count_replicate_self] at hCount

theorem samplesFrom_ne_nil {i : Nat} {samples : List t.Val} (h : samples ≠ []) : samplesFrom i samples ≠ [] := by
  have hLength : (samplesFrom i samples).length = samples.length := by
    rw [samplesFrom, List.length_append, List.length_drop, List.length_take]
    omega
  exact List.ne_nil_of_length_pos (hLength ▸ List.length_pos_iff.mpr h)

end Duplication

namespace World

variable {σ A S N : Type} {t : ValueType} {C : Contract σ A t S N} {W : World σ S N t.Val} {suite : Suite C}
    {comparator : Comparator t} {failure : Failure} {state : σ} {x : S} {worker : Worker S t.Val} {turns : Nat}

open SerializerContract.Duplication

/-- A worker that took some turns, and has failed to compare in the fourth of them, or is on its way there. -/
def Awaits (W : World σ S N t.Val) (failure : Failure) (turns : Nat) (worker : Worker S t.Val) (state : σ) :
    Prop :=
  (worker.failure = some failure ∧ 4 ≤ turns) ∨
    (W.WorkerOk worker state ∧ worker.samples ≠ [] ∧ turns + turnsLeft worker.stage = 4)

theorem Awaits.failure_eq (h : W.Awaits failure turns worker state) :
    worker.failure = if 4 ≤ turns then some failure else none := by
  rcases h with ⟨hFailure, hTurns⟩ | ⟨hOk, -, hTurns⟩
  · rw [hFailure, if_pos hTurns]
  · have hPositive := turnsLeft_pos worker.stage
    rw [hOk.failure, if_neg (by omega)]

/-- What another worker does between two turns does not change how far this one is from its failure. -/
theorem Awaits.keeps {later : σ} (h : W.Awaits failure turns worker state) (hKeeps : W.Keeps state later) :
    W.Awaits failure turns worker later :=
  h.imp_right fun ⟨hOk, hLeft⟩ => ⟨hOk.keeps hKeeps, hLeft⟩

theorem Awaits.samples_ne (h : W.Awaits failure 0 worker state) : worker.samples ≠ [] := by
  rcases h with ⟨-, hTurns⟩ | ⟨-, hSamples, -⟩
  · omega
  · exact hSamples

/-- A worker that has not begun can take any of the samples, if there is one. -/
theorem Supplies.awaits (h : W.Supplies suite) (hLive : W.live x state) {samples : List t.Val}
    (hSome : samples ≠ []) (hSamples : ∀ v ∈ samples, v ∈ suite.fixture.samples) :
    W.Awaits failure 0 { serializer := x, samples := samples } state :=
  .inr ⟨h.workerOk hLive hSamples, hSome, rfl⟩

section Steps

variable (hThrows : ∀ v w, suite.checker.equals t v w = .error failure)
    (hTrans : ∀ u v w, W.like u v → W.like v w → W.like u w)
    (hClosed : ∀ v w, W.domain v → W.like v w → W.domain w)
    (hSupplies : W.Supplies (suite.comparing comparator)) (hSerializes : W.Serializes C)
    (hReads : W.ReadsOwn C) (hCopies : W.Copies C)

include hThrows hTrans hClosed hSupplies hSerializes hReads hCopies

/-- Each turn brings a worker one step nearer to the comparison that throws and leaves the others
undisturbed. -/
theorem step_awaits (h : W.Awaits failure turns worker state) :
    W.Awaits failure (turns + 1) (step C suite.checker worker state).1 (step C suite.checker worker state).2 ∧
      W.Keeps state (step C suite.checker worker state).2 := by
  rcases h with ⟨hFailure, hTurns⟩ | ⟨hOk, hSamples, hTurns⟩
  -- a worker that has failed takes its turns without a step
  · have hFailed : worker.failure ≠ none := by simp [hFailure]
    rw [step_of_failed hFailed]
    exact ⟨.inl ⟨hFailure, by omega⟩, Keeps.refl W state⟩
  · by_cases hLast : turnsLeft worker.stage = 1
    -- the comparison is the fourth turn; all before it are those of a worker that has a comparator
    · rw [step_compare hThrows hOk.failure hSamples hLast]
      exact ⟨.inl ⟨rfl, by omega⟩, Keeps.refl W state⟩
    · obtain ⟨hSame, hCloser⟩ := step_before_compare C suite.checker
        (suite.comparing comparator).checker state hOk.failure hSamples hLast
      obtain ⟨hNext, hKeeps⟩ := step_workerOk hTrans hClosed hSupplies hSerializes hReads hCopies hOk
      rw [← hSame] at hNext hKeeps
      obtain ⟨hKept, hLeft⟩ := hCloser hNext.failure
      exact ⟨.inr ⟨hNext, by rwa [hKept], by omega⟩, hKeeps⟩

/-- A step is a turn of one of the workers, and leaves the others as they were. -/
theorem stepAt_awaits {workers : List (Worker S t.Val)} {turns : Nat → Nat}
    (h : ∀ i worker, workers[i]? = some worker → W.Awaits failure (turns i) worker state) (j : Nat) :
    (∀ i worker, (stepAt C suite.checker workers state j).1[i]? = some worker →
      W.Awaits failure (turns i + [j].count i) worker (stepAt C suite.checker workers state j).2) ∧
        W.Keeps state (stepAt C suite.checker workers state j).2 := by
  unfold stepAt
  cases hWorker : workers[j]? with
  | none =>
      refine ⟨fun i worker hFound => ?_, Keeps.refl W state⟩
      have hOther : j ≠ i := by
        rintro rfl
        exact Option.some_ne_none worker (hFound.symm.trans hWorker)
      rw [List.count_singleton, beq_false_of_ne hOther]
      exact h i worker hFound
  | some stepped =>
      obtain ⟨hStep, hKeeps⟩ :=
        step_awaits hThrows hTrans hClosed hSupplies hSerializes hReads hCopies (h j stepped hWorker)
      refine ⟨fun i worker hFound => ?_, hKeeps⟩
      by_cases hSame : j = i
      · subst hSame
        rw [List.getElem?_set_self (List.getElem?_eq_some_iff.mp hWorker).1] at hFound
        obtain rfl := Option.some.inj hFound
        rw [List.count_singleton_self]
        exact hStep
      · rw [List.getElem?_set_ne hSame] at hFound
        rw [List.count_singleton, beq_false_of_ne hSame]
        exact (h i worker hFound).keeps hKeeps

/-- In whatever order the workers take their turns, each of them fails exactly in its fourth. -/
theorem follow_awaits (schedule : List Nat) {workers : List (Worker S t.Val)} {turns : Nat → Nat}
    (h : ∀ i worker, workers[i]? = some worker → W.Awaits failure (turns i) worker state) :
    ∀ i worker, (follow C suite.checker schedule workers state).1[i]? = some worker →
      W.Awaits failure (turns i + schedule.count i) worker (follow C suite.checker schedule workers state).2 := by
  induction schedule generalizing workers state turns with
  | nil => exact h
  | cons j schedule ih =>
      obtain ⟨hWorkers, -⟩ :=
        stepAt_awaits hThrows hTrans hClosed hSupplies hSerializes hReads hCopies h j
      intro i worker hFound
      have hTurns : turns i + (j :: schedule).count i = turns i + [j].count i + schedule.count i := by
        rw [← List.singleton_append, List.count_append, Nat.add_assoc]
      rw [hTurns]
      exact ih hWorkers i worker hFound

/-- Workers that have not begun fail in their fourth turn, in whatever order they take their turns. -/
theorem failure_of_follow (serializers : List (S × List t.Val)) (schedule : List Nat)
    (hFresh : ∀ entry ∈ serializers, W.live entry.1 state ∧ entry.2 ≠ [] ∧
      ∀ v ∈ entry.2, v ∈ suite.fixture.samples) {i : Nat}
    (hFound : (follow C suite.checker schedule
      (serializers.map fun entry => { serializer := entry.1, samples := entry.2 }) state).1[i]? = some worker) :
    worker.failure = if 4 ≤ schedule.count i then some failure else none := by
  have hBegun (i : Nat) (worker : Worker S t.Val) (hFound : (serializers.map fun entry =>
      ({ serializer := entry.1, samples := entry.2 } : Worker S t.Val))[i]? = some worker) :
      W.Awaits failure 0 worker state := by
    obtain ⟨⟨x, samples⟩, hEntry, rfl⟩ := List.mem_map.mp (List.mem_of_getElem? hFound)
    obtain ⟨hLive, hSome, hSamples⟩ := hFresh _ hEntry
    exact hSupplies.awaits hLive hSome hSamples
  have hAwaits := follow_awaits hThrows hTrans hClosed hSupplies hSerializes hReads hCopies schedule hBegun i
    worker hFound
  rw [hAwaits.failure_eq, Nat.zero_add]

/-- When all workers had their turns, the first of them is reported to have failed. -/
theorem firstFailure_follow {workers : List (Worker S t.Val)} (hSome : suite.fixture.samples ≠ [])
    (hWorkers : ∀ worker ∈ workers, W.Begins suite.fixture.samples worker state) (hWorker : workers ≠ []) :
    firstFailure (follow C suite.checker (inTurn workers) workers state).1 0 = some (0, failure) := by
  have hBegun (i : Nat) (worker : Worker S t.Val) (hFound : workers[i]? = some worker) :
      W.Awaits failure 0 worker state := by
    obtain ⟨y, j, rfl, hLive⟩ := hWorkers worker (List.mem_of_getElem? hFound)
    exact hSupplies.awaits hLive (samplesFrom_ne_nil hSome) fun v hv => mem_samplesFrom hv
  have hFinished := follow_awaits hThrows hTrans hClosed hSupplies hSerializes hReads hCopies (inTurn workers)
    hBegun 0
  obtain ⟨first, others, rfl⟩ := List.exists_cons_of_ne_nil hWorker
  have hTurns : 4 * first.samples.length ≤ (inTurn (first :: others)).count 0 := turns_le_count_inTurn rfl
  have hSamples := List.length_pos_iff.mpr (hBegun 0 first rfl).samples_ne
  have hLength : (follow C suite.checker (inTurn (first :: others)) (first :: others) state).1.length =
    others.length + 1 := follow_length _ _ _
  obtain ⟨last, rest, hEnd⟩ := List.exists_cons_of_length_eq_add_one hLength
  have hFailed := (hFinished last (by rw [hEnd]; rfl)).failure_eq
  rw [if_pos (by omega)] at hFailed
  rw [hEnd, firstFailure, hFailed]

variable (hAffords : W.Affords suite) (hDuplicates : W.Duplicates C)

include hAffords hDuplicates

/-- A run ends with the failure of its first worker. -/
theorem run_throws (hValid : W.valid state) (hLive : W.live x state) :
    (run C suite.checker suite.options suite.fixture.startThread suite.fixture.samples x).Throws state
      (workerFailed suite.options.workers 0 failure) := by
  obtain ⟨workers, started, hCount, hWorkers, -, hRun⟩ := run_outcome hAffords hDuplicates hValid hLive
  have hWorker : workers ≠ [] := by
    rintro rfl
    exact RunOptions.workers_ne_zero hAffords.usable hCount.symm
  have hFirst := firstFailure_follow hThrows hTrans hClosed hSupplies hSerializes hReads hCopies
    hAffords.samples hWorkers hWorker
  obtain ⟨last, hThrown⟩ := work_throws hFirst
  exact ⟨last, hRun.trans hThrown⟩

/-- The check of duplicates ends with a finding over the failure of the comparison. -/
theorem checkDuplicate_throws (hCompares : W.Compares C) (hValid : W.valid state) :
    suite.checkDuplicate.Throws state (workerFailed suite.options.workers 0 failure) := by
  apply (hSupplies.getSerializer_succeeds property hValid).bind_throws
  intro x served hServed
  obtain ⟨hLive, hKeeps⟩ := hServed
  obtain ⟨compared, hCompared, hTried⟩ := tryDuplicate_outcome hAffords hDuplicates hCompares hLive
  obtain ⟨last, hThrown⟩ := run_throws hThrows hTrans hClosed hSupplies hSerializes hReads hCopies hAffords
    hDuplicates (hCompared.valid (hKeeps.valid hValid)) (hCompared.live x hLive)
  exact Suite.guarded_throws rfl ⟨last, hTried.trans hThrown⟩

end Steps

end World

end SerializerContract
