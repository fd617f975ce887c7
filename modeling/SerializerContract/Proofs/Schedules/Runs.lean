import SerializerContract.Proofs.Schedules.OwnCells

/-! Runs under any schedule. How many passes a worker makes depends on the clock, and whose turn comes next on
the system; the run of the library is the one in which every worker makes one pass, one worker after the other.
What a run reports depends on neither. -/
namespace SerializerContract.Duplication

variable {σ A S N V : Type} {t : ValueType} {C : Contract σ A t S N} {checker : Checker}

/-- Makes the workers and starts their threads. -/
def prepare (C : Contract σ A t S N) (options : RunOptions) (startThread : Action σ Unit) (samples : List t.Val)
    (serializer : S) : Action σ (List (Worker S t.Val)) := do
  Action.ofExcept (reserve options.workers)
  let workers ← recruit C options samples serializer options.workers 0
  startThreads startThread options.workers
  return workers

/-- Every worker with its samples as often as it passes through them before its time is up. -/
def withPasses {α : Type} (passes : Nat → Nat) (workers : List (Worker S α)) : List (Worker S α) :=
  workers.mapIdx fun i worker => { worker with samples := (List.replicate (passes i) worker.samples).flatten }

/-- A run in which every worker makes some passes, and a schedule says whose turn comes next. -/
def runFor (C : Contract σ A t S N) (checker : Checker) (options : RunOptions) (startThread : Action σ Unit)
    (passes : Nat → Nat) (schedule : List Nat) (samples : List t.Val) (serializer : S) : Action σ Unit := do
  let workers ← prepare C options startThread samples serializer
  work C checker options.workers schedule (withPasses passes workers)

theorem withPasses_one {α : Type} (workers : List (Worker S α)) : withPasses (fun _ => 1) workers = workers := by
  simp [withPasses, List.mapIdx_eq_iff]

/-- The run is one in which every worker makes one pass, the workers one after the other. -/
theorem run_eq (C : Contract σ A t S N) (checker : Checker) (options : RunOptions) (startThread : Action σ Unit)
    (samples : List t.Val) (serializer : S) :
    run C checker options startThread samples serializer = (do
      let workers ← prepare C options startThread samples serializer
      work C checker options.workers (inTurn workers) (withPasses (fun _ => 1) workers)) := by
  simp only [withPasses_one, prepare, bind_assoc, pure_bind]
  rfl

/-- Repeating the passes changes the samples of a worker and nothing else about it. -/
theorem getElem?_withPasses {α : Type} {passes : Nat → Nat} {workers : List (Worker S α)} {i : Nat}
    {worker : Worker S α} (h : (withPasses passes workers)[i]? = some worker) :
    ∃ given, workers[i]? = some given ∧
      worker = { given with samples := (List.replicate (passes i) given.samples).flatten } := by
  rw [withPasses, List.getElem?_mapIdx] at h
  obtain ⟨given, hGiven, rfl⟩ := Option.map_eq_some_iff.mp h
  exact ⟨given, hGiven, rfl⟩

theorem length_withPasses {α : Type} (passes : Nat → Nat) (workers : List (Worker S α)) :
    (withPasses passes workers).length = workers.length :=
  List.length_mapIdx

/-- Workers start with nothing done, each at a sample of its own. -/
theorem recruit_worker {options : RunOptions} {samples : List t.Val} {serializer : S} {count first i : Nat}
    {workers : List (Worker S t.Val)} {worker : Worker S t.Val} {state last : σ}
    (h : (recruit C options samples serializer count first).outcome state = (.ok workers, last))
    (hWorker : workers[i]? = some worker) :
    worker = { serializer := worker.serializer, samples := samplesFrom (first + i) samples } := by
  induction count generalizing first i workers state last with
  | zero =>
      obtain ⟨rfl⟩ := h
      nomatch hWorker
  | succ count ih =>
      obtain ⟨duplicate, _, -, hRest⟩ := Action.bind_ok_iff.mp h
      cases duplicate with
      | none => nomatch hRest
      | some y =>
          obtain ⟨_, _, -, hRest⟩ := Action.bind_ok_iff.mp hRest
          obtain ⟨others, _, hOthers, hWorkers⟩ := Action.bind_ok_iff.mp hRest
          obtain ⟨rfl⟩ := hWorkers
          cases i with
          | zero =>
              obtain rfl := Option.some.inj hWorker
              rfl
          | succ i =>
              rw [Nat.add_comm i 1, ← Nat.add_assoc]
              exact ih hOthers hWorker

/-- Each worker sees all the samples, in an order of its own. -/
theorem samplesFrom_perm {α : Type} (i : Nat) (samples : List α) : (samplesFrom i samples).Perm samples :=
  List.perm_append_comm.trans (by rw [List.take_append_drop])

theorem samplesFrom_zero {α : Type} (samples : List α) : samplesFrom 0 samples = samples := by
  simp [samplesFrom]

/-- Workers that were prepared have been recruited one by one. -/
theorem prepare_recruits {options : RunOptions} {startThread : Action σ Unit} {samples : List t.Val} {serializer : S}
    {workers : List (Worker S t.Val)} {state started : σ}
    (h : (prepare C options startThread samples serializer).outcome state = (.ok workers, started)) :
    ∃ reserved recruited, (recruit C options samples serializer options.workers 0).outcome reserved =
      (.ok workers, recruited) := by
  obtain ⟨reserved, -, hRest⟩ := Action.then_ok_iff.mp h
  obtain ⟨_, recruited, hRecruited, hRest⟩ := Action.bind_ok_iff.mp hRest
  obtain ⟨_, -, hWorkers⟩ := Action.then_ok_iff.mp hRest
  obtain ⟨rfl⟩ := hWorkers
  exact ⟨reserved, recruited, hRecruited⟩

/-- The run reports the failed worker of the lowest index, whatever the schedule was. -/
theorem work_outcome (count : Nat) (schedule : List Nat) (workers : List (Worker S t.Val)) (state : σ) :
    ((work C checker count schedule workers).outcome state).1 =
      match firstFailure (follow C checker schedule workers state).1 0 with
      | some (i, failure) => .error (workerFailed count i failure)
      | none => .ok () := by
  simp only [work, Action.outcome_bind]
  simp only [Action.outcome, Action.of]
  cases firstFailure (follow C checker schedule workers state).1 0 <;> rfl

/-- What has been visited after some whole passes goes on with the block that every pass goes through. -/
theorem take_drop_of_passes {α : Type} {block visited : List α} {passes pass : Nat} (hBlock : block ≠ [])
    (hVisited : visited <+: (List.replicate passes block).flatten)
    (hPass : (pass + 1) * block.length ≤ visited.length) :
    (visited.drop (pass * block.length)).take block.length = block := by
  obtain ⟨more, hAll⟩ := hVisited
  have hTaken : (visited.drop (pass * block.length)).take block.length =
      ((visited ++ more).drop (pass * block.length)).take block.length := by
    rw [Nat.add_mul, Nat.one_mul] at hPass
    rw [List.drop_append_of_le_length (by omega), List.take_append_of_le_length]
    rw [List.length_drop]
    omega
  have hTotal : (pass + 1) * block.length ≤ passes * block.length := by
    have hLength := congrArg List.length hAll
    simp only [List.length_append, List.length_flatten, List.map_replicate, List.sum_replicate_nat] at hLength
    omega
  have hPasses : pass + 1 ≤ passes := Nat.le_of_mul_le_mul_right hTotal (List.length_pos_iff.mpr hBlock)
  obtain ⟨later, rfl⟩ := Nat.exists_eq_add_of_le hPasses
  have hSplit : (List.replicate (pass + 1 + later) block).flatten =
      (List.replicate pass block).flatten ++ (block ++ (List.replicate later block).flatten) := by
    simp [List.replicate_add]
  rw [hTaken, hAll, hSplit, List.drop_left', List.take_left' rfl]
  simp

section Run

variable {options : RunOptions} {startThread : Action σ Unit} {passes : Nat → Nat} {schedule : List Nat}
    {samples : List t.Val} {serializer : S} {state started : σ} {workers : List (Worker S t.Val)}
    {valid : σ → Prop} {part : Nat → σ → V}

/-- More passes do not make workers share anything. -/
theorem ShareNothing.withPasses (h : ShareNothing C valid part workers) (passes : Nat → Nat) :
    ShareNothing C valid part (withPasses passes workers) := by
  intro i worker hWorker
  obtain ⟨given, hGiven, rfl⟩ := getElem?_withPasses hWorker
  exact h i given hGiven

/-- A worker that is about to begin with its passes. -/
theorem begun_worker (hPrepared : (prepare C options startThread samples serializer).outcome state =
    (.ok workers, started)) {i : Nat} {worker : Worker S t.Val}
    (hWorker : (withPasses passes workers)[i]? = some worker) :
    worker = { serializer := worker.serializer
               samples := (List.replicate (passes i) (samplesFrom i samples)).flatten } := by
  obtain ⟨_, _, hRecruited⟩ := prepare_recruits hPrepared
  obtain ⟨given, hGiven, rfl⟩ := getElem?_withPasses hWorker
  rw [recruit_worker hRecruited hGiven, Nat.zero_add]

/-- Once the workers are prepared, only what they end with decides on the outcome of the run. -/
theorem runFor_outcome (hPrepared : (prepare C options startThread samples serializer).outcome state =
    (.ok workers, started)) :
    ((runFor C checker options startThread passes schedule samples serializer).outcome state).1 =
      match firstFailure (follow C checker schedule (withPasses passes workers) started).1 0 with
      | some (i, failure) => .error (workerFailed options.workers i failure)
      | none => .ok () := by
  rw [runFor, Action.outcome_bind, hPrepared]
  exact work_outcome options.workers schedule _ started

/-- A run throws exactly if some worker failed: the failure of the first of these, wrapped. -/
theorem runFor_throws_iff (hPrepared : (prepare C options startThread samples serializer).outcome state =
    (.ok workers, started)) (failure : Failure) :
    ((runFor C checker options startThread passes schedule samples serializer).outcome state).1 = .error failure ↔
      ∃ i worker cause, (follow C checker schedule (withPasses passes workers) started).1[i]? = some worker ∧
        worker.failure = some cause ∧
          (∀ j < i, ∀ other, (follow C checker schedule (withPasses passes workers) started).1[j]? = some other →
            other.failure = none) ∧
            failure = workerFailed options.workers i cause := by
  rw [runFor_outcome hPrepared]
  constructor
  · intro hThrown
    cases hFirst : firstFailure (follow C checker schedule (withPasses passes workers) started).1 0 with
    | none =>
        rw [hFirst] at hThrown
        nomatch hThrown
    | some reported =>
        obtain ⟨i, cause⟩ := reported
        rw [hFirst] at hThrown
        obtain ⟨worker, hWorker, hFailure, hBefore⟩ := firstFailure_zero_iff.mp hFirst
        exact ⟨i, worker, cause, hWorker, hFailure, hBefore, (Except.error.inj hThrown).symm⟩
  · rintro ⟨i, worker, cause, hWorker, hFailure, hBefore, rfl⟩
    rw [firstFailure_zero_iff.mpr ⟨worker, hWorker, hFailure, hBefore⟩]

/-- Every pass that a worker completes takes it through all samples once, and only a failure keeps it from
completing its passes. -/
theorem visits_passes (hSamples : samples ≠ [])
    (hPrepared : (prepare C options startThread samples serializer).outcome state = (.ok workers, started))
    (hRest : ∀ worker ∈ (follow C checker schedule (withPasses passes workers) started).1, Rests worker)
    {i : Nat} {worker : Worker S t.Val}
    (hWorker : (follow C checker schedule (withPasses passes workers) started).1[i]? = some worker) :
    (∀ pass, (pass + 1) * samples.length ≤ (visits C checker i schedule (withPasses passes workers) started).length →
      (((visits C checker i schedule (withPasses passes workers) started).drop (pass * samples.length)).take
        samples.length).Perm samples) ∧
      (worker.failure = none →
        (visits C checker i schedule (withPasses passes workers) started).length = passes i * samples.length) := by
  obtain ⟨begun, hBegun⟩ := exists_begun hWorker
  obtain ⟨last, hLast, hVisits⟩ :=
    visits_append_pending C checker started schedule hBegun
  obtain rfl : worker = last := Option.some.inj (hWorker.symm.trans hLast)
  rw [begun_worker hPrepared hBegun] at hVisits
  have hPerm := samplesFrom_perm i samples
  refine ⟨fun pass hPass => ?_, fun hFailure => ?_⟩
  · rw [← hPerm.length_eq] at hPass ⊢
    have hBlock : samplesFrom i samples ≠ [] := samplesFrom_ne_nil hSamples
    rw [take_drop_of_passes hBlock ⟨_, hVisits⟩ hPass]
    exact hPerm
  · rw [pending_of_rests (hRest worker (List.mem_of_getElem? hWorker)) hFailure, List.append_nil] at hVisits
    rw [hVisits]
    simp [pending, hPerm.length_eq]

theorem turnsToRest_begun (y : S) (samples : List t.Val) :
    turnsToRest ({ serializer := y, samples := samples } : Worker S t.Val) = 4 * samples.length := by
  cases samples with
  | nil => rfl
  | cons v rest => simp only [turnsToRest, turnsLeft, List.length_cons]; omega

/-- Workers that act alike fail with what the first of their samples that fails a cycle fails with. -/
theorem failure_follow
    (hPrepared : (prepare C options startThread samples serializer).outcome state = (.ok workers, started))
    (hValid : valid started) (hShare : ShareNothing C valid part workers)
    (hRest : ∀ worker ∈ (follow C checker schedule (withPasses passes workers) started).1, Rests worker)
    (hAlike : ∀ worker ∈ workers, ActAlike C valid serializer worker.serializer) {elsewhere : σ}
    (hElsewhere : valid elsewhere) {i : Nat} {begun : Worker S t.Val}
    (hBegun : (withPasses passes workers)[i]? = some begun) :
    ∃ worker, (follow C checker schedule (withPasses passes workers) started).1[i]? = some worker ∧
      worker.failure = (List.replicate (passes i) (samplesFrom i samples)).flatten.findSome? fun v =>
        cycle C checker serializer v elsewhere := by
  refine ⟨_, follow_rests (hShare.withPasses passes) hValid hRest hBegun, ?_⟩
  obtain ⟨given, hGiven, hSerializer⟩ := getElem?_withPasses hBegun
  have hActs : ActAlike C valid serializer begun.serializer := by
    rw [hSerializer]
    exact hAlike given (List.mem_of_getElem? hGiven)
  rw [begun_worker hPrepared hBegun, turnsToRest_begun]
  exact failure_alone hActs hValid hElsewhere {} _

/-- A run of workers that act alike comes down to one cycle for each sample, in any valid state. -/
theorem runFor_cycles (hCount : 0 < options.workers) (hPasses : ∀ i, 0 < passes i)
    (hPrepared : (prepare C options startThread samples serializer).outcome state = (.ok workers, started))
    (hValid : valid started) (hShare : ShareNothing C valid part workers)
    (hRest : ∀ worker ∈ (follow C checker schedule (withPasses passes workers) started).1, Rests worker)
    (hAlike : ∀ worker ∈ workers, ActAlike C valid serializer worker.serializer) (elsewhere : σ)
    (hElsewhere : valid elsewhere) :
    ((runFor C checker options startThread passes schedule samples serializer).outcome state).1 =
      match samples.findSome? fun v => cycle C checker serializer v elsewhere with
      | some cause => .error (workerFailed options.workers 0 cause)
      | none => .ok () := by
  obtain ⟨_, _, hRecruited⟩ := prepare_recruits hPrepared
  have hLength : (withPasses passes workers).length = options.workers :=
    (length_withPasses passes workers).trans (recruit_length hRecruited)
  have hFailures {i : Nat} {begun : Worker S t.Val} (hBegun : (withPasses passes workers)[i]? = some begun) :=
    failure_follow hPrepared hValid hShare hRest hAlike hElsewhere hBegun
  rw [runFor_outcome hPrepared]
  cases hCycles : samples.findSome? fun v => cycle C checker serializer v elsewhere with
  | some cause =>
      obtain ⟨worker, hWorker, hFailure⟩ := hFailures (List.getElem?_eq_getElem (hLength ▸ hCount))
      obtain ⟨more, hMore⟩ := Nat.exists_eq_add_of_le (hPasses 0)
      rw [samplesFrom_zero, hMore, List.replicate_add, List.flatten_append, List.findSome?_append] at hFailure
      simp only [List.replicate_one, List.flatten_singleton, hCycles] at hFailure
      rw [firstFailure_zero_iff.mpr ⟨worker, hWorker, hFailure, by omega⟩]
  | none =>
      cases hFirst : firstFailure (follow C checker schedule (withPasses passes workers) started).1 0 with
      | none => rfl
      | some reported =>
          obtain ⟨worker, hWorker, hFailure, -⟩ := firstFailure_zero_iff.mp hFirst
          obtain ⟨begun, hBegun⟩ := exists_begun hWorker
          obtain ⟨other, hOther, hNone⟩ := hFailures hBegun
          obtain rfl : worker = other := Option.some.inj (hWorker.symm.trans hOther)
          have hPassed : (List.replicate (passes reported.1) (samplesFrom reported.1 samples)).flatten.findSome?
              (fun v => cycle C checker serializer v elsewhere) = none := by
            rw [List.findSome?_eq_none_iff] at hCycles ⊢
            intro v hv
            obtain ⟨_, hBlock, hv⟩ := List.mem_flatten.mp hv
            obtain rfl := (List.mem_replicate.mp hBlock).2
            exact hCycles v ((samplesFrom_perm reported.1 samples).subset hv)
          rw [hNone, hPassed] at hFailure
          nomatch hFailure

/-- The duplication run does not depend on the schedule. Let duplicates share nothing that changes, and let the
workers follow any schedule until each of them has failed or made its passes. Then each worker ends as it does
alone; each pass that it completes takes it through every sample once; the run throws exactly if a worker has
failed, and reports the first of these with what it failed with. If the serializer and its duplicates do the same
in all valid states, then the run succeeds if every sample passes one cycle in any one of these, and otherwise
reports the first worker with the failure of the first sample that fails one. -/
theorem run_independent_of_schedule (hSamples : samples ≠ []) (hCount : 0 < options.workers)
    (hPasses : ∀ i, 0 < passes i)
    (hPrepared : (prepare C options startThread samples serializer).outcome state = (.ok workers, started))
    (hValid : valid started) (hShare : ShareNothing C valid part workers)
    (hRest : ∀ worker ∈ (follow C checker schedule (withPasses passes workers) started).1, Rests worker) :
    let begun := withPasses passes workers
    let finished := (follow C checker schedule begun started).1
    let outcome := ((runFor C checker options startThread passes schedule samples serializer).outcome state).1
    (∀ (i : Nat) worker, begun[i]? = some worker →
      finished[i]? = some (alone C checker (turnsToRest worker) worker started).1) ∧
    (∀ (i : Nat) worker, finished[i]? = some worker →
      let visited := visits C checker i schedule begun started
      (∀ pass, (pass + 1) * samples.length ≤ visited.length →
        ((visited.drop (pass * samples.length)).take samples.length).Perm samples) ∧
      (worker.failure = none → visited.length = passes i * samples.length)) ∧
    (∀ failure, outcome = .error failure ↔ ∃ i : Nat, ∃ worker cause, finished[i]? = some worker ∧
      worker.failure = some cause ∧ (∀ j < i, ∀ other, finished[j]? = some other → other.failure = none) ∧
      failure = workerFailed options.workers i cause) ∧
    ((∀ worker ∈ workers, ActAlike C valid serializer worker.serializer) → ∀ elsewhere, valid elsewhere →
      outcome = match samples.findSome? fun v => cycle C checker serializer v elsewhere with
        | some cause => .error (workerFailed options.workers 0 cause)
        | none => .ok ()) :=
  ⟨fun _ _ => follow_rests (hShare.withPasses passes) hValid hRest,
    fun _ _ hWorker => visits_passes hSamples hPrepared hRest hWorker, runFor_throws_iff hPrepared,
    runFor_cycles hCount hPasses hPrepared hValid hShare hRest⟩

end Run

section Refused

/-- A checker that refuses to compare lists of two numbers. -/
def refusesPairs : Checker :=
  Checker.register {} .int64s fun expected _ =>
    if List.length expected = 2 then .error (.ofKind .runtime "refused") else .ok true

def numbersContract : Contract Store Unit .int64s NumbersSerializer NumbersKind :=
  NumbersSerializer.contract fun _ => none

def oneAndPair : List (List (BitVec 64)) := [[1], [2, 3]]

/-- Two workers with the duplicates of the first serializer of all. -/
def twoRecruits : List (Worker NumbersSerializer (List (BitVec 64))) :=
  [{ serializer := ⟨1, .plain⟩, samples := oneAndPair }, { serializer := ⟨2, .plain⟩, samples := oneAndPair.reverse }]

/-- The second worker takes every turn before the first one. -/
def secondFirst : List Nat := (List.replicate 16 [1, 0]).flatten

/-- The second worker comes to the pair first, and makes two passes; but the first worker is reported. -/
theorem run_independent_of_schedule_refused :
    ((runFor numbersContract refusesPairs { workers := 2 } (pure ()) (fun i => i + 1) secondFirst oneAndPair
      ⟨0, .plain⟩).outcome { cells := [{}] }).1 = .error (workerFailed 2 0 (.ofKind .runtime "refused")) := by
  have hPrepared : (prepare numbersContract { workers := 2 } (pure ()) oneAndPair ⟨0, .plain⟩).outcome
      { cells := [{}] } = (.ok twoRecruits, { cells := [{}, {}, {}] }) := rfl
  have hIds (i : Nat) (worker : Worker NumbersSerializer (List (BitVec 64))) (hWorker : twoRecruits[i]? = some worker) :
      worker.serializer.id = 1 + i ∧ worker.serializer.id < 3 := by
    match i, hWorker with
    | 0, hWorker => obtain rfl := Option.some.inj hWorker; decide
    | 1, hWorker => obtain rfl := Option.some.inj hWorker; decide
  have hShare : ShareNothing numbersContract (NumbersSerializer.HasCells 3) (fun j store => store.cell (1 + j))
      twoRecruits :=
    fun i worker hWorker => NumbersSerializer.owns_cell (hIds i worker hWorker).1 (hIds i worker hWorker).2
  have hTurns (i : Nat) (worker : Worker NumbersSerializer (List (BitVec 64)))
      (hWorker : (withPasses (fun i => i + 1) twoRecruits)[i]? = some worker) :
      turnsToRest worker ≤ secondFirst.count i := by
    match i, hWorker with
    | 0, hWorker => obtain rfl := Option.some.inj hWorker; decide
    | 1, hWorker => obtain rfl := Option.some.inj hWorker; decide
  have hValid : NumbersSerializer.HasCells 3 { cells := [{}, {}, {}] } := Nat.le_refl 3
  have hRest : ∀ worker ∈ (follow numbersContract refusesPairs secondFirst (withPasses (fun i => i + 1) twoRecruits)
      { cells := [{}, {}, {}] }).1, Rests worker := rests_follow (hShare.withPasses _) hValid hTurns
  have hAlike : ∀ worker ∈ twoRecruits,
      ActAlike numbersContract (NumbersSerializer.HasCells 3) ⟨0, .plain⟩ worker.serializer := by
    intro worker hWorker
    obtain ⟨i, hFound⟩ := List.getElem?_of_mem hWorker
    exact NumbersSerializer.actAlike (by decide) (hIds i worker hFound).2
  have hReport := (run_independent_of_schedule (List.cons_ne_nil _ _ : oneAndPair ≠ []) (by decide)
    (fun i => Nat.succ_pos i) hPrepared hValid hShare hRest).2.2.2 hAlike _ hValid
  rw [hReport]
  rfl

end Refused

end SerializerContract.Duplication
