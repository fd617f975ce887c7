import SerializerContract.Proofs.Conformance.Snapshots

/-! The duplication run. Workers take their steps in any order. What a worker is about to do next is
always in order, whatever the others do, because none of their steps takes back what is known of its
serializer; so no worker ever fails. -/
namespace SerializerContract

/-- What workers do once their threads have started. The first failure in their order is reported. -/
def Duplication.work {σ A S N : Type} {t : ValueType} (C : Contract σ A t S N) (checker : Checker) (count : Nat)
    (schedule : List Nat) (workers : List (Worker S t.Val)) : Action σ Unit := do
  let finished ← Action.of fun state =>
    let (workers, state) := follow C checker schedule workers state
    (.ok workers, state)
  match firstFailure finished 0 with
  | some (i, failure) => throw (workerFailed count i failure)
  | none => return ()

/-- The first worker that failed fails the work. -/
theorem Duplication.work_throws {σ A S N : Type} {t : ValueType} {C : Contract σ A t S N} {checker : Checker}
    {count i : Nat} {schedule : List Nat} {workers : List (Worker S t.Val)} {failure : Failure} {state : σ}
    (h : firstFailure (follow C checker schedule workers state).1 0 = some (i, failure)) :
    (work C checker count schedule workers).Throws state (workerFailed count i failure) := by
  refine ⟨(follow C checker schedule workers state).2, ?_⟩
  simp only [work, Action.outcome_bind]
  simp only [Action.outcome, Action.of, h]
  rfl

/-- What the check of duplicates does with a serializer. -/
def Suite.tryDuplicate {σ A S N : Type} {t : ValueType} {C : Contract σ A t S N} (suite : Suite C)
    (serializer : S) : Action σ Unit := do
  match ← C.duplicate serializer with
  | none => throw Duplication.nullDuplicate
  | some duplicate =>
    if !(← C.equals duplicate serializer) then
      throw (.contract Duplication.property "Duplicate is not equal to the original serializer.")
    let serializer ← Action.ofExcept
      (Duplication.checkInput (some serializer) suite.fixture.samples suite.options)
    Duplication.run C suite.checker suite.options suite.fixture.startThread suite.fixture.samples serializer

namespace World

variable {σ A S N : Type} {t : ValueType} {C : Contract σ A t S N} {W : World σ S N t.Val}
    {suite : Suite C} {state : σ} {x : S}

/-- What a worker holds of the sample at hand is in order for what it does next. -/
def StageOk (W : World σ S N t.Val) (worker : Worker S t.Val) (v : t.Val) : Prop :=
  match worker.stage with
  | .serialize => worker.output = {}
  | .deserialize => worker.input.rest = W.bytes worker.serializer v
  | .copy read => W.like v read
  | .compare copied => worker.output = {} ∧ W.like v copied

/-- A worker that did not fail, and is in the middle of one of its samples, or has none left. -/
structure WorkerOk (W : World σ S N t.Val) (worker : Worker S t.Val) (state : σ) : Prop where
  live : W.live worker.serializer state
  domain : ∀ v ∈ worker.samples, W.domain v
  room : ∀ v ∈ worker.samples, (W.bytes worker.serializer v).length ≤ W.room
  stage : ∀ v, worker.samples.head? = some v → W.StageOk worker v
  failure : worker.failure = none

/-- The bytes of a value alone are read back; some of them may be left. -/
def ReadsOwn (W : World σ S N t.Val) (C : Contract σ A t S N) : Prop :=
  ∀ x state v (input : InputChannel), W.live x state → W.domain v → input.rest = W.bytes x v →
    input.rest.length ≤ W.room →
    (C.operations x).deserialize.Succeeds (input, state) fun w last => W.like v w ∧ W.Keeps state last.2

theorem Deserializes.readsOwn (h : W.Deserializes C) : W.ReadsOwn C := by
  intro x state v input hLive hDomain hInput hRoom
  have hAlone : input.rest = W.bytes x v ++ [] := by rw [hInput, List.append_nil]
  apply (h x state v input [] hLive hDomain hAlone hRoom).mono
  intro w last hRead
  exact ⟨hRead.1, hRead.2.2⟩

/-- A worker stays well while others take their steps. -/
theorem WorkerOk.keeps {worker : Worker S t.Val} {later : σ} (h : W.WorkerOk worker state)
    (hKeeps : W.Keeps state later) : W.WorkerOk worker later :=
  { h with live := hKeeps.live _ h.live }

section Steps

variable (hTrans : ∀ u v w, W.like u v → W.like v w → W.like u w)
    (hClosed : ∀ v w, W.domain v → W.like v w → W.domain w) (hSupplies : W.Supplies suite)
    (hSerializes : W.Serializes C) (hReads : W.ReadsOwn C) (hCopies : W.Copies C)

include hTrans hClosed hSupplies hSerializes hReads hCopies

/-- No step makes a worker fail, and what is known of every serializer is kept. -/
theorem step_workerOk {worker : Worker S t.Val} (h : W.WorkerOk worker state) :
    W.WorkerOk (Duplication.step C suite.checker worker state).1
      (Duplication.step C suite.checker worker state).2 ∧
        W.Keeps state (Duplication.step C suite.checker worker state).2 := by
  obtain ⟨x, output, input, stage, samples, failure⟩ := worker
  obtain ⟨hLive, hDomain, hRoom, hStage, rfl⟩ := h
  cases samples with
  | nil => exact ⟨⟨hLive, hDomain, hRoom, hStage, rfl⟩, Keeps.refl W state⟩
  | cons v rest =>
      have hValue := hDomain v List.mem_cons_self
      have hHead := hStage v rfl
      have hFits := hRoom v List.mem_cons_self
      cases stage with
      | serialize =>
          obtain rfl : output = {} := hHead
          obtain ⟨_, ⟨_, last⟩, hOutcome, rfl, hKeeps⟩ := hSerializes x state v {} hLive hValue
            (by rwa [OutputChannel.size_empty, Nat.zero_add])
          simp only [Duplication.step, hOutcome, Duplication.settle]
          refine ⟨⟨hKeeps.live x hLive, hDomain, hRoom, ?_, rfl⟩, hKeeps⟩
          intro _ h
          obtain ⟨rfl⟩ := h
          rfl
      | deserialize =>
          have hInput : input.rest = W.bytes x v := hHead
          obtain ⟨w, ⟨input', last⟩, hOutcome, hLike, hKeeps⟩ := hReads x state v input hLive hValue hInput
            (by rwa [hInput])
          simp only [Duplication.step, hOutcome, Duplication.settle]
          refine ⟨⟨hKeeps.live x hLive, hDomain, hRoom, ?_, rfl⟩, hKeeps⟩
          intro _ h
          obtain ⟨rfl⟩ := h
          exact hLike
      | copy read =>
          obtain ⟨w, last, hOutcome, hLike, hKeeps⟩ := hCopies x state read hLive (hClosed v read hValue hHead)
          simp only [Duplication.step, hOutcome, Duplication.settle]
          refine ⟨⟨hKeeps.live x hLive, hDomain, hRoom, ?_, rfl⟩, hKeeps⟩
          intro _ h
          obtain ⟨rfl⟩ := h
          exact ⟨rfl, hTrans v read w hHead hLike⟩
      | compare copied =>
          have hEqual := hSupplies.compares v copied hValue hHead.2
          simp only [Duplication.step, hEqual, Duplication.settle]
          exact ⟨⟨hLive, fun w hw => hDomain w (List.mem_cons_of_mem v hw),
            fun w hw => hRoom w (List.mem_cons_of_mem v hw), fun _ _ => hHead.1, rfl⟩, Keeps.refl W state⟩

/-- Whichever worker takes a step, all of them stay well. -/
theorem stepAt_workersOk {workers : List (Worker S t.Val)} (h : ∀ worker ∈ workers, W.WorkerOk worker state)
    (i : Nat) :
    (∀ worker ∈ (Duplication.stepAt C suite.checker workers state i).1,
      W.WorkerOk worker (Duplication.stepAt C suite.checker workers state i).2) ∧
        W.Keeps state (Duplication.stepAt C suite.checker workers state i).2 := by
  unfold Duplication.stepAt
  cases hWorker : workers[i]? with
  | none => exact ⟨h, Keeps.refl W state⟩
  | some worker =>
      obtain ⟨hStep, hKeeps⟩ := step_workerOk hTrans hClosed hSupplies hSerializes hReads hCopies
        (h worker (List.mem_of_getElem? hWorker))
      refine ⟨fun other hOther => ?_, hKeeps⟩
      rcases List.mem_or_eq_of_mem_set hOther with hOld | rfl
      · exact (h other hOld).keeps hKeeps
      · exact hStep

/-- In whatever order the workers take their steps, none of them fails. -/
theorem follow_readersOk (schedule : List Nat) {workers : List (Worker S t.Val)}
    (h : ∀ worker ∈ workers, W.WorkerOk worker state) :
    (∀ worker ∈ (Duplication.follow C suite.checker schedule workers state).1,
      W.WorkerOk worker (Duplication.follow C suite.checker schedule workers state).2) ∧
        W.Keeps state (Duplication.follow C suite.checker schedule workers state).2 := by
  induction schedule generalizing workers state with
  | nil => exact ⟨h, Keeps.refl W state⟩
  | cons i schedule ih =>
      obtain ⟨hWorkers, hKeeps⟩ := stepAt_workersOk hTrans hClosed hSupplies hSerializes hReads hCopies h i
      obtain ⟨hLast, hRest⟩ := ih hWorkers
      exact ⟨hLast, hKeeps.trans hRest⟩

omit hReads hCopies in
/-- All workers stay well under any schedule. -/
theorem follow_workersOk (hDeserializes : W.Deserializes C) (hCopies : W.Copies C) (schedule : List Nat)
    {workers : List (Worker S t.Val)} (h : ∀ worker ∈ workers, W.WorkerOk worker state) :
    (∀ worker ∈ (Duplication.follow C suite.checker schedule workers state).1,
      W.WorkerOk worker (Duplication.follow C suite.checker schedule workers state).2) ∧
        W.Keeps state (Duplication.follow C suite.checker schedule workers state).2 :=
  follow_readersOk hTrans hClosed hSupplies hSerializes hDeserializes.readsOwn hCopies schedule h

end Steps

/-- A worker that has not begun can take any of the samples. -/
theorem Supplies.workerOk (h : W.Supplies suite) (hLive : W.live x state) {samples : List t.Val}
    (hSamples : ∀ v ∈ samples, v ∈ suite.fixture.samples) :
    W.WorkerOk { serializer := x, samples := samples } state where
  live := hLive
  domain := fun v hv => h.samples v (hSamples v hv)
  room := fun v hv => Nat.le_of_lt (h.room_sample hLive (hSamples v hv))
  stage := fun _ _ => rfl
  failure := rfl

theorem mem_samplesFrom {i : Nat} {samples : List t.Val} {v : t.Val}
    (h : v ∈ Duplication.samplesFrom i samples) : v ∈ samples :=
  (List.mem_append.mp h).elim List.mem_of_mem_drop List.mem_of_mem_take

/-- A worker that has not begun, with a serializer of its own and all of the samples before it. -/
def Begins (W : World σ S N t.Val) (samples : List t.Val) (worker : Worker S t.Val) (state : σ) : Prop :=
  ∃ y i, worker = { serializer := y, samples := Duplication.samplesFrom i samples } ∧ W.live y state

/-- A worker that has yet to begin is not touched by others. -/
theorem Begins.keeps {samples : List t.Val} {worker : Worker S t.Val} {later : σ}
    (h : W.Begins samples worker state) (hKeeps : W.Keeps state later) : W.Begins samples worker later := by
  obtain ⟨y, i, rfl, hLive⟩ := h
  exact ⟨y, i, rfl, hKeeps.live y hLive⟩

/-- A worker that begins is well. -/
theorem Begins.workerOk {worker : Worker S t.Val} (h : W.Begins suite.fixture.samples worker state)
    (hSupplies : W.Supplies suite) : W.WorkerOk worker state := by
  obtain ⟨y, i, rfl, hLive⟩ := h
  exact hSupplies.workerOk hLive fun v hv => mem_samplesFrom hv

/-- No worker that is well has failed. -/
theorem firstFailure_eq_none {workers : List (Worker S t.Val)}
    (h : ∀ worker ∈ workers, W.WorkerOk worker state) (i : Nat) :
    Duplication.firstFailure workers i = none := by
  induction workers generalizing i with
  | nil => rfl
  | cons worker rest ih =>
      rw [Duplication.firstFailure, (h worker List.mem_cons_self).failure]
      exact ih (fun other hOther => h other (List.mem_cons_of_mem worker hOther)) (i + 1)

section Run

variable (hAffords : W.Affords suite) (hDuplicates : W.Duplicates C)

include hAffords hDuplicates

/-- Every worker gets a duplicate of its own, and starts with nothing done. -/
theorem recruit_succeeds (hLive : W.live x state) (count i : Nat) :
    (Duplication.recruit C suite.options suite.fixture.samples x count i).Succeeds state
      fun workers last => workers.length = count ∧
        (∀ worker ∈ workers, W.Begins suite.fixture.samples worker last) ∧ W.Keeps state last := by
  induction count generalizing i state with
  | zero => exact Action.pure_succeeds ⟨rfl, List.forall_mem_nil _, Keeps.refl W state⟩
  | succ count ih =>
      apply (hDuplicates x state hLive).bind
      intro _ middle h
      obtain ⟨y, rfl, hLiveDuplicate, -, hMiddle⟩ := h
      apply (Action.ofExcept_succeeds hAffords.channels).bind
      intro _ _ h
      obtain ⟨-, rfl⟩ := h
      apply (ih (hMiddle.live x hLive) (i + 1)).bind
      intro others last h
      obtain ⟨hLength, hOthers, hLast⟩ := h
      refine Action.pure_succeeds ⟨congrArg Nat.succ hLength, ?_, hMiddle.trans hLast⟩
      exact List.forall_mem_cons.mpr ⟨⟨y, i, rfl, hLast.live y hLiveDuplicate⟩, hOthers⟩

omit hDuplicates in
/-- Threads that can be started leave the serializers as they are. -/
theorem startThreads_succeeds (hValid : W.valid state) (count : Nat) :
    (Duplication.startThreads suite.fixture.startThread count).Succeeds state fun _ last =>
      W.Keeps state last := by
  induction count generalizing state with
  | zero => exact Action.pure_succeeds (Keeps.refl W state)
  | succ count ih =>
      apply (hAffords.threads state hValid).bind
      intro _ middle hMiddle
      exact (ih (hMiddle.valid hValid)).mono fun _ _ => hMiddle.trans

/-- A run comes down to the work of its workers, whatever judges what they do. -/
theorem run_outcome (hValid : W.valid state) (hLive : W.live x state) :
    ∃ workers started, workers.length = suite.options.workers ∧
      (∀ worker ∈ workers, W.Begins suite.fixture.samples worker started) ∧ W.Keeps state started ∧
        (Duplication.run C suite.checker suite.options suite.fixture.startThread suite.fixture.samples
          x).outcome state =
            (Duplication.work C suite.checker suite.options.workers (Duplication.inTurn workers)
              workers).outcome started := by
  rw [Duplication.run]
  obtain ⟨_, _, ⟨-, rfl⟩, hReserved⟩ := (Action.ofExcept_succeeds hAffords.workers).bind_outcome _
  rw [hReserved]
  obtain ⟨workers, recruited, ⟨hLength, hWorkers, hRecruited⟩, hRest⟩ :=
    (recruit_succeeds hAffords hDuplicates hLive _ 0).bind_outcome _
  rw [hRest]
  obtain ⟨_, started, hStarted, hRest⟩ :=
    (startThreads_succeeds hAffords (hRecruited.valid hValid) _).bind_outcome _
  rw [hRest]
  exact ⟨workers, started, hLength, fun worker hWorker => (hWorkers worker hWorker).keeps hStarted,
    hRecruited.trans hStarted, rfl⟩

/-- The check of duplicates comes down to a run, if they are equal to their source. -/
theorem tryDuplicate_outcome (hCompares : W.Compares C) (hLive : W.live x state) :
    ∃ compared, W.Keeps state compared ∧ (suite.tryDuplicate x).outcome state =
      (Duplication.run C suite.checker suite.options suite.fixture.startThread suite.fixture.samples
        x).outcome compared := by
  rw [Suite.tryDuplicate]
  obtain ⟨_, duplicated, ⟨y, rfl, hLiveDuplicate, hAlike, hDuplicated⟩, hRest⟩ :=
    (hDuplicates x state hLive).bind_outcome _
  rw [hRest]
  obtain ⟨_, compared, ⟨rfl, hCompared⟩, hRest⟩ := (hCompares.equals y x duplicated hLiveDuplicate
    (hDuplicated.live x hLive) (hCompares.symm x y duplicated hAlike)).bind_outcome _
  rw [hRest]
  have hInput : Duplication.checkInput (some x) suite.fixture.samples suite.options = .ok x := by
    simp [Duplication.checkInput, hAffords.samples, hAffords.usable]
  refine ⟨compared, hDuplicated.trans hCompared, ?_⟩
  change (Action.ofExcept _ >>= _).outcome compared = _
  rw [Action.outcome_bind, Action.outcome_ofExcept, hInput]

variable (hSupplies : W.Supplies suite) (hTrans : ∀ u v w, W.like u v → W.like v w → W.like u w)
    (hClosed : ∀ v w, W.domain v → W.like v w → W.domain w)
    (hSerializes : W.Serializes C) (hReads : W.ReadsOwn C) (hCopies : W.Copies C)

include hSupplies hTrans hClosed hSerializes hReads hCopies

/-- A run over a live serializer succeeds, if there is room for its workers. -/
theorem run_succeeds (hValid : W.valid state) (hLive : W.live x state) :
    (Duplication.run C suite.checker suite.options suite.fixture.startThread suite.fixture.samples
      x).Succeeds state fun _ last => W.Keeps state last := by
  obtain ⟨workers, started, -, hWorkers, hStarted, hRun⟩ := run_outcome hAffords hDuplicates hValid hLive
  obtain ⟨hFinished, hLast⟩ := follow_readersOk hTrans hClosed hSupplies hSerializes hReads hCopies
    (Duplication.inTurn workers) fun worker hWorker => (hWorkers worker hWorker).workerOk hSupplies
  refine ⟨(), _, hRun.trans (Action.bind_ok_iff.mpr ⟨_, _, rfl, ?_⟩), hStarted.trans hLast⟩
  rw [firstFailure_eq_none hFinished]
  rfl

/-- A conforming serializer passes the check of duplicates, under any schedule of its workers. -/
theorem checkDuplicate_passes (hCompares : W.Compares C) (hValid : W.valid state) :
    suite.checkDuplicate.Succeeds state fun _ last => W.Keeps state last := by
  refine hSupplies.check_passes (fun x served hServed hLive => ?_) hValid
  obtain ⟨compared, hCompared, hTried⟩ := tryDuplicate_outcome hAffords hDuplicates hCompares hLive
  obtain ⟨_, last, hRun, hLast⟩ := run_succeeds hAffords hDuplicates hSupplies hTrans hClosed hSerializes
    hReads hCopies (hCompared.valid hServed) (hCompared.live x hLive)
  exact ⟨(), last, hTried.trans hRun, hCompared.trans hLast⟩

end Run

end World

end SerializerContract
