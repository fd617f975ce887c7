import SerializerContract.Proofs.Conformance.Duplication
import SerializerContract.Proofs.Detection.Workers
import SerializerContract.Proofs.Escapes.Parts

/-! The duplication run with a log. A failure that escapes in a worker's step is kept by the worker, which then
takes no more steps; so in the end the failures in the log are failures of workers, and the run reports the one
of the first worker that failed. -/
namespace SerializerContract

namespace Duplication

variable {σ A S N : Type} {t : ValueType} {C : Contract σ A t S N} {checker : Checker}

open SerializerContract.Action

/-- A worker keeps the failure of its operation. -/
theorem settle_failure {α β : Type} {worker : Worker S α} {result : Except Failure β} {next : β → Worker S α}
    {failure : Failure} (h : result = .error failure) : (settle worker result next).failure = some failure := by
  rw [h]
  rfl

/-- A failure that escapes in a step is kept by the worker. -/
theorem step_recorded (C : Contract σ A t S N) (checker : Checker) (worker : Worker S t.Val) (state : σ)
    (log : List Escape) :
    ∃ told, step C.recorded checker worker (state, log) =
        ((step C checker worker state).1, ((step C checker worker state).2, log ++ told)) ∧
      ∀ escape ∈ told, (step C checker worker state).1.failure = some escape.failure := by
  let operations := C.operations worker.serializer
  cases hFailure : worker.failure with
  | some failure => exact ⟨[], by simp only [step, hFailure, List.append_nil], List.forall_mem_nil _⟩
  | none =>
      cases hSamples : worker.samples with
      | nil => exact ⟨[], by simp only [step, hFailure, hSamples, List.append_nil], List.forall_mem_nil _⟩
      | cons sample rest =>
          cases hStage : worker.stage with
          | serialize =>
              let written := (operations.serialize sample).outcome (worker.output, state)
              refine ⟨escapes (some .serialize) written.1, ?_, ?_⟩
              · simp only [step, hFailure, hSamples, hStage]
                rfl
              · intro escape hEscape
                simp only [step, hFailure, hSamples, hStage]
                exact settle_failure (mem_escapes.mp hEscape).2
          | deserialize =>
              let read := operations.deserialize.outcome (worker.input, state)
              refine ⟨escapes (some .deserialize) read.1, ?_, ?_⟩
              · simp only [step, hFailure, hSamples, hStage]
                rfl
              · intro escape hEscape
                simp only [step, hFailure, hSamples, hStage]
                exact settle_failure (mem_escapes.mp hEscape).2
          | copy deserialized =>
              let copied := (operations.copy deserialized).outcome state
              refine ⟨escapes (some .copy) copied.1, ?_, ?_⟩
              · simp only [step, hFailure, hSamples, hStage]
                rfl
              · intro escape hEscape
                simp only [step, hFailure, hSamples, hStage]
                exact settle_failure (mem_escapes.mp hEscape).2
          | compare copied =>
              exact ⟨[], by simp only [step, hFailure, hSamples, hStage, List.append_nil],
                List.forall_mem_nil _⟩

/-- The failures that were told have been kept, each by some worker. -/
def Kept {α : Type} (workers : List (Worker S α)) (told : List Escape) : Prop :=
  ∀ escape ∈ told, ∃ (i : Nat) (worker : Worker S α),
    workers[i]? = some worker ∧ worker.failure = some escape.failure

/-- Whichever worker takes a step, what escapes in it is kept by that worker. -/
theorem stepAt_recorded (C : Contract σ A t S N) (checker : Checker) (workers : List (Worker S t.Val))
    (state : σ)
    (log : List Escape) (i : Nat) :
    ∃ told, stepAt C.recorded checker workers (state, log) i =
        ((stepAt C checker workers state i).1, ((stepAt C checker workers state i).2, log ++ told)) ∧
      Kept (stepAt C checker workers state i).1 told := by
  cases hWorker : workers[i]? with
  | none => exact ⟨[], by simp only [stepAt, hWorker, List.append_nil], List.forall_mem_nil _⟩
  | some worker =>
      obtain ⟨told, hStep, hTold⟩ := step_recorded C checker worker state log
      simp only [stepAt, hWorker, hStep]
      refine ⟨told, rfl, fun escape hEscape => ⟨i, _, ?_, hTold escape hEscape⟩⟩
      exact List.getElem?_set_self (List.getElem?_eq_some_iff.mp hWorker).1

/-- What is kept by a worker is there in the end. -/
theorem follow_recorded (C : Contract σ A t S N) (checker : Checker) (schedule : List Nat)
    (workers : List (Worker S t.Val)) (state : σ) (log : List Escape) :
    ∃ told, follow C.recorded checker schedule workers (state, log) =
        ((follow C checker schedule workers state).1,
          ((follow C checker schedule workers state).2, log ++ told)) ∧
      Kept (follow C checker schedule workers state).1 told := by
  induction schedule generalizing workers state log with
  | nil => exact ⟨[], by simp only [follow, List.append_nil], List.forall_mem_nil _⟩
  | cons i schedule ih =>
      obtain ⟨told, hStep, hTold⟩ := stepAt_recorded C checker workers state log i
      obtain ⟨more, hRest, hMore⟩ := ih (stepAt C checker workers state i).1
        (stepAt C checker workers state i).2 (log ++ told)
      refine ⟨told ++ more, ?_, fun escape hEscape => ?_⟩
      · simp only [follow, hStep, hRest, List.append_assoc]
      · rcases List.mem_append.mp hEscape with hEarly | hLate
        · obtain ⟨j, worker, hWorker, hKept⟩ := hTold escape hEarly
          have hFailed : worker.failure ≠ none := by rw [hKept]; exact Option.some_ne_none _
          exact ⟨j, worker, follow_of_failed schedule hWorker hFailed, hKept⟩
        · exact hMore escape hLate

theorem stepAt_length (workers : List (Worker S t.Val)) (state : σ) (i : Nat) :
    (stepAt C checker workers state i).1.length = workers.length := by
  unfold stepAt
  split
  · exact List.length_set
  · rfl

theorem follow_length (schedule : List Nat) (workers : List (Worker S t.Val)) (state : σ) :
    (follow C checker schedule workers state).1.length = workers.length := by
  induction schedule generalizing workers state with
  | nil => rfl
  | cons i schedule ih => exact (ih _ _).trans (stepAt_length workers state i)

theorem recruit_length {options : RunOptions} {samples : List t.Val} {serializer : S} {count i : Nat}
    {workers : List (Worker S t.Val)} {state last : σ}
    (h : (recruit C options samples serializer count i).outcome state = (.ok workers, last)) :
    workers.length = count := by
  induction count generalizing i workers state last with
  | zero =>
      obtain ⟨rfl⟩ := h
      rfl
  | succ count ih =>
      obtain ⟨duplicate, _, -, hRest⟩ := Action.bind_ok_iff.mp h
      cases duplicate with
      | none => nomatch hRest
      | some y =>
          obtain ⟨_, _, -, hRest⟩ := Action.bind_ok_iff.mp hRest
          obtain ⟨others, _, hOthers, hWorkers⟩ := Action.bind_ok_iff.mp hRest
          obtain ⟨rfl⟩ := hWorkers
          exact congrArg Nat.succ (ih hOthers)

/-- Making workers ends with what escapes from duplicating. -/
theorem recruit_accounts (C : Contract σ A t S N) (options : RunOptions) (samples : List t.Val) (serializer : S)
    (count i : Nat) :
    Accounts Prod.mk Ends (recruit C.recorded options samples serializer count i)
      (recruit C options samples serializer count i) := by
  induction count generalizing i with
  | zero => exact .pure []
  | succ count ih =>
      refine (recorded_ends (C.duplicate serializer)).bind fun duplicate => ?_
      cases duplicate with
      | none => exact .throw _
      | some duplicate =>
          refine (Accounts.ofExcept (OutputChannel.reserve options.capacity)).bind fun _ => ?_
          exact (ih (i + 1)).bind fun others => .pure _

theorem startThreads_accounts {becomes : Escape → Failure → Prop} (startThread : Action σ Unit) (count : Nat) :
    Accounts Prod.mk becomes (startThreads startThread.onFirst count) (startThreads startThread count) := by
  induction count with
  | zero => exact .pure ()
  | succ count ih => exact (Accounts.unheard startThread).bind fun _ => ih

/-- How the workers of a run can end: they are made for some serializer, and take their steps. -/
def Finishes (C : Contract σ A t S N) (checker : Checker) (options : RunOptions) (samples : List t.Val)
    (finished : List (Worker S t.Val)) : Prop :=
  ∃ serializer workers before middle state,
    (recruit C options samples serializer options.workers 0).outcome before = (.ok workers, middle) ∧
      finished = (follow C checker (inTurn workers) workers state).1

/-- Worker `i` is the first that failed, and a later one failed with what escaped. -/
def Precedes {α : Type} (finished : List (Worker S α)) (escape : Escape) (i : Nat) (first : Failure) : Prop :=
  firstFailure finished 0 = some (i, first) ∧
    ∃ j worker, i < j ∧ finished[j]? = some worker ∧ worker.failure = some escape.failure

/-- What a run makes of a failure that escapes from an operation under test. -/
inductive Becomes {α : Type} (count : Nat) (finishes : List (Worker S α) → Prop) (escape : Escape) :
    Failure → Prop where
  /-- While duplicates are made, it ends the run. -/
  | ends : Becomes count finishes escape escape.failure
  | reported (i : Nat) : Becomes count finishes escape (workerFailed count i escape.failure)
  /-- Where a worker failed before the one it escaped in, the failure of the first such worker is reported. -/
  | later {finished : List (Worker S α)} {i : Nat} {first : Failure} (ran : finishes finished)
      (precedes : Precedes finished escape i first) :
    Becomes count finishes escape (workerFailed count i first)

variable {α : Type} {count : Nat} {finishes : List (Worker S α) → Prop}

/-- What is said of all runs that end in some way can be said of more runs. -/
theorem Becomes.mono {finishes' : List (Worker S α) → Prop} {escape : Escape} {ended : Failure}
    (h : Becomes count finishes escape ended) (hFinishes : ∀ finished, finishes finished → finishes' finished) :
    Becomes count finishes' escape ended := by
  cases h with
  | ends => exact .ends
  | reported i => exact .reported i
  | later hRan hPrecedes => exact .later (hFinishes _ hRan) hPrecedes

theorem accounts_of_ends {β : Type} {action : Action (σ × List Escape) β} {plain : Action σ β}
    (h : Accounts Prod.mk Ends action plain) : Accounts Prod.mk (Becomes count finishes) action plain :=
  h.mono fun _ _ hSame => hSame ▸ .ends

/-- Where a worker failed with what escaped, the first one that failed did so too, or it comes before that one. -/
theorem firstFailure_of_kept {workers : List (Worker S t.Val)} {told : List Escape} {escape : Escape}
    (h : Kept workers told) (hEscape : escape ∈ told) :
    ∃ i first, firstFailure workers 0 = some (i, first) ∧
      (first = escape.failure ∨ Precedes workers escape i first) := by
  obtain ⟨j, worker, hWorker, hKept⟩ := h escape hEscape
  cases hFirst : firstFailure workers 0 with
  | none =>
      have hNone := failure_of_firstFailure hFirst (List.mem_of_getElem? hWorker)
      rw [hKept] at hNone
      nomatch hNone
  | some found =>
      obtain ⟨i, first⟩ := found
      refine ⟨i, first, rfl, ?_⟩
      obtain ⟨earliest, hEarliest, hFailed, hBefore⟩ := firstFailure_zero_iff.mp hFirst
      rcases Nat.lt_trichotomy i j with hLess | rfl | hGreater
      · exact .inr ⟨hFirst, j, worker, hLess, hWorker, hKept⟩
      · obtain rfl := Option.some.inj (hEarliest.symm.trans hWorker)
        exact .inl (Option.some.inj (hFailed.symm.trans hKept))
      · have hNone := hBefore j hGreater worker hWorker
        rw [hKept] at hNone
        nomatch hNone

/-- In whatever order the workers take their steps, what escapes in them is reported in the end. -/
theorem work_accounts (C : Contract σ A t S N) (checker : Checker) (count : Nat) (schedule : List Nat)
    (workers : List (Worker S t.Val)) :
    Accounts Prod.mk (Becomes count fun finished => ∃ state, finished = (follow C checker schedule workers state).1)
      (work C.recorded checker count schedule workers) (work C checker count schedule workers) := by
  intro state log
  obtain ⟨told, hFollow, hTold⟩ := follow_recorded C checker schedule workers state log
  let finished := (follow C checker schedule workers state).1
  refine ⟨told, ?_, fun escape hEscape => ?_⟩
  · simp only [work, outcome_bind]
    simp only [outcome, Action.of, hFollow]
    cases firstFailure finished 0 <;> rfl
  · obtain ⟨i, first, hFirst, hOnly⟩ := firstFailure_of_kept hTold hEscape
    refine ⟨workerFailed count i first, ?_, ?_⟩
    · obtain ⟨last, hThrown⟩ := work_throws hFirst
      rw [hThrown]
    · rcases hOnly with rfl | hPrecedes
      · exact .reported i
      · exact .later ⟨state, rfl⟩ hPrecedes

/-- A run ends with what escapes while workers are made, and reports what escapes in their steps. -/
theorem run_accounts (C : Contract σ A t S N) (checker : Checker) (options : RunOptions)
    (startThread : Action σ Unit) (samples : List t.Val) (serializer : S) :
    Accounts Prod.mk (Becomes options.workers (Finishes C checker options samples))
      (run C.recorded checker options startThread.onFirst samples serializer)
      (run C checker options startThread samples serializer) := by
  refine (Accounts.ofExcept (reserve options.workers)).bind fun _ => ?_
  refine (accounts_of_ends (recruit_accounts C options samples serializer options.workers 0)).bind_of_ok
    fun workers hWorkers => ?_
  obtain ⟨before, middle, hWorkers⟩ := hWorkers
  refine (startThreads_accounts startThread options.workers).bind fun _ => ?_
  refine (work_accounts C checker options.workers (inTurn workers) workers).mono fun escape ended hBecomes => ?_
  refine hBecomes.mono fun finished hFinished => ?_
  obtain ⟨state, rfl⟩ := hFinished
  exact ⟨serializer, workers, before, middle, state, hWorkers, rfl⟩

end Duplication

end SerializerContract
