import SerializerContract.Proofs.Incomparable.Workers

/-! The turns of one worker. A worker on its own takes four turns for each of its samples, in their order, until
it fails or has none left; after that its turns change nothing, so that it does not matter how many there are. -/
namespace SerializerContract.Duplication

variable {σ A S N : Type} {t : ValueType} {C : Contract σ A t S N} {checker : Checker}
    {worker : Worker S t.Val} {state : σ}

/-- A worker that failed, or has no sample left. -/
def Rests {α : Type} (worker : Worker S α) : Prop := worker.failure ≠ none ∨ worker.samples = []

/-- A worker takes turns, and nobody else does. -/
def alone (C : Contract σ A t S N) (checker : Checker) : Nat → Worker S t.Val → σ → Worker S t.Val × σ
  | 0, worker, state => (worker, state)
  | turns + 1, worker, state =>
    alone C checker turns (step C checker worker state).1 (step C checker worker state).2

/-- What a turn makes of a worker that did not fail and has a sample at hand. -/
inductive Moves {α : Type} (v : α) (rest : List α) (before after : Worker S α) : Prop where
  | fails (failure : after.failure ≠ none) (samples : after.samples = v :: rest)
  | goesOn (failure : after.failure = none) (samples : after.samples = v :: rest)
    (turns : turnsLeft after.stage + 1 = turnsLeft before.stage)
  | finishes (failure : after.failure = none) (samples : after.samples = rest) (stage : after.stage = .serialize)
    (turns : turnsLeft before.stage = 1)

theorem step_moves (C : Contract σ A t S N) (checker : Checker) (state : σ) (hFailure : worker.failure = none)
    {v : t.Val} {rest : List t.Val} (hSamples : worker.samples = v :: rest) : Moves v rest worker (step C checker worker state).1 := by
  obtain ⟨x, output, input, stage, samples, _⟩ := worker
  obtain rfl := hFailure
  obtain rfl := hSamples
  cases stage with
  | serialize =>
      rcases hWritten : ((C.operations x).serialize v).outcome (output, state) with ⟨_ | _, out, last⟩
      · exact .fails (by simp [step, hWritten, settle]) (by simp [step, hWritten, settle])
      · exact .goesOn (by simp [step, hWritten, settle]) (by simp [step, hWritten, settle])
          (by simp [step, hWritten, settle, turnsLeft])
  | deserialize =>
      rcases hRead : (C.operations x).deserialize.outcome (input, state) with ⟨_ | w, input', last⟩
      · exact .fails (by simp [step, hRead, settle]) (by simp [step, hRead, settle])
      · exact .goesOn (by simp [step, hRead, settle]) (by simp [step, hRead, settle])
          (by simp [step, hRead, settle, turnsLeft])
  | copy w =>
      rcases hCopied : ((C.operations x).copy w).outcome state with ⟨_ | copied, last⟩
      · exact .fails (by simp [step, hCopied, settle]) (by simp [step, hCopied, settle])
      · exact .goesOn (by simp [step, hCopied, settle]) (by simp [step, hCopied, settle])
          (by simp [step, hCopied, settle, turnsLeft])
  | compare copied =>
      rcases hEqual : checker.equals t v copied with failure | _ | _
      · exact .fails (by simp [step, hEqual, settle]) (by simp [step, hEqual, settle])
      · exact .fails (by simp [step, hEqual, settle]) (by simp [step, hEqual, settle])
      · exact .finishes (by simp [step, hEqual, settle]) (by simp [step, hEqual, settle])
          (by simp [step, hEqual, settle]) rfl

/-- A worker at rest makes no use of its turn. -/
theorem step_of_rests (h : Rests worker) : step C checker worker state = (worker, state) := by
  rcases h with hFailed | hSamples
  · exact step_of_failed hFailed
  · cases hFailure : worker.failure <;> simp only [step, hFailure, hSamples]

theorem alone_of_rests (h : Rests worker) (turns : Nat) : alone C checker turns worker state = (worker, state) := by
  induction turns with
  | zero => rfl
  | succ turns ih => rw [alone, step_of_rests h, ih]

/-- Turns taken alone can be counted in two parts. -/
theorem alone_add (first second : Nat) (worker : Worker S t.Val) (state : σ) :
    alone C checker (first + second) worker state =
      alone C checker second (alone C checker first worker state).1 (alone C checker first worker state).2 := by
  induction first generalizing worker state with
  | zero => rw [Nat.zero_add]; rfl
  | succ first ih =>
      rw [Nat.succ_add]
      exact ih _ _

/-- However many turns a worker takes until it rests, it ends the same. -/
theorem alone_unique {turns turns' : Nat} (h : Rests (alone C checker turns worker state).1)
    (h' : Rests (alone C checker turns' worker state).1) :
    alone C checker turns worker state = alone C checker turns' worker state := by
  rcases Nat.le_total turns turns' with hLe | hLe
  · obtain ⟨more, rfl⟩ := Nat.exists_eq_add_of_le hLe
    rw [alone_add, alone_of_rests h]
  · obtain ⟨more, rfl⟩ := Nat.exists_eq_add_of_le hLe
    rw [alone_add, alone_of_rests h']

/-- How many turns a worker takes until it rests, if it does not fail. -/
def turnsToRest {α : Type} (worker : Worker S α) : Nat :=
  match worker.samples with
  | [] => 0
  | _ :: rest => 4 * rest.length + turnsLeft worker.stage

/-- A turn of a worker that does not rest fails it or brings it one turn nearer to its rest. -/
theorem step_turnsToRest (C : Contract σ A t S N) (checker : Checker) (state : σ) (h : ¬Rests worker) :
    (step C checker worker state).1.failure ≠ none ∨
      turnsToRest (step C checker worker state).1 + 1 = turnsToRest worker := by
  rw [Rests, not_or, not_not] at h
  obtain ⟨hFailure, hSamples⟩ := h
  obtain ⟨v, rest, hSamples⟩ := List.exists_cons_of_ne_nil hSamples
  cases step_moves C checker state hFailure hSamples with
  | fails hFailed => exact .inl hFailed
  | goesOn _ hKept hTurns =>
      right
      simp only [turnsToRest, hKept, hSamples]
      omega
  | finishes _ hRest hStage hTurns =>
      right
      cases rest with
      | nil => simp [turnsToRest, hRest, hSamples, hTurns]
      | cons w rest =>
          simp only [turnsToRest, hRest, hSamples, hStage, List.length_cons, hTurns]
          rfl

/-- Enough turns bring a worker to rest. -/
theorem rests_alone {turns : Nat} (h : turnsToRest worker ≤ turns) : Rests (alone C checker turns worker state).1 := by
  induction turns generalizing worker state with
  | zero =>
      right
      cases hSamples : worker.samples with
      | nil => exact hSamples
      | cons v rest =>
          have hPositive := turnsLeft_pos worker.stage
          simp only [turnsToRest, hSamples] at h
          omega
  | succ turns ih =>
      by_cases hRests : Rests worker
      · rwa [alone_of_rests hRests]
      · rw [alone]
        rcases step_turnsToRest C checker state hRests with hFailed | hCloser
        · rw [alone_of_rests (.inl hFailed)]
          exact .inl hFailed
        · exact ih (by omega)

/-! ## The samples that a worker takes up -/

/-- The sample that a worker takes up in its next turn, if it does. -/
def takesUp {α : Type} (worker : Worker S α) : List α :=
  match worker.failure, worker.stage with
  | none, .serialize => worker.samples.take 1
  | _, _ => []

/-- The samples that a worker has not taken up yet. -/
def pending {α : Type} (worker : Worker S α) : List α :=
  match worker.failure, worker.stage with
  | none, .serialize => worker.samples
  | _, _ => worker.samples.drop 1

theorem takesUp_of_turnsLeft (h : turnsLeft worker.stage < 4) : takesUp worker = [] := by
  unfold takesUp
  cases hStage : worker.stage with
  | serialize => simp [turnsLeft, hStage] at h
  | _ => cases worker.failure <;> rfl

theorem pending_of_turnsLeft (h : turnsLeft worker.stage < 4) : pending worker = worker.samples.drop 1 := by
  unfold pending
  cases hStage : worker.stage with
  | serialize => simp [turnsLeft, hStage] at h
  | _ => cases worker.failure <;> rfl

theorem pending_of_failed (h : worker.failure ≠ none) : pending worker = worker.samples.drop 1 := by
  obtain ⟨failure, hFailure⟩ := Option.ne_none_iff_exists'.mp h
  simp only [pending, hFailure]

theorem pending_of_rests (h : Rests worker) (hFailure : worker.failure = none) : pending worker = [] := by
  have hSamples := h.resolve_left (not_not_intro hFailure)
  simp only [pending, hSamples]
  cases worker.failure <;> cases worker.stage <;> rfl

theorem turnsLeft_le {α : Type} (stage : Stage α) : turnsLeft stage ≤ 4 := by
  cases stage <;> simp [turnsLeft]

/-- A worker goes through its samples in their order. -/
theorem takesUp_append_pending (worker : Worker S t.Val) (state : σ) :
    takesUp worker ++ pending (step C checker worker state).1 = pending worker := by
  by_cases hRests : Rests worker
  · rw [step_of_rests hRests]
    rcases hRests with hFailed | hSamples
    · obtain ⟨failure, hFailure⟩ := Option.ne_none_iff_exists'.mp hFailed
      simp only [takesUp, hFailure, List.nil_append]
    · simp only [takesUp, hSamples, List.take_nil]
      cases worker.failure <;> cases worker.stage <;> rfl
  rw [Rests, not_or, not_not] at hRests
  obtain ⟨hFailure, hSamples⟩ := hRests
  obtain ⟨v, rest, hSamples⟩ := List.exists_cons_of_ne_nil hSamples
  have hMoves := step_moves C checker state hFailure hSamples
  by_cases hBegun : turnsLeft worker.stage < 4
  -- the sample at hand has been taken up before
  · rw [takesUp_of_turnsLeft hBegun, pending_of_turnsLeft hBegun, hSamples, List.nil_append]
    cases hMoves with
    | fails hFailed hKept => rw [pending_of_failed hFailed, hKept]
    | goesOn _ hKept hTurns => rw [pending_of_turnsLeft (by omega), hKept]
    | finishes hNext hRest hStage =>
        simp only [pending, hNext, hStage, hRest]
        rfl
  · have hStage : worker.stage = .serialize := by
      cases hStage : worker.stage with
      | serialize => rfl
      | _ => simp [turnsLeft, hStage] at hBegun
    have hTakesUp : takesUp worker = [v] := by simp only [takesUp, hFailure, hStage, hSamples]; rfl
    have hPending : pending worker = v :: rest := by simp only [pending, hFailure, hStage, hSamples]
    rw [hTakesUp, hPending]
    cases hMoves with
    | fails hFailed hKept => rw [pending_of_failed hFailed, hKept]; rfl
    | goesOn _ hKept hTurns =>
        have hLe := turnsLeft_le worker.stage
        rw [pending_of_turnsLeft (by omega), hKept]
        rfl
    | finishes _ _ _ hTurns => omega

/-- The samples that the `i`-th worker takes up while the workers follow a schedule. -/
def visits (C : Contract σ A t S N) (checker : Checker) (i : Nat) :
    List Nat → List (Worker S t.Val) → σ → List t.Val
  | [], _, _ => []
  | j :: schedule, workers, state =>
    (if j = i then workers[i]?.toList.flatMap takesUp else []) ++
      visits C checker i schedule (stepAt C checker workers state j).1 (stepAt C checker workers state j).2

variable {workers : List (Worker S t.Val)} {i : Nat}

theorem stepAt_none (h : workers[i]? = none) : stepAt C checker workers state i = (workers, state) := by
  simp only [stepAt, h]

theorem stepAt_self (h : workers[i]? = some worker) :
    stepAt C checker workers state i =
      (workers.set i (step C checker worker state).1, (step C checker worker state).2) := by
  simp only [stepAt, h]

theorem getElem?_stepAt_self (C : Contract σ A t S N) (checker : Checker) (state : σ)
    (h : workers[i]? = some worker) :
    (stepAt C checker workers state i).1[i]? = some (step C checker worker state).1 := by
  rw [stepAt_self h]
  exact List.getElem?_set_self (List.getElem?_eq_some_iff.mp h).1

/-- The turn of one worker does not touch the entry of another. -/
theorem getElem?_stepAt_of_ne (C : Contract σ A t S N) (checker : Checker) (state : σ) {j : Nat} (h : j ≠ i) :
    (stepAt C checker workers state j).1[i]? = workers[i]? := by
  unfold stepAt
  cases workers[j]? with
  | none => rfl
  | some worker => exact List.getElem?_set_ne h

/-- In whatever order the workers take turns, each goes through its samples in their order. -/
theorem visits_append_pending (C : Contract σ A t S N) (checker : Checker) (state : σ) (schedule : List Nat)
    (h : workers[i]? = some worker) :
    ∃ last, (follow C checker schedule workers state).1[i]? = some last ∧
      visits C checker i schedule workers state ++ pending last = pending worker := by
  induction schedule generalizing workers worker state with
  | nil => exact ⟨worker, h, rfl⟩
  | cons j schedule ih =>
      by_cases hOwn : j = i
      · subst hOwn
        obtain ⟨last, hLast, hVisits⟩ :=
          ih (stepAt C checker workers state j).2 (getElem?_stepAt_self C checker state h)
        refine ⟨last, hLast, ?_⟩
        rw [visits, if_pos rfl, h, List.append_assoc, hVisits]
        simp only [Option.toList_some, List.flatMap_singleton]
        exact takesUp_append_pending worker state
      · have hKept := (getElem?_stepAt_of_ne C checker state hOwn).trans h
        obtain ⟨last, hLast, hVisits⟩ := ih (stepAt C checker workers state j).2 hKept
        refine ⟨last, hLast, ?_⟩
        rw [visits, if_neg hOwn, List.nil_append, hVisits]

end SerializerContract.Duplication
