import SerializerContract.Action

/-! Outcomes of actions. A run succeeds only if each of its parts does, so a successful run can be taken
apart into the successful runs of its parts, and put together from them. -/
namespace SerializerContract

namespace Action

variable {σ s α β : Type}

@[simp] theorem outcome_pure (a : α) (state : σ) :
    (pure a : Action σ α).outcome state = (.ok a, state) := rfl

@[simp] theorem outcome_throw (failure : Failure) (state : σ) :
    (throw failure : Action σ α).outcome state = (.error failure, state) := rfl

@[simp] theorem outcome_ofExcept (result : Except Failure α) (state : σ) :
    (ofExcept result).outcome state = (result, state) := rfl

/-- A sequence goes on from where its first part succeeded, and ends with it where that failed. -/
theorem outcome_bind (first : Action σ α) (next : α → Action σ β) (state : σ) :
    (first >>= next).outcome state = match first.outcome state with
      | (.ok a, middle) => (next a).outcome middle
      | (.error failure, middle) => (.error failure, middle) := by
  simp only [outcome, bind, ExceptT.bind, ExceptT.mk, StateT.bind, ExceptT.bindCont]
  rcases first state with ⟨_ | a, middle⟩ <;> rfl

/-- A sequence succeeds exactly if its first part does, and what comes after it does from there. -/
theorem bind_ok_iff {first : Action σ α} {next : α → Action σ β} {b : β} {state last : σ} :
    (first >>= next).outcome state = (.ok b, last) ↔
      ∃ a middle, first.outcome state = (.ok a, middle) ∧ (next a).outcome middle = (.ok b, last) := by
  rw [outcome_bind]
  rcases first.outcome state with ⟨_ | a, middle⟩
  · simp
  · constructor
    · exact fun h => ⟨a, middle, rfl, h⟩
    · intro h
      obtain ⟨_, _, ⟨rfl, rfl⟩, h⟩ := h
      exact h

/-- An action without a result, and what comes after it. -/
theorem then_ok_iff {first : Action σ Unit} {next : Action σ β} {b : β} {state last : σ} :
    (first >>= fun _ => next).outcome state = (.ok b, last) ↔
      ∃ middle, first.outcome state = (.ok (), middle) ∧ next.outcome middle = (.ok b, last) := by
  rw [bind_ok_iff]
  exact ⟨fun ⟨_, middle, h⟩ => ⟨middle, h⟩, fun ⟨middle, h⟩ => ⟨(), middle, h⟩⟩

/-- A run that throws at a condition succeeds if the condition does not hold and what follows succeeds. -/
theorem throw_if_ok_iff {condition : Prop} [Decidable condition] {failure : Failure}
    {other : Unit → Action σ β} {next : Action σ β} {b : β} {state last : σ} :
    (if condition then throw failure >>= other else next).outcome state = (.ok b, last) ↔
      ¬ condition ∧ next.outcome state = (.ok b, last) := by
  by_cases hCondition : condition
  · rw [if_pos hCondition, outcome_bind]
    simp [hCondition]
  · rw [if_neg hCondition]
    simp [hCondition]

/-- A run that succeeds did not throw at a condition on its way. -/
theorem ok_of_throw_if {condition : Prop} [Decidable condition] {failure : Failure}
    {other : Unit → Action σ β} {next : Action σ β} {b : β} {state last : σ}
    (h : (if condition then throw failure >>= other else next).outcome state = (.ok b, last)) :
    ¬ condition ∧ next.outcome state = (.ok b, last) :=
  throw_if_ok_iff.mp h

theorem onFirst_outcome (action : Action s α) (first : s) (state : σ) :
    (onFirst action).outcome (first, state) =
      ((action.outcome first).1, ((action.outcome first).2, state)) := rfl

theorem onSecond_outcome (action : Action σ α) (first : s) (state : σ) :
    (onSecond action).outcome (first, state) =
      ((action.outcome state).1, (first, (action.outcome state).2)) := rfl

theorem withLocal_outcome (init : s) (action : Action (s × σ) α) (state : σ) :
    (withLocal init action).outcome state =
      ((action.outcome (init, state)).1.map fun a => (a, (action.outcome (init, state)).2.1),
        (action.outcome (init, state)).2.2) := rfl

theorem zoom_outcome (get : σ → s) (set : s → σ → σ) (action : Action s α) (state : σ) :
    (zoom get set action).outcome state =
      ((action.outcome (get state)).1, set (action.outcome (get state)).2 state) := rfl

/-- Two actions on one part of the state are one sequence on that part. -/
theorem onFirst_bind (first : Action s α) (next : α → Action s β) :
    (onFirst (first >>= next) : Action (s × σ) β) = onFirst first >>= fun a => onFirst (next a) := by
  funext ⟨part, state⟩
  change (onFirst _).outcome _ = (onFirst first >>= _).outcome _
  rw [outcome_bind, onFirst_outcome, onFirst_outcome, outcome_bind]
  rcases first.outcome part with ⟨_ | a, middle⟩ <;> rfl

theorem onSecond_bind (first : Action σ α) (next : α → Action σ β) :
    (onSecond (first >>= next) : Action (s × σ) β) = onSecond first >>= fun a => onSecond (next a) := by
  funext ⟨part, state⟩
  change (onSecond _).outcome _ = (onSecond first >>= _).outcome _
  rw [outcome_bind, onSecond_outcome, onSecond_outcome, outcome_bind]
  rcases first.outcome state with ⟨_ | a, middle⟩ <;> rfl

/-- An action on the first part succeeds if it does there, and leaves the other part alone. -/
theorem onFirst_ok_iff {action : Action s α} {first first' : s} {a : α} {state last : σ} :
    (onFirst action).outcome (first, state) = (.ok a, (first', last)) ↔
      action.outcome first = (.ok a, first') ∧ state = last := by
  simp only [outcome, onFirst]
  rcases action first with ⟨result, middle⟩
  simp [and_assoc]

theorem onSecond_ok_iff {action : Action σ α} {first first' : s} {a : α} {state last : σ} :
    (onSecond action).outcome (first, state) = (.ok a, (first', last)) ↔
      action.outcome state = (.ok a, last) ∧ first = first' := by
  simp only [outcome, onSecond]
  rcases action state with ⟨result, middle⟩
  simp only [Prod.mk.injEq, and_assoc, and_comm (a := first = first')]

/-- A local state is handed out with the result. -/
theorem withLocal_ok_iff {init part : s} {action : Action (s × σ) α} {a : α} {state last : σ} :
    (withLocal init action).outcome state = (.ok (a, part), last) ↔
      action.outcome (init, state) = (.ok a, (part, last)) := by
  simp only [outcome, withLocal]
  rcases action (init, state) with ⟨_ | b, part', middle⟩
  · simp [Except.map]
  · simp [Except.map, and_assoc]

/-- The action succeeds, and its result and the state after it satisfy the postcondition. -/
def Succeeds (action : Action σ α) (state : σ) (post : α → σ → Prop) : Prop :=
  ∃ a last, action.outcome state = (.ok a, last) ∧ post a last

variable {state : σ} {post post' : α → σ → Prop}

/-- A postcondition can be weakened. -/
theorem Succeeds.mono {action : Action σ α} (h : action.Succeeds state post)
    (hPost : ∀ a last, post a last → post' a last) : action.Succeeds state post' := by
  obtain ⟨a, last, hOutcome, h⟩ := h
  exact ⟨a, last, hOutcome, hPost a last h⟩

/-- An action has one outcome, so whatever is known of a success holds of the run at hand. -/
theorem Succeeds.of_outcome {action : Action σ α} {a : α} {last : σ} (h : action.Succeeds state post)
    (hOutcome : action.outcome state = (.ok a, last)) : post a last := by
  obtain ⟨b, later, hSame, hPost⟩ := h
  obtain ⟨hResult, rfl⟩ := Prod.mk.inj (hSame.symm.trans hOutcome)
  exact Except.ok.inj hResult ▸ hPost

theorem pure_succeeds {a : α} (h : post a state) : (pure a : Action σ α).Succeeds state post :=
  ⟨a, state, rfl, h⟩

theorem ofExcept_succeeds {result : Except Failure α} {a : α} (h : result = .ok a) :
    (ofExcept result).Succeeds state fun b last => b = a ∧ last = state :=
  ⟨a, state, by rw [h]; rfl, rfl, rfl⟩

/-- A sequence succeeds if its first part does, and the rest succeeds from whatever that leaves. -/
theorem Succeeds.bind {first : Action σ α} {next : α → Action σ β} {result : β → σ → Prop}
    (hFirst : first.Succeeds state post)
    (hNext : ∀ a middle, post a middle → (next a).Succeeds middle result) :
    (first >>= next).Succeeds state result := by
  obtain ⟨a, middle, hOutcome, hPost⟩ := hFirst
  obtain ⟨b, last, hRest, hResult⟩ := hNext a middle hPost
  exact ⟨b, last, bind_ok_iff.mpr ⟨a, middle, hOutcome, hRest⟩, hResult⟩

/-- After a success, all that is left is what comes after it. -/
theorem Succeeds.bind_outcome {first : Action σ α} (hFirst : first.Succeeds state post) (next : α → Action σ β) :
    ∃ a middle, post a middle ∧ (first >>= next).outcome state = (next a).outcome middle := by
  obtain ⟨a, middle, hOutcome, hPost⟩ := hFirst
  exact ⟨a, middle, hPost, by rw [outcome_bind, hOutcome]⟩

theorem Succeeds.onFirst {action : Action s α} {part : s} {result : α → s → Prop}
    (h : action.Succeeds part result) :
    action.onFirst.Succeeds (part, state) fun a last => result a last.1 ∧ last.2 = state := by
  obtain ⟨a, last, hOutcome, hResult⟩ := h
  exact ⟨a, (last, state), onFirst_ok_iff.mpr ⟨hOutcome, rfl⟩, hResult, rfl⟩

theorem Succeeds.onSecond {action : Action σ α} {part : s} (h : action.Succeeds state post) :
    action.onSecond.Succeeds (part, state) fun a last => post a last.2 ∧ last.1 = part := by
  obtain ⟨a, last, hOutcome, hPost⟩ := h
  exact ⟨a, (part, last), onSecond_ok_iff.mpr ⟨hOutcome, rfl⟩, hPost, rfl⟩

/-- What an action says of its local state holds of what is handed out. -/
theorem Succeeds.withLocal {init : s} {action : Action (s × σ) α} {result : α → s × σ → Prop}
    (h : action.Succeeds (init, state) result) :
    (action.withLocal init).Succeeds state fun a last => result a.1 (a.2, last) := by
  obtain ⟨a, ⟨part, last⟩, hOutcome, hResult⟩ := h
  exact ⟨(a, part), last, withLocal_ok_iff.mpr hOutcome, hResult⟩

/-! ## Failures -/

/-- The action ends with a failure. -/
def Fails (action : Action σ α) (state : σ) : Prop :=
  ∃ failure last, action.outcome state = (.error failure, last)

theorem throw_fails (failure : Failure) : (throw failure : Action σ α).Fails state := ⟨failure, state, rfl⟩

/-- A failing action has no success. -/
theorem Fails.not_ok {action : Action σ α} (h : action.Fails state) (a : α) (last : σ) :
    action.outcome state ≠ (.ok a, last) := by
  obtain ⟨failure, _, hOutcome⟩ := h
  rw [hOutcome]
  exact nofun

/-- Nothing comes after a failure. -/
theorem Fails.bind {first : Action σ α} (h : first.Fails state) (next : α → Action σ β) :
    (first >>= next).Fails state := by
  obtain ⟨failure, last, hOutcome⟩ := h
  exact ⟨failure, last, by rw [outcome_bind, hOutcome]⟩

/-- What comes after a success fails. -/
theorem Succeeds.bind_fails {first : Action σ α} {next : α → Action σ β} (hFirst : first.Succeeds state post)
    (hNext : ∀ a middle, post a middle → (next a).Fails middle) : (first >>= next).Fails state := by
  obtain ⟨a, middle, hOutcome, hPost⟩ := hFirst
  obtain ⟨failure, last, hRest⟩ := hNext a middle hPost
  exact ⟨failure, last, by rw [outcome_bind, hOutcome]; exact hRest⟩

theorem Fails.onFirst {action : Action s α} {part : s} (h : action.Fails part) :
    action.onFirst.Fails (part, state) := by
  obtain ⟨failure, last, hOutcome⟩ := h
  exact ⟨failure, (last, state), by rw [onFirst_outcome, hOutcome]⟩

theorem Fails.onSecond {action : Action σ α} {part : s} (h : action.Fails state) :
    action.onSecond.Fails (part, state) := by
  obtain ⟨failure, last, hOutcome⟩ := h
  exact ⟨failure, (part, last), by rw [onSecond_outcome, hOutcome]⟩

theorem Fails.zoom {action : Action s α} {get : σ → s} {set : s → σ → σ}
    (h : action.Fails (get state)) : (zoom get set action).Fails state := by
  obtain ⟨failure, last, hOutcome⟩ := h
  exact ⟨failure, set last state, by rw [zoom_outcome, hOutcome]⟩

/-- Two actions with one outcome fail together. -/
theorem Fails.of_outcome_eq {action other : Action σ α} {later : σ} (h : other.Fails later)
    (hSame : action.outcome state = other.outcome later) : action.Fails state := by
  obtain ⟨failure, last, hOutcome⟩ := h
  exact ⟨failure, last, hSame.trans hOutcome⟩

/-- An action fails if it succeeds up to a point, and from there on fails. -/
theorem Fails.of_first {first : Action σ α} {next : α → Action σ β} {a : α} {middle : σ}
    (hFirst : first.outcome state = (.ok a, middle)) (h : (next a).Fails middle) :
    (first >>= next).Fails state :=
  h.of_outcome_eq (by rw [outcome_bind, hFirst])

/-- The action ends with this failure. -/
def Throws (action : Action σ α) (state : σ) (failure : Failure) : Prop :=
  ∃ last, action.outcome state = (.error failure, last)

variable {failure : Failure}

theorem ofExcept_throws {result : Except Failure α} (h : result = .error failure) :
    (ofExcept result : Action σ α).Throws state failure :=
  ⟨state, by rw [h]; rfl⟩

/-- An action ends with one failure only. -/
theorem Throws.unique {action : Action σ α} {other : Failure} (h : action.Throws state failure)
    (h' : action.Throws state other) : failure = other := by
  obtain ⟨last, hThrown⟩ := h
  obtain ⟨last', hThrown'⟩ := h'
  exact Except.error.inj (Prod.mk.inj (hThrown.symm.trans hThrown')).1

/-- Nothing comes after a failure, and nothing changes it. -/
theorem Throws.bind {first : Action σ α} (h : first.Throws state failure) (next : α → Action σ β) :
    (first >>= next).Throws state failure := by
  obtain ⟨last, hThrown⟩ := h
  exact ⟨last, by rw [outcome_bind, hThrown]⟩

theorem Throws.onSecond {action : Action σ α} {part : s} (h : action.Throws state failure) :
    action.onSecond.Throws (part, state) failure := by
  obtain ⟨last, hThrown⟩ := h
  exact ⟨(part, last), by rw [onSecond_outcome, hThrown]⟩

/-- The local state is lost with the failure. -/
theorem Throws.withLocal {init : s} {action : Action (s × σ) α} (h : action.Throws (init, state) failure) :
    (action.withLocal init).Throws state failure := by
  obtain ⟨last, hThrown⟩ := h
  exact ⟨last.2, by rw [withLocal_outcome, hThrown]; rfl⟩

/-- What comes after a success throws. -/
theorem Succeeds.bind_throws {first : Action σ α} {next : α → Action σ β} (hFirst : first.Succeeds state post)
    (hNext : ∀ a middle, post a middle → (next a).Throws middle failure) :
    (first >>= next).Throws state failure := by
  obtain ⟨a, middle, hOutcome, hPost⟩ := hFirst
  obtain ⟨last, hThrown⟩ := hNext a middle hPost
  exact ⟨last, by rw [outcome_bind, hOutcome]; exact hThrown⟩

/-! ## Loops -/

/-- What holds before each step and after it holds after all of them. -/
theorem forM_succeeds {ε : Type} {step : ε → Action σ Unit} {holds : σ → Prop} {xs : List ε}
    (hStep : ∀ x ∈ xs, ∀ state, holds state → (step x).Succeeds state fun _ last => holds last)
    (h : holds state) : (xs.forM step).Succeeds state fun _ last => holds last := by
  induction xs generalizing state with
  | nil => exact pure_succeeds h
  | cons x xs ih =>
      apply (hStep x List.mem_cons_self state h).bind
      intro _ middle hMiddle
      exact ih (fun y hy => hStep y (List.mem_cons_of_mem x hy)) hMiddle

end Action

end SerializerContract
