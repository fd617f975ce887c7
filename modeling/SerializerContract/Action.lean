import SerializerContract.Failure

/-!
# Actions

An operation on some state that ends with a result or with a failure. The state survives a failure:
what an operation changed before it failed stays changed.
-/

namespace SerializerContract

/-- An operation on a state of type `σ` that may fail. -/
abbrev Action (σ α : Type) := ExceptT Failure (StateM σ) α

namespace Action

variable {σ s α : Type}

def of (effect : σ → Except Failure α × σ) : Action σ α := effect

/-- The outcome and the state after an operation. -/
def outcome (action : Action σ α) (state : σ) : Except Failure α × σ := action state

/-- A computation that touches no state. -/
def ofExcept (result : Except Failure α) : Action σ α := fun state => (result, state)

def onFirst (action : Action s α) : Action (s × σ) α := fun (first, second) =>
  let (result, first) := action first
  (result, (first, second))

def onSecond (action : Action σ α) : Action (s × σ) α := fun (first, second) =>
  let (result, second) := action second
  (result, (first, second))

/-- Runs an operation that also needs a local state, which starts as `init` and is handed out at the
end. On a failure the local state is lost. -/
def withLocal (init : s) (action : Action (s × σ) α) : Action σ (α × s) := fun state =>
  let (result, (last, state)) := action (init, state)
  (result.map fun value => (value, last), state)

def zoom (get : σ → s) (set : s → σ → σ) (action : Action s α) : Action σ α := fun state =>
  let (result, part) := action (get state)
  (result, set part state)

/-- The outcome of an operation as a value; nothing is thrown. -/
def attempt (action : Action σ α) : Action σ (Except Failure α) := fun state =>
  let (result, state) := action state
  (.ok result, state)

end Action

end SerializerContract
