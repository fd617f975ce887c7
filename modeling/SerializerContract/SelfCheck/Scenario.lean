import SerializerContract.Store
import SerializerContract.ValueType.Dynamic
import SerializerContract.ValueType.Order

/-!
# Scenarios

A scenario drives the library and keeps a journal: the sections it entered and the assertions it made,
with what they compared. It ends at the first assertion that does not hold. Only the sections on a
given path are entered, and random draws come from given lists, so that every run can be repeated.
-/

namespace SerializerContract

/-- What an assertion shows of an operand. -/
inductive Operand where
  | truth (b : Bool)
  | number (n : Int)
  | text (s : String)
  | value (v : TypedValue)
  | reference
  | null
  | unshown

/-- What an assertion is about. -/
inductive Assertion where
  | equal (left right : Operand)
  | different (left right : Operand)
  | holds (operand : Operand)
  | refuted (operand : Operand)
  /-- Something failed, and with what if it did. -/
  | fails (failure : Option Failure)
  | succeeds
  | contains (text : String) (parts : List String)
  | unreachable (text : String)

/-- What is noted down. -/
inductive JournalEntry where
  | entered (name : String)
  | info (text : String)
  | asserted (assertion : Assertion) (ok : Bool)

/-- A run of a scenario. -/
structure Journal where
  /-- The names of the sections to enter at each depth. -/
  path : List String
  depth : Nat := 0
  /-- What random whole numbers are drawn from, over and over. -/
  numbers : List Int := []
  numbersDrawn : Nat := 0
  doubles : List (BitVec 64) := []
  doublesDrawn : Nat := 0
  store : Store := {}
  /-- What was noted down, the latest first. -/
  entries : List JournalEntry := []

/-- A scenario; what ends it early is a failure. -/
abbrev Scenario (α : Type) := Action Journal α

namespace Scenario

variable {α s : Type}

/-! ## Notes -/

def note (entry : JournalEntry) : Scenario Unit :=
  modify fun journal => { journal with entries := entry :: journal.entries }

/-- Notes an assertion. One that does not hold ends the scenario, with nothing more to say. -/
def claim (assertion : Assertion) (ok : Bool) : Scenario Unit := do
  note (.asserted assertion ok)
  if ok then return () else throw ⟨.foreign, []⟩

def info (text : String) : Scenario Unit := note (.info text)

/-- The name on a path that lets every section in. -/
def anySection : String := "*"

def enter (name : String) : Scenario Bool := do
  let journal ← get
  match journal.path[journal.depth]? with
  | some wanted =>
    if wanted = name || wanted = anySection then
      note (.entered name)
      modify fun journal => { journal with depth := journal.depth + 1 }
      return true
    else return false
  | none => return false

def leave : Scenario Unit := modify fun journal => { journal with depth := journal.depth - 1 }

/-- Runs a section if it is on the path. -/
def inSection (name : String) (body : Scenario Unit) : Scenario Unit := do
  if ← enter name then
    body
    leave

/-- Runs a section that works on something it shares with others, if it is on the path. -/
def through (name : String) (body : s → Scenario s) (shared : s) : Scenario s := do
  if ← enter name then
    let shared ← body shared
    leave
    return shared
  else return shared

/-! ## Assertions -/

def equalNumbers (left right : Int) : Scenario Unit :=
  claim (.equal (.number left) (.number right)) (left == right)

def equalTexts (left right : String) : Scenario Unit :=
  claim (.equal (.text left) (.text right)) (left == right)

def equalValues (t : ValueType) (left right : t.Val) : Scenario Unit :=
  claim (.equal (.value ⟨t, left⟩) (.value ⟨t, right⟩)) (t.same left right)

def holds (b : Bool) : Scenario Unit := claim (.holds (.truth b)) b

def refuted (b : Bool) : Scenario Unit := claim (.refuted (.truth b)) (!b)

/-- A comparison that may fail must hold. -/
def holdsOf (result : Except Failure Bool) : Scenario Unit := do holds (← Action.ofExcept result)

def refutedOf (result : Except Failure Bool) : Scenario Unit := do refuted (← Action.ofExcept result)

def fails (expected : Fault → Bool) (result : Except Failure α) : Scenario Unit :=
  match result with
  | .ok _ => claim (.fails none) false
  | .error failure => claim (.fails (some failure)) (expected failure.fault)

def succeeds (result : Except Failure α) : Scenario Unit :=
  match result with
  | .ok _ => claim .succeeds true
  | .error _ => claim .succeeds false

def occursIn (part : List Char) : List Char → Bool
  | [] => part.isEmpty
  | c :: cs => part.isPrefixOf (c :: cs) || occursIn part cs

def containsAll (text : String) (parts : List String) : Scenario Unit :=
  claim (.contains text parts) (parts.all fun part => occursIn part.toList text.toList)

def failsSaying (parts : List String) (result : Except Failure α) : Scenario Unit :=
  match result with
  | .ok _ => claim (.contains "" parts) false
  | .error failure => containsAll failure.message parts

/-! ## Kinds of faults -/

/-- Whether a fault is of a kind, or of a more specific one. -/
def ofKind (kind : FaultKind) : Fault → Bool
  | .standard own _ => own == kind || (kind == .logic && own == .invalidArgument)
  | _ => false

def ofFinding (kind : FindingKind) : Fault → Bool
  | .finding own _ _ => own == kind
  | _ => false

/-! ## Actions -/

def onStore (action : Action Store α) : Scenario α :=
  Action.zoom Journal.store (fun store journal => { journal with store }) action

def tryOnStore (action : Action Store α) : Scenario (Except Failure α) := onStore (Action.attempt action)

/-- Runs an action on some state, which must succeed. -/
def run (state : s) (action : Action s α) : Scenario (α × s) :=
  match action.outcome state with
  | (.ok a, state) => return (a, state)
  | (.error failure, _) => throw failure

def after (state : s) (action : Action s Unit) : Scenario s := do
  return (← Scenario.run state action).2

/-! ## Draws -/

/-- The next number to draw from, as a number of 64 bits. -/
def nextNumber : Scenario Nat := do
  let journal ← get
  set { journal with numbersDrawn := journal.numbersDrawn + 1 }
  let n := journal.numbers.getD (journal.numbersDrawn % journal.numbers.length) 0
  return (n % 0x10000000000000000).toNat

def random (low high : Int) : Scenario Int := do
  return low + (← nextNumber) % (high - low + 1)

def randomWord : Scenario (BitVec 32) := do
  return BitVec.ofInt 32 (← random (-0x80000000) 0x7fffffff)

def draws (draw : Scenario α) : Nat → Scenario (List α)
  | 0 => return []
  | n + 1 => do
    let first ← draw
    return first :: (← draws draw n)

def oneOf (values : List Nat) : Scenario Nat := do
  return values.getD ((← nextNumber) % values.length) 0

def randomDouble : Scenario (BitVec 64) := do
  let journal ← get
  set { journal with doublesDrawn := journal.doublesDrawn + 1 }
  return journal.doubles.getD (journal.doublesDrawn % journal.doubles.length) 0

end Scenario

end SerializerContract
