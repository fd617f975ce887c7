import SerializerContract.Action

/-!
# Reports

Named checks, their outcomes, and the report of all of them.
-/

namespace SerializerContract

structure PropertyResult where
  name : String
  passed : Bool
  /-- The failure in one line, empty if the check passed. -/
  message : String
deriving DecidableEq, Repr

structure SuiteReport where
  results : List PropertyResult
deriving DecidableEq, Repr

namespace SuiteReport

def failureCount (report : SuiteReport) : Nat := report.results.countP fun result => !result.passed

def passed (report : SuiteReport) : Bool := report.failureCount == 0

def find (report : SuiteReport) (name : String) : Option PropertyResult :=
  report.results.find? fun result => result.name == name

end SuiteReport

structure Property (σ : Type) where
  name : String
  check : Action σ Unit

namespace Property

variable {σ : Type}

/-- Runs a check; its failure is captured in the result. -/
def run (property : Property σ) : StateM σ PropertyResult := fun state =>
  match property.check.outcome state with
  | (.ok (), state) => (⟨property.name, true, ""⟩, state)
  | (.error failure, state) => (⟨property.name, false, failure.describe⟩, state)

/-- Runs some checks in order; one that fails does not stop the others. -/
def runAll : List (Property σ) → StateM σ (List PropertyResult)
  | [] => return []
  | property :: rest => do
    let result ← property.run
    return result :: (← runAll rest)

end Property

end SerializerContract
