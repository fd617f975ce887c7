import SerializerContract.Barrier
import SerializerContract.SelfCheck.Faults

/-!
# Scenarios about barriers and duplication runs
-/

namespace SerializerContract.SelfCheck

open Scenario

/-! ## Barriers -/

/-- All parties that a barrier waits for come to it, and all of them go on. -/
def releasedTogether : Scenario Unit := do
  let parties ← oneOf [1, 2, 5]
  let run := (BarrierRun.start parties parties).complete .never
  equalNumbers (run.countReturned true) parties

/-- One of two parties waits until the barrier is broken, the other one comes later. -/
def releasedByBreaking : Scenario Unit := do
  let run := ((BarrierRun.start 2 2).advance 0).breakUp.advance 0
  refuted (run.parties[0]? == some (.returned true))
  let run := (run.advance 1).advance 1
  refuted (run.parties[1]? == some (.returned true))

def barriers : Scenario Unit := do
  inSection "Releases all parties together" releasedTogether
  inSection "Broken barrier releases waiting parties" releasedByBreaking

/-! ## Duplication runs -/

def duplicationOptions : RunOptions := { workers := 4, duration := 20 }

def duplicated {f : Family} (blueprint : Blueprint f) (samples : List f.Value)
    (options : RunOptions := duplicationOptions) : Action Store Unit :=
  Duplication.runChecked f.contract {} options (pure ()) samples blueprint.build

def independentDuplicates : Scenario Unit := do
  inSection "Stateless" (passes (duplicated (.number .plain) numberSamples))
  inSection "Stateful" (passes (duplicated (.numbers .plain) staleBench.samples))

def nullDuplicate : Scenario Unit :=
  finds (duplicated (.number (.defective .nullDuplicate)) numberSamples)

def unusableInput : Scenario Unit := do
  rejects (duplicated (f := .number) .nothing numberSamples)
  rejects (duplicated (.number .plain) [])
  rejects (duplicated (.number .plain) numberSamples { duplicationOptions with workers := 0 })

def duplications : Scenario Unit := do
  inSection "Independent duplicates pass" independentDuplicates
  inSection "Null duplicate" nullDuplicate
  inSection "Unusable input" unusableInput

end SerializerContract.SelfCheck
