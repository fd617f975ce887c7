import SerializerContract.Duplication

/-!
# Fixtures

What the suite needs to know about a serializer, and the suite that is prepared from it.
-/

namespace SerializerContract

/-- Everything that the suite needs to know about one serializer. -/
structure Fixture {σ A S N : Type} {t : ValueType} (C : Contract σ A t S N) where
  /-- A fresh serializer, asked for once by each check; null if there is none. -/
  createSerializer : Action σ (Option S)
  /-- The length that the serializer should report; never zero. -/
  length : Int
  samples : List t.Val
  /-- Whether an instance is of the type that the fixture is about. -/
  acceptsInstance : t.Val → Bool := fun _ => true
  allowsNullInstances : Bool := false
  registrations : List Registration := []
  /-- A registry with the snapshot types that the serializer produces. -/
  registry : Action σ (Registry σ A)
  startThread : Action σ Unit := pure ()

/-- A fixture together with what was prepared from it. -/
structure Suite {σ A S N : Type} {t : ValueType} (C : Contract σ A t S N) where
  fixture : Fixture C
  checker : Checker
  registry : Registry σ A
  options : RunOptions

namespace Suite

variable {σ A S N : Type} {t : ValueType} {C : Contract σ A t S N}

/-- Prepares a suite. Without samples, or with options that cannot be used, there is none. -/
def prepare (fixture : Fixture C) (checker : Checker := {}) (options : RunOptions := {}) :
    Action σ (Suite C) := do
  if fixture.samples.isEmpty then
    throw (.fixture "fixture" "Test case corrupt. Returns no test data.")
  if !options.isUsable then
    throw (.fixture "fixture" "Duplication check needs at least one worker and a positive duration")
  let registry ← fixture.registry
  return ⟨fixture, checker.registerAll fixture.registrations, registry, options⟩

def getSerializer (suite : Suite C) (property : String) : Action σ S := do
  match ← suite.fixture.createSerializer with
  | none => throw (.fixture property "Test case corrupt. Returns null as serializer.")
  | some serializer => return serializer

end Suite

end SerializerContract
