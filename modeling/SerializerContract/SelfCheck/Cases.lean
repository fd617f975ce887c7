import SerializerContract.SelfCheck.Channels
import SerializerContract.SelfCheck.Duplications

/-!
# The scenarios by name
-/

namespace SerializerContract.SelfCheck

def conformanceOf (fixture : String) : String := fixture ++ " conforms to the serializer contract"

def cases : List (String × Scenario Unit) := [
  ("Value codec test", codecs),
  ("Byte channel test", channels),
  ("Deep equality test", equality),
  ("Snapshot IO test", snapshots),
  ("Nullable serializer test", wrappers),
  (conformanceOf "IntSerializerFixture", conforms numberBench),
  (conformanceOf "StringSerializerFixture", conforms textBench),
  (conformanceOf "ScratchVectorSerializerFixture", conforms numbersBench),
  (conformanceOf "PointSerializerFixture", conforms pointBench),
  (conformanceOf "BoundedStringSerializerFixture", conforms boundedBench),
  (conformanceOf "CircleSerializerFixture", conforms circleBench),
  (conformanceOf "NullableIntSerializerFixture", conforms optionalBench),
  ("Conformance suite test", suites),
  ("Faulty serializer detection test", faults),
  ("Start barrier test", barriers),
  ("Duplication runner test", duplications)]

def find (name : String) : Option (Scenario Unit) := cases.lookup name

/-- Runs a scenario and lists what it noted down, in order. -/
def record (scenario : Scenario Unit) (journal : Journal) : Except Failure Unit × List JournalEntry :=
  let (result, journal) := scenario.outcome journal
  (result, journal.entries.reverse)

end SerializerContract.SelfCheck
