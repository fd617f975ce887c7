/-!
# Failures

What an operation can fail with. A fault is one thrown condition; a failure is a fault together with
the causes nested in it, outermost first.
-/

namespace SerializerContract

/-- The ordinary kinds of fault, none of them about a property under test. -/
inductive FaultKind where
  | serialization
  | deserialization
  /-- An argument outside the accepted range. -/
  | invalidArgument
  /-- An operation asked for at the wrong time. -/
  | logic
  | system
  | runtime
  /-- A container asked to grow beyond what it can ever hold. -/
  | length
  /-- More memory asked for than there can be. -/
  | memory
deriving DecidableEq, Repr

/-- The kinds of finding: faults that belong to a property of the contract. -/
inductive FindingKind where
  | plain
  /-- The fixture supplied unusable input. -/
  | fixture
  /-- The serializer under test broke its contract. -/
  | contract
  /-- The serializer could not be cloned through its configuration snapshot. -/
  | clone
  /-- A failure inside one of the concurrent workers. -/
  | concurrent (worker : Nat)
deriving DecidableEq, Repr

inductive Fault where
  | standard (kind : FaultKind) (message : String)
  | finding (kind : FindingKind) (property : String) (message : String)
  /-- Something that carries no description at all. -/
  | foreign
deriving DecidableEq, Repr

namespace Fault

/-- What is shown for a fault that carries no description. -/
def unknownText : String := "unknown exception"

/-- What a fault was made with; a finding is introduced by the property it belongs to. -/
def wording : Fault → String
  | .standard _ message => message
  | .finding _ property message => "[" ++ property ++ "] " ++ message
  | .foreign => unknownText

/-- The part of a text before its first zero character. -/
def beforeZero (text : String) : String :=
  String.ofList (text.toList.takeWhile fun c => c != '\x00')

/-- The message of a fault. A zero character ends it, whatever the wording goes on with. -/
def message (fault : Fault) : String := beforeZero fault.wording

def isStandard : Fault → Bool
  | .foreign => false
  | _ => true

def isFinding : Fault → Bool
  | .finding .. => true
  | _ => false

end Fault

/-- A fault and the causes nested in it, outermost first. -/
structure Failure where
  fault : Fault
  causes : List Fault := []
deriving DecidableEq, Repr

namespace Failure

/-- The text of a fault that describes itself, and of the causes nested in it: its message, and after a colon
what its cause shows. A cause that carries no description is unknown, and its own causes are not looked for. -/
def describeStandard : Fault → List Fault → String
  | fault, [] => fault.message
  | fault, cause :: rest =>
    fault.message ++ (": " ++ if cause.isStandard then describeStandard cause rest else Fault.unknownText)

/-- The whole chain in one line. -/
def describe (failure : Failure) : String :=
  if failure.fault.isStandard then describeStandard failure.fault failure.causes else Fault.unknownText

def message (failure : Failure) : String := failure.fault.message

/-- A new outermost fault over this failure. -/
def wrap (failure : Failure) (outer : Fault) : Failure :=
  ⟨outer, failure.fault :: failure.causes⟩

def cause (failure : Failure) : Option Failure :=
  match failure.causes with
  | [] => none
  | fault :: rest => some ⟨fault, rest⟩

def ofKind (kind : FaultKind) (message : String) : Failure := ⟨.standard kind message, []⟩

def serialization (message : String) : Failure := ofKind .serialization message

def deserialization (message : String) : Failure := ofKind .deserialization message

def invalidArgument (message : String) : Failure := ofKind .invalidArgument message

def ofFinding (kind : FindingKind) (property message : String) : Failure :=
  ⟨.finding kind property message, []⟩

def fixture (property message : String) : Failure := ofFinding .fixture property message

def contract (property message : String) : Failure := ofFinding .contract property message

/-- More memory is asked for than there can be. -/
def outOfMemory : Failure := ofKind .memory "std::bad_alloc"

/-- Fewer bytes are left than a value needs. -/
def shortage : Failure := deserialization "Provided serialized data size is too small"

end Failure

end SerializerContract
