/-!
# Start barriers

A one-shot barrier lets a number of parties wait for each other. Breaking it releases every waiting
and every future party with a refusal. Each step below is one critical section; any party may take
the next one. A party that waits is asleep until it is notified, or wakes up without having been; then
it looks again whether it may go on.
-/

namespace SerializerContract

/-- A barrier: how many parties it waits for, how many have arrived, and whether it was broken. -/
structure StartBarrier where
  parties : Nat
  arrived : Nat := 0
  broken : Bool := false
deriving DecidableEq, Repr

inductive Party where
  | outside
  /-- It waits, and may have been notified since it last looked. -/
  | waiting (notified : Bool)
  /-- It went on, released or refused. -/
  | returned (released : Bool)
deriving DecidableEq, Repr

/-- A barrier together with the parties that come to it, and how often it is still going to be broken. -/
structure BarrierRun where
  barrier : StartBarrier
  parties : List Party
  breaks : Nat := 0
deriving DecidableEq, Repr

namespace StartBarrier

def isFull (barrier : StartBarrier) : Bool := decide (barrier.parties ≤ barrier.arrived)

def arrive (barrier : StartBarrier) : StartBarrier := { barrier with arrived := barrier.arrived + 1 }

def breakUp (barrier : StartBarrier) : StartBarrier := { barrier with broken := true }

/-- Whether a waiting party may go on. -/
def letsGo (barrier : StartBarrier) : Bool := barrier.broken || barrier.isFull

/-- What a party that goes on is told. -/
def verdict (barrier : StartBarrier) : Bool := !barrier.broken

/-- What becomes of a party that looks whether it may go on. -/
def judge (barrier : StartBarrier) : Party :=
  if barrier.letsGo then .returned barrier.verdict else .waiting false

end StartBarrier

def Party.notify : Party → Party
  | .waiting _ => .waiting true
  | party => party

namespace BarrierRun

/-- A barrier for some parties, how many come to it, and how often it is broken; none has arrived. -/
def start (parties count : Nat) (breaks : Nat := 0) : BarrierRun :=
  ⟨⟨parties, 0, false⟩, List.replicate count .outside, breaks⟩

def notifyAll (run : BarrierRun) : BarrierRun := { run with parties := run.parties.map Party.notify }

/-- A party looks whether it may go on. -/
def look (run : BarrierRun) (i : Nat) : BarrierRun :=
  { run with parties := run.parties.set i run.barrier.judge }

def arrive (run : BarrierRun) : BarrierRun := { run with barrier := run.barrier.arrive }

/-- A party comes to the barrier. The last one notifies the others, and goes on at once. -/
def enter (run : BarrierRun) (i : Nat) : BarrierRun :=
  (if run.arrive.barrier.isFull then run.arrive.notifyAll else run.arrive).look i

def breakUp (run : BarrierRun) : BarrierRun :=
  { run with barrier := run.barrier.breakUp, breaks := run.breaks - 1 }.notifyAll

/-- Which critical section is the next one. -/
inductive Event where
  | enter (i : Nat)
  /-- A party that was notified wakes up. -/
  | wake (i : Nat)
  /-- A party wakes up that was not notified. -/
  | stir (i : Nat)
  | breakUp
deriving DecidableEq, Repr

/-- One critical section. -/
inductive Step : BarrierRun → Event → BarrierRun → Prop where
  | enter {run : BarrierRun} {i : Nat} (outside : run.parties[i]? = some .outside) :
    Step run (.enter i) (run.enter i)
  | wake {run : BarrierRun} {i : Nat} (notified : run.parties[i]? = some (.waiting true)) :
    Step run (.wake i) (run.look i)
  | stir {run : BarrierRun} {i : Nat} (asleep : run.parties[i]? = some (.waiting false)) :
    Step run (.stir i) (run.look i)
  | breakUp {run : BarrierRun} (due : 0 < run.breaks) : Step run .breakUp run.breakUp

/-- The `i`-th party takes its next step, if it has one. -/
def advance (run : BarrierRun) (i : Nat) : BarrierRun :=
  match run.parties[i]? with
  | some .outside => run.enter i
  | some (.waiting true) => run.look i
  | _ => run

def advanceAll (run : BarrierRun) : BarrierRun :=
  (List.range run.parties.length).foldl advance run

inductive BreakTime where
  | never
  | before
  | after
deriving DecidableEq, Repr

/-- All parties come to the barrier, and go on as far as they can. -/
def complete (run : BarrierRun) : BreakTime → BarrierRun
  | .never => run.advanceAll.advanceAll
  | .before => run.breakUp.advanceAll.advanceAll
  | .after => run.advanceAll.breakUp.advanceAll

/-- How many parties went on and were told so. -/
def countReturned (run : BarrierRun) (released : Bool) : Nat := run.parties.count (.returned released)

end BarrierRun

end SerializerContract
