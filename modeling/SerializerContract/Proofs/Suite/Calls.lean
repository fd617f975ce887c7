import SerializerContract.Proofs.Action
import SerializerContract.Suite.Checks

/-! Counting the calls of deserialize. A counter beside the state is moved by these calls alone, and
nothing reads it, so a counted suite does what the suite does. -/
namespace SerializerContract

namespace Action

variable {σ s α β κ κ' : Type}

/-- An operation beside whose state calls are counted. It counts as some number of calls. -/
def counted (calls : Nat) (action : Action σ α) : Action (σ × Nat) α := fun (state, count) =>
  let (result, state) := action state
  (result, (state, count + calls))

/-- The same for an operation that also has a local state. -/
def countedBeside (calls : Nat) (action : Action (s × σ) α) : Action (s × (σ × Nat)) α :=
  fun (part, (state, count)) =>
    let (result, (part, state)) := action (part, state)
    (result, (part, (state, count + calls)))

/-- A counted operation without its counter. -/
def uncounted (action : Action (σ × Nat) α) : Action σ α := fun state =>
  let (result, (state, _)) := action (state, 0)
  (result, state)

/-- Puts a counter behind a local state. -/
def beside (state : s × σ) (count : Nat) : s × (σ × Nat) := (state.1, (state.2, count))

/-- A counted action does what the plain one does, and counts at most so many calls. -/
def CountsAtMost (put : κ → Nat → κ') (bound : Nat) (action : Action κ' α) (plain : Action κ α) : Prop :=
  ∀ state count, ∃ calls ≤ bound, action.outcome (put state count) =
    ((plain.outcome state).1, put (plain.outcome state).2 (count + calls))

theorem counted_countsAtMost (calls : Nat) (action : Action σ α) :
    CountsAtMost Prod.mk calls (action.counted calls) action :=
  fun _ _ => ⟨calls, Nat.le_refl calls, rfl⟩

theorem countedBeside_countsAtMost (calls : Nat) (action : Action (s × σ) α) :
    CountsAtMost beside calls (action.countedBeside calls) action :=
  fun _ _ => ⟨calls, Nat.le_refl calls, rfl⟩

namespace CountsAtMost

variable {put : κ → Nat → κ'} {bound bound' total : Nat}

/-- A failure counts no calls, and neither does a result that is there already. -/
theorem ofExcept (put : κ → Nat → κ') (bound : Nat) (result : Except Failure α) :
    CountsAtMost put bound (ofExcept result) (ofExcept result) :=
  fun _ _ => ⟨0, Nat.zero_le bound, rfl⟩

/-- The calls of two parts add up. If the first part fails, the second makes none. -/
theorem bind {first : Action κ' α} {plain : Action κ α} {next : α → Action κ' β}
    {plainNext : α → Action κ β} (hFirst : CountsAtMost put bound first plain)
    (hNext : ∀ a, CountsAtMost put bound' (next a) (plainNext a)) (hTotal : bound + bound' ≤ total) :
    CountsAtMost put total (first >>= next) (plain >>= plainNext) := by
  intro state count
  obtain ⟨calls, hCalls, hOutcome⟩ := hFirst state count
  rw [outcome_bind, outcome_bind, hOutcome]
  rcases plain.outcome state with ⟨_ | a, middle⟩
  · exact ⟨calls, by omega, rfl⟩
  · obtain ⟨more, hMore, hRest⟩ := hNext a middle (count + calls)
    exact ⟨calls + more, by omega, by rw [← Nat.add_assoc]; exact hRest⟩

/-- A local state costs no calls. -/
theorem withLocal {init : s} {action : Action (s × (σ × Nat)) α} {plain : Action (s × σ) α}
    (h : CountsAtMost beside bound action plain) :
    CountsAtMost Prod.mk bound (action.withLocal init) (plain.withLocal init) := by
  intro state count
  obtain ⟨calls, hCalls, hOutcome⟩ := h (init, state) count
  refine ⟨calls, hCalls, ?_⟩
  simp only [outcome, Action.withLocal, beside] at hOutcome ⊢
  rw [hOutcome]
  rfl

theorem onSecond {action : Action (σ × Nat) α} {plain : Action σ α}
    (h : CountsAtMost Prod.mk bound action plain) :
    CountsAtMost (beside (s := s)) bound action.onSecond plain.onSecond := by
  intro result count
  obtain ⟨part, state⟩ := result
  obtain ⟨calls, hCalls, hOutcome⟩ := h state count
  refine ⟨calls, hCalls, ?_⟩
  simp only [outcome, Action.onSecond, beside] at hOutcome ⊢
  rw [hOutcome]
  rfl

/-- A guard costs no calls. -/
theorem guarded {property : String} {action : Action (σ × Nat) α} {plain : Action σ α}
    (h : CountsAtMost Prod.mk bound action plain) :
    CountsAtMost Prod.mk bound (Suite.guarded property action) (Suite.guarded property plain) := by
  intro state count
  obtain ⟨calls, hCalls, hOutcome⟩ := h state count
  refine ⟨calls, hCalls, ?_⟩
  simp only [outcome, Suite.guarded] at hOutcome ⊢
  rw [hOutcome]
  rcases plain state with ⟨_ | a, middle⟩ <;> rfl

end CountsAtMost

end Action

variable {σ A S N : Type} {t : ValueType}

/-- Operations that count how often a value is deserialized. -/
def Operations.counted {α : Type} (operations : Operations σ α) : Operations (σ × Nat) α where
  create := operations.create.counted 0
  copy v := (operations.copy v).counted 0
  copyInto v := (operations.copyInto v).countedBeside 0
  rawCopy := operations.rawCopy.countedBeside 0
  length := operations.length.counted 0
  serialize v := (operations.serialize v).countedBeside 0
  deserialize := operations.deserialize.countedBeside 1
  deserializeInto := operations.deserializeInto.countedBeside 1

namespace Registry

def counted (registry : Registry σ A) : Registry (σ × Nat) A :=
  ⟨registry.factories.map fun (id, factory) => (id, factory.counted 0)⟩

def uncounted (registry : Registry (σ × Nat) A) : Registry σ A :=
  ⟨registry.factories.map fun (id, factory) => (id, factory.uncounted)⟩

end Registry

/-- A family of serializers whose operations count how often a value is deserialized. -/
def Contract.counted (C : Contract σ A t S N) : Contract (σ × Nat) A t S N where
  operations serializer := (C.operations serializer).counted
  duplicate serializer := (C.duplicate serializer).counted 0
  equals serializer other := (C.equals serializer other).counted 0
  typeName := C.typeName
  snapshot serializer := (C.snapshot serializer).counted 0
  ofAny := C.ofAny
  snapshotId := C.snapshotId
  snapshotVersion := C.snapshotVersion
  snapshotTypeName := C.snapshotTypeName
  writePayload snapshot := (C.writePayload snapshot).countedBeside 0
  readPayload version registry := (C.readPayload version registry.uncounted).countedBeside 0
  restore snapshot := (C.restore snapshot).counted 0
  resolve snapshot serializer := (C.resolve snapshot serializer).counted 0

variable {C : Contract σ A t S N}

def Fixture.counted (fixture : Fixture C) : Fixture C.counted where
  createSerializer := fixture.createSerializer.counted 0
  length := fixture.length
  samples := fixture.samples
  acceptsInstance := fixture.acceptsInstance
  allowsNullInstances := fixture.allowsNullInstances
  registrations := fixture.registrations
  registry := (fixture.registry.counted 0).bind fun registry => pure registry.counted
  startThread := fixture.startThread.counted 0

namespace Suite

def counted (suite : Suite C) : Suite C.counted where
  fixture := suite.fixture.counted
  checker := suite.checker
  registry := suite.registry.counted
  options := suite.options

theorem counted_samples (suite : Suite C) : suite.counted.fixture.samples = suite.fixture.samples := rfl

open SerializerContract.Action

variable {ρ : Type}

/-- Writing the samples calls no deserialize at all. -/
theorem serializeAll_countsAtMost (operations : Operations σ t.Val) (samples : List t.Val) :
    CountsAtMost beside 0 (serializeAll operations.counted samples) (serializeAll operations samples) := by
  induction samples with
  | nil => exact .ofExcept beside 0 (.ok ())
  | cons v rest ih =>
      exact (countedBeside_countsAtMost 0 (operations.serialize v)).bind (fun _ => ih) (Nat.le_refl 0)

/-- Raw copies call no deserialize at all. -/
theorem copyAll_countsAtMost (operations : Operations σ t.Val) (n : Nat) :
    CountsAtMost beside 0 (copyAll operations.counted n) (copyAll operations n) := by
  induction n with
  | zero => exact .ofExcept beside 0 (.ok ())
  | succ n ih =>
      exact (countedBeside_countsAtMost 0 operations.rawCopy).bind (fun _ => ih) (Nat.le_refl 0)

theorem readNew_countsAtMost (operations : Operations σ t.Val) (carried : Unit) :
    CountsAtMost beside 1 (readNew operations.counted carried) (readNew operations carried) :=
  (countedBeside_countsAtMost 1 operations.deserialize).bind
    (fun v => .ofExcept beside 0 (.ok (v, ()))) (Nat.le_refl 1)

theorem readReusing_countsAtMost (operations : Operations σ t.Val) (carried : t.Val) :
    CountsAtMost beside 1 (readReusing operations.counted carried) (readReusing operations carried) :=
  fun _ _ => ⟨1, Nat.le_refl 1, rfl⟩

theorem readFresh_countsAtMost (operations : Operations σ t.Val) (carried : Unit) :
    CountsAtMost beside 1 (readFresh operations.counted carried) (readFresh operations carried) := by
  refine (counted_countsAtMost 0 operations.create).onSecond.bind (fun target => ?_)
    (Nat.le_of_eq (Nat.zero_add 1))
  exact (readReusing_countsAtMost operations target).bind
    (fun read => .ofExcept beside 0 (.ok (read.1, ()))) (Nat.le_refl 1)

theorem deepEquals_countsAtMost (suite : Suite C) (property message : String) (expected actual : t.Val) :
    CountsAtMost Prod.mk 0 (suite.counted.deepEquals property message expected actual)
      (suite.deepEquals property message expected actual) := by
  refine (CountsAtMost.ofExcept Prod.mk 0 (suite.checker.equals t expected actual)).bind
    (fun equal => ?_) (Nat.le_of_eq (Nat.zero_add 0))
  cases equal with
  | false => exact .ofExcept Prod.mk 0 (.error _)
  | true => exact .ofExcept Prod.mk 0 (.ok ())

section Streams

variable (suite : Suite C) (property : String) {reader : Reader σ ρ t.Val}
    {counted : Reader (σ × Nat) ρ t.Val}
    (hReader : ∀ carried, CountsAtMost beside 1 (counted carried) (reader carried))

include hReader

/-- The loop reads at most as often as there are samples, whatever a read consumes. -/
theorem compareStream_countsAtMost (samples : List t.Val) (carried : ρ) (input : InputChannel)
    (count : Nat) :
    CountsAtMost Prod.mk samples.length
      (suite.counted.compareStream property counted samples carried input count)
      (suite.compareStream property reader samples carried input count) := by
  induction samples generalizing carried input count with
  | nil =>
      rw [compareStream, compareStream]
      split
      · exact .ofExcept Prod.mk 0 (.ok count)
      · exact .ofExcept Prod.mk 0 (.error _)
  | cons v rest ih =>
      rw [compareStream, compareStream]
      split
      · exact .ofExcept Prod.mk _ (.ok count)
      · refine (hReader carried).withLocal.bind (fun read => ?_)
          (Nat.le_of_eq (Nat.add_comm 1 rest.length))
        exact (deepEquals_countsAtMost suite property wrongValue v read.1.1).bind
          (fun _ => ih read.1.2 read.2 (count + 1)) (Nat.le_of_eq (Nat.zero_add _))

/-- Reading a stream back costs at most one call for each sample. -/
theorem compareStream_checkCount_countsAtMost (message : String) (carried : ρ) (input : InputChannel) :
    CountsAtMost Prod.mk suite.fixture.samples.length
      (do
        let count ← suite.counted.compareStream property counted suite.fixture.samples carried input 0
        suite.counted.checkCount property message count)
      (do
        let count ← suite.compareStream property reader suite.fixture.samples carried input 0
        suite.checkCount property message count) := by
  refine (compareStream_countsAtMost suite property hReader _ carried input 0).bind (fun count => ?_)
    (Nat.le_of_eq (Nat.add_zero _))
  rw [checkCount, checkCount, counted_samples]
  split
  · exact .ofExcept Prod.mk 0 (.error _)
  · exact .ofExcept Prod.mk 0 (.ok ())

/-- A sequence check costs at most one call for each sample. -/
theorem asSequence_countsAtMost (operations : Operations σ t.Val) {start : Action σ ρ}
    {countedStart : Action (σ × Nat) ρ} (hStart : CountsAtMost Prod.mk 0 countedStart start) :
    CountsAtMost Prod.mk suite.fixture.samples.length
      (suite.counted.asSequence property operations.counted counted countedStart)
      (suite.asSequence property operations reader start) := by
  refine (serializeAll_countsAtMost operations suite.fixture.samples).withLocal.bind (fun written => ?_)
    (Nat.le_of_eq (Nat.zero_add _))
  exact hStart.bind (fun carried => compareStream_checkCount_countsAtMost suite property hReader _
    carried written.2.inputView) (Nat.le_of_eq (Nat.zero_add _))

end Streams

end Suite

end SerializerContract
