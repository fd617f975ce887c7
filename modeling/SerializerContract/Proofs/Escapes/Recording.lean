import SerializerContract.Proofs.Action
import SerializerContract.Sample.Script
import SerializerContract.Suite.Checks

/-! Recording the failures that escape from operations. A log beside the state takes down every failure of an
operation under test, and nothing reads it, so a recorded suite does what the suite does. What a fixture does
itself is not recorded. -/
namespace SerializerContract

/-- A failure that escaped from an operation of a serializer or of a snapshot. -/
structure Escape where
  /-- The operation, or none while an empty snapshot is made for a registry. -/
  occasion : Option Occasion
  failure : Failure

namespace Action

variable {σ s α β κ κ' : Type} {occasion : Option Occasion}

/-- What a result lets out. -/
def escapes (occasion : Option Occasion) : Except Failure α → List Escape
  | .ok _ => []
  | .error failure => [⟨occasion, failure⟩]

/-- A failure is in the log exactly if it is what the operation ended with. -/
theorem mem_escapes {result : Except Failure α} {escape : Escape} :
    escape ∈ escapes occasion result ↔ escape.occasion = occasion ∧ result = .error escape.failure := by
  obtain ⟨other, failure⟩ := escape
  cases result with
  | ok _ => exact ⟨nofun, nofun⟩
  | error ended =>
      rw [escapes, List.mem_singleton, Escape.mk.injEq, Except.error.injEq]
      exact and_congr_right fun _ => eq_comm

/-- An operation beside whose state there is a log of what escaped. -/
def recorded (occasion : Option Occasion) (action : Action σ α) : Action (σ × List Escape) α :=
  fun (state, log) =>
    let (result, state) := action state
    (result, (state, log ++ escapes occasion result))

/-- The same for an operation that also has a local state. -/
def recordedBeside (occasion : Option Occasion) (action : Action (s × σ) α) :
    Action (s × (σ × List Escape)) α := fun (part, (state, log)) =>
  let (result, (part, state)) := action (part, state)
  (result, (part, (state, log ++ escapes occasion result)))

/-- A recorded operation without its log. -/
def unrecorded (action : Action (σ × List Escape) α) : Action σ α := fun state =>
  let (result, (state, _)) := action (state, [])
  (result, state)

/-- Puts a log behind a local state. -/
def behind (state : s × σ) (log : List Escape) : s × (σ × List Escape) := (state.1, (state.2, log))

/-- A recorded action does what the plain one does. If a failure escapes on its way, the action ends with a
failure that this one becomes. -/
def Accounts (put : κ → List Escape → κ') (becomes : Escape → Failure → Prop) (action : Action κ' α)
    (plain : Action κ α) : Prop :=
  ∀ state log, ∃ told, action.outcome (put state log) =
      ((plain.outcome state).1, put (plain.outcome state).2 (log ++ told)) ∧
    ∀ escape ∈ told, ∃ ended, (plain.outcome state).1 = .error ended ∧ becomes escape ended

/-- The failure that escaped is the one that an action ends with. -/
def Ends (escape : Escape) (ended : Failure) : Prop := escape.failure = ended

/-- The same where serializers are not compared with each other. -/
def EndsUncompared (escape : Escape) (ended : Failure) : Prop :=
  escape.occasion ≠ some .equals ∧ escape.failure = ended

/-- The same where serializers are compared and nothing else is done. -/
def EndsComparing (escape : Escape) (ended : Failure) : Prop :=
  escape.occasion = some .equals ∧ escape.failure = ended

/-- A result that is only turned into another one ends with what it lets out. -/
theorem ends_of_escapes {result : Except Failure α} {escape : Escape} (h : escape ∈ escapes occasion result)
    (finish : α → β) : ∃ ended, result.map finish = .error ended ∧ Ends escape ended := by
  refine ⟨escape.failure, ?_, rfl⟩
  rw [(mem_escapes.mp h).2]
  rfl

/-- An operation with a log does what it does without one, and tells its failure. -/
theorem recorded_accounts {becomes : Escape → Failure → Prop} (action : Action σ α)
    (h : ∀ failure, becomes ⟨occasion, failure⟩ failure) :
    Accounts Prod.mk becomes (action.recorded occasion) action := by
  intro state log
  refine ⟨escapes occasion (action.outcome state).1, rfl, fun escape hEscape => ?_⟩
  obtain ⟨rfl, hFailed⟩ := mem_escapes.mp hEscape
  exact ⟨escape.failure, hFailed, h escape.failure⟩

theorem recordedBeside_accounts {becomes : Escape → Failure → Prop} (action : Action (s × σ) α)
    (h : ∀ failure, becomes ⟨occasion, failure⟩ failure) :
    Accounts behind becomes (action.recordedBeside occasion) action := by
  intro state log
  refine ⟨escapes occasion (action.outcome state).1, rfl, fun escape hEscape => ?_⟩
  obtain ⟨rfl, hFailed⟩ := mem_escapes.mp hEscape
  exact ⟨escape.failure, hFailed, h escape.failure⟩

theorem recorded_ends (action : Action σ α) : Accounts Prod.mk Ends (action.recorded occasion) action :=
  recorded_accounts action fun _ => rfl

theorem recordedBeside_ends (action : Action (s × σ) α) :
    Accounts behind Ends (action.recordedBeside occasion) action :=
  recordedBeside_accounts action fun _ => rfl

theorem recorded_uncompared (action : Action σ α) (h : occasion ≠ some .equals) :
    Accounts Prod.mk EndsUncompared (action.recorded occasion) action :=
  recorded_accounts action fun _ => ⟨h, rfl⟩

theorem recordedBeside_uncompared (action : Action (s × σ) α) (h : occasion ≠ some .equals) :
    Accounts behind EndsUncompared (action.recordedBeside occasion) action :=
  recordedBeside_accounts action fun _ => ⟨h, rfl⟩

namespace Accounts

variable {put : κ → List Escape → κ'} {becomes becomes' : Escape → Failure → Prop}

/-- An action that tells of nothing has nothing to account for. -/
theorem of_silent {action : Action κ' α} {plain : Action κ α} (h : ∀ state log, action.outcome (put state log) =
    ((plain.outcome state).1, put (plain.outcome state).2 log)) : Accounts put becomes action plain := by
  intro state log
  refine ⟨[], ?_, List.forall_mem_nil _⟩
  rw [List.append_nil]
  exact h state log

theorem ofExcept (result : Except Failure α) :
    Accounts put becomes (ofExcept result) (ofExcept result) := of_silent fun _ _ => rfl

protected theorem pure (a : α) : Accounts put becomes (pure a) (pure a) := of_silent fun _ _ => rfl

protected theorem throw (failure : Failure) :
    Accounts put becomes (throw failure : Action κ' α) (throw failure : Action κ α) := of_silent fun _ _ => rfl

theorem ite {condition : Prop} [Decidable condition] {first next : Action κ' α} {plain plainNext : Action κ α}
    (hFirst : Accounts put becomes first plain) (hNext : Accounts put becomes next plainNext) :
    Accounts put becomes (if condition then first else next) (if condition then plain else plainNext) := by
  split
  · exact hFirst
  · exact hNext

/-- What the checks expect of what they are given is not recorded. -/
theorem refuse {condition : Prop} [Decidable condition] {failure : Failure} {other : Unit → Action κ' α}
    {plainOther : Unit → Action κ α} {next : Action κ' α} {plainNext : Action κ α}
    (hNext : Accounts put becomes next plainNext) :
    Accounts put becomes (if condition then throw failure >>= other else next)
      (if condition then throw failure >>= plainOther else plainNext) :=
  ite (of_silent fun _ _ => rfl) hNext

/-- What a fixture does itself is not recorded. -/
theorem unheard (action : Action σ α) : Accounts Prod.mk becomes action.onFirst action :=
  of_silent fun _ _ => rfl

/-- What is done on a local state alone is not recorded. -/
theorem onFirst (action : Action s α) :
    Accounts (behind (σ := σ)) becomes action.onFirst action.onFirst := of_silent fun _ _ => rfl

/-- What becomes of an escape can be said less precisely. -/
theorem mono {action : Action κ' α} {plain : Action κ α} (h : Accounts put becomes action plain)
    (hBecomes : ∀ escape ended, becomes escape ended → becomes' escape ended) :
    Accounts put becomes' action plain := by
  intro state log
  obtain ⟨told, hOutcome, hTold⟩ := h state log
  refine ⟨told, hOutcome, fun escape hEscape => ?_⟩
  obtain ⟨ended, hEnded, hBecame⟩ := hTold escape hEscape
  exact ⟨ended, hEnded, hBecomes escape ended hBecame⟩

theorem ends {action : Action κ' α} {plain : Action κ α} (h : Accounts put EndsUncompared action plain) :
    Accounts put Ends action plain := h.mono fun _ _ => And.right

/-- A first part that goes on has let nothing escape. -/
theorem bind_of_ok {first : Action κ' α} {plain : Action κ α} {next : α → Action κ' β}
    {plainNext : α → Action κ β} (hFirst : Accounts put becomes first plain)
    (hNext : ∀ a, (∃ state last, plain.outcome state = (.ok a, last)) →
      Accounts put becomes (next a) (plainNext a)) :
    Accounts put becomes (first >>= next) (plain >>= plainNext) := by
  intro state log
  obtain ⟨told, hOutcome, hTold⟩ := hFirst state log
  simp only [outcome_bind, hOutcome]
  rcases hPlain : plain.outcome state with ⟨failure | a, middle⟩ <;> rw [hPlain] at hTold
  · refine ⟨told, rfl, fun escape hEscape => ?_⟩
    obtain ⟨ended, hEnded, hBecame⟩ := hTold escape hEscape
    obtain rfl := Except.error.inj hEnded
    exact ⟨failure, rfl, hBecame⟩
  · have hNone : told = [] := by
      refine List.eq_nil_iff_forall_not_mem.mpr fun escape hEscape => ?_
      obtain ⟨_, hEnded, -⟩ := hTold escape hEscape
      exact absurd hEnded nofun
    subst hNone
    obtain ⟨more, hRest, hMore⟩ := hNext a ⟨state, middle, hPlain⟩ middle (log ++ [])
    rw [List.append_nil] at hRest
    exact ⟨more, by rw [List.append_nil]; exact hRest, hMore⟩

protected theorem bind {first : Action κ' α} {plain : Action κ α} {next : α → Action κ' β}
    {plainNext : α → Action κ β} (hFirst : Accounts put becomes first plain)
    (hNext : ∀ a, Accounts put becomes (next a) (plainNext a)) :
    Accounts put becomes (first >>= next) (plain >>= plainNext) :=
  hFirst.bind_of_ok fun a _ => hNext a

/-- A loop ends with what escapes from one of its steps. -/
theorem forM {ε : Type} {step : ε → Action κ' Unit} {plain : ε → Action κ Unit}
    (hStep : ∀ x, Accounts put becomes (step x) (plain x)) (xs : List ε) :
    Accounts put becomes (xs.forM step) (xs.forM plain) := by
  induction xs with
  | nil => exact .pure ()
  | cons x rest ih => exact (hStep x).bind fun _ => ih

/-- The log is kept when a local state is lost. -/
theorem withLocal {init : s} {action : Action (s × (σ × List Escape)) α} {plain : Action (s × σ) α}
    (h : Accounts behind becomes action plain) :
    Accounts Prod.mk becomes (action.withLocal init) (plain.withLocal init) := by
  intro state log
  obtain ⟨told, hOutcome, hTold⟩ := h (init, state) log
  refine ⟨told, ?_, fun escape hEscape => ?_⟩
  · simp only [outcome, Action.withLocal, behind] at hOutcome ⊢
    rw [hOutcome]
    rfl
  · obtain ⟨ended, hEnded, hBecame⟩ := hTold escape hEscape
    refine ⟨ended, ?_, hBecame⟩
    change ((plain.outcome (init, state)).1.map _) = _
    rw [hEnded]
    rfl

theorem onSecond {action : Action (σ × List Escape) α} {plain : Action σ α}
    (h : Accounts Prod.mk becomes action plain) :
    Accounts (behind (s := s)) becomes action.onSecond plain.onSecond := by
  intro state log
  obtain ⟨told, hOutcome, hTold⟩ := h state.2 log
  refine ⟨told, ?_, hTold⟩
  simp only [outcome, Action.onSecond, behind] at hOutcome ⊢
  rw [hOutcome]
  rfl

/-- A handler makes something of the failure that an action ends with. -/
theorem handled {handle : Failure → Failure} {handler : {κ : Type} → Action κ α → Action κ α}
    (hHandler : ∀ {κ : Type} (action : Action κ α) (state : κ), (handler action).outcome state =
      ((action.outcome state).1.mapError handle, (action.outcome state).2))
    {action : Action (σ × List Escape) α} {plain : Action σ α} (h : Accounts Prod.mk becomes action plain) :
    Accounts Prod.mk (fun escape ended => ∃ inner, becomes escape inner ∧ ended = handle inner)
      (handler action) (handler plain) := by
  intro state log
  obtain ⟨told, hOutcome, hTold⟩ := h state log
  rw [hHandler, hHandler, hOutcome]
  refine ⟨told, rfl, fun escape hEscape => ?_⟩
  obtain ⟨inner, hInner, hBecame⟩ := hTold escape hEscape
  exact ⟨handle inner, by rw [hInner]; rfl, inner, hBecame, rfl⟩

end Accounts

end Action

variable {σ A S N : Type} {t : ValueType}

/-- Operations whose failures are recorded. -/
def Operations.recorded {α : Type} (operations : Operations σ α) : Operations (σ × List Escape) α where
  create := operations.create.recorded (some .create)
  copy v := (operations.copy v).recorded (some .copy)
  copyInto v := (operations.copyInto v).recordedBeside (some .copyInto)
  rawCopy := operations.rawCopy.recordedBeside (some .rawCopy)
  length := operations.length.recorded (some .length)
  serialize v := (operations.serialize v).recordedBeside (some .serialize)
  deserialize := operations.deserialize.recordedBeside (some .deserialize)
  deserializeInto := operations.deserializeInto.recordedBeside (some .deserializeInto)

namespace Registry

def recorded (registry : Registry σ A) : Registry (σ × List Escape) A :=
  ⟨registry.factories.map fun (id, factory) => (id, factory.recorded none)⟩

def unrecorded (registry : Registry (σ × List Escape) A) : Registry σ A :=
  ⟨registry.factories.map fun (id, factory) => (id, factory.unrecorded)⟩

/-- A snapshot is given the registry that it would be given without a log. -/
theorem unrecorded_recorded (registry : Registry σ A) : registry.recorded.unrecorded = registry := by
  rw [recorded, unrecorded, List.map_map]
  exact congrArg Registry.mk (List.map_id _)

end Registry

/-- A family of serializers and snapshots whose failures are recorded. -/
def Contract.recorded (C : Contract σ A t S N) : Contract (σ × List Escape) A t S N where
  operations serializer := (C.operations serializer).recorded
  duplicate serializer := (C.duplicate serializer).recorded (some .duplicate)
  equals serializer other := (C.equals serializer other).recorded (some .equals)
  typeName := C.typeName
  snapshot serializer := (C.snapshot serializer).recorded (some .snapshot)
  ofAny := C.ofAny
  snapshotId := C.snapshotId
  snapshotVersion := C.snapshotVersion
  snapshotTypeName := C.snapshotTypeName
  writePayload snapshot := (C.writePayload snapshot).recordedBeside (some .writePayload)
  readPayload version registry := (C.readPayload version registry.unrecorded).recordedBeside (some .readPayload)
  restore snapshot := (C.restore snapshot).recorded (some .restore)
  resolve snapshot serializer := (C.resolve snapshot serializer).recorded (some .resolve)

variable {C : Contract σ A t S N}

/-- A fixture of such serializers. Its own methods are not recorded. -/
def Fixture.recorded (fixture : Fixture C) : Fixture C.recorded where
  createSerializer := fixture.createSerializer.onFirst
  length := fixture.length
  samples := fixture.samples
  acceptsInstance := fixture.acceptsInstance
  allowsNullInstances := fixture.allowsNullInstances
  registrations := fixture.registrations
  registry := fixture.registry.onFirst.bind fun registry => pure registry.recorded
  startThread := fixture.startThread.onFirst

/-- A suite whose checks tell which failures escaped from the operations under test. -/
def Suite.recorded (suite : Suite C) : Suite C.recorded where
  fixture := suite.fixture.recorded
  checker := suite.checker
  registry := suite.registry.recorded
  options := suite.options

end SerializerContract
