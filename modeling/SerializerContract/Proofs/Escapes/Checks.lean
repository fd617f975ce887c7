import SerializerContract.Proofs.Escapes.Probe
import SerializerContract.Proofs.Escapes.Workers
import SerializerContract.Suite.Bench
import Mathlib.Data.List.Forall2

/-! What becomes of failures that escape from operations under test. The guard makes a finding of whatever is
not one yet. Cloning and the nullability probe have handlers of their own, which know only failures that
describe themselves; anything else leaves these two checks as it is. -/
namespace SerializerContract

namespace Suite

variable {σ A S N : Type} {t : ValueType} {C : Contract σ A t S N}

open SerializerContract.Action

/-! ## Handlers -/

theorem guarded_outcome {α : Type} (property : String) (check : Action σ α) (state : σ) :
    (guarded property check).outcome state =
      ((check.outcome state).1.mapError (escaped property), (check.outcome state).2) := by
  simp only [outcome, guarded]
  rcases check state with ⟨_ | _, last⟩ <;> rfl

/-- What a handler of failures that describe themselves makes of a failure. -/
def answered (kind : FindingKind) (property message : String) (failure : Failure) : Failure :=
  if failure.fault.isStandard then failure.wrap (.finding kind property (message ++ failure.message))
  else failure

theorem reported_outcome {α : Type} (kind : FindingKind) (property message : String) (action : Action σ α)
    (state : σ) : (reported kind property message action).outcome state =
      ((action.outcome state).1.mapError (answered kind property message), (action.outcome state).2) := by
  simp only [outcome, reported]
  rcases action state with ⟨failure | _, last⟩
  · simp only [Except.mapError, answered]
    split <;> rfl
  · rfl

/-- What escapes inside a guard is wrapped by it. -/
theorem guarded_accounts {α : Type} {becomes : Escape → Failure → Prop} (property : String)
    {check : Action (σ × List Escape) α} {plain : Action σ α} (h : Accounts Prod.mk becomes check plain) :
    Accounts Prod.mk (fun escape ended => ∃ inner, becomes escape inner ∧ ended = escaped property inner)
      (guarded property check) (guarded property plain) :=
  h.handled fun {κ} => guarded_outcome (σ := κ) property

/-- What escapes inside a handler is answered by it. -/
theorem reported_accounts {α : Type} {becomes : Escape → Failure → Prop} (kind : FindingKind)
    (property message : String) {action : Action (σ × List Escape) α} {plain : Action σ α}
    (h : Accounts Prod.mk becomes action plain) :
    Accounts Prod.mk
      (fun escape ended => ∃ inner, becomes escape inner ∧ ended = answered kind property message inner)
      (reported kind property message action) (reported kind property message plain) :=
  h.handled fun {κ} => reported_outcome (σ := κ) kind property message

/-- The check ends with a finding over what escaped, or with what escaped if that is a finding. -/
def Guards (property : String) (escape : Escape) (ended : Failure) : Prop :=
  ended = escaped property escape.failure

/-! ## Checks -/

variable (suite : Suite C)

/-- A check whose part about a serializer is guarded. -/
theorem check_accounts (property : String) {check : S → Action (σ × List Escape) Unit}
    {plain : S → Action σ Unit}
    (h : ∀ serializer, Accounts Prod.mk Ends (check serializer) (plain serializer)) :
    Accounts Prod.mk (Guards property)
      (do guarded property (check (← suite.recorded.getSerializer property)))
      (do guarded property (plain (← suite.getSerializer property))) := by
  refine (suite.getSerializer_accounts property).bind fun serializer => ?_
  refine (guarded_accounts property (h serializer)).mono fun escape ended hEnded => ?_
  obtain ⟨inner, rfl, hEscaped⟩ := hEnded
  exact hEscaped

theorem checkInstantiate_accounts :
    Accounts Prod.mk (Guards "instantiate") suite.recorded.checkInstantiate suite.checkInstantiate := by
  refine suite.check_accounts _ fun serializer => ?_
  refine (recorded_ends (C.operations serializer).create).bind fun created => ?_
  refine .ite (.ite (.pure ()) (.throw _)) ?_
  exact .ite (.throw _) (.pure ())

theorem checkSnapshotInstantiation_accounts :
    Accounts Prod.mk (Guards "config snapshot instantiation") suite.recorded.checkSnapshotInstantiation
      suite.checkSnapshotInstantiation := by
  refine suite.check_accounts _ fun serializer => ?_
  refine (getSnapshot_accounts C _ serializer).bind fun snapshot => ?_
  refine (C.instantiate_accounts suite.registry (C.snapshotId snapshot)).ends.bind fun made => ?_
  exact .ite (.throw _) (.pure ())

theorem checkReconfigure_accounts :
    Accounts Prod.mk (Guards "snapshot configuration and reconfigure") suite.recorded.checkReconfigure
      suite.checkReconfigure := by
  refine suite.check_accounts _ fun serializer => ?_
  refine (getSnapshot_accounts C _ serializer).bind fun snapshot => ?_
  refine (C.writeSnapshot_accounts snapshot).ends.withLocal.bind fun written => ?_
  refine (C.readSnapshot_accounts suite.registry).ends.withLocal.bind fun read => ?_
  refine (checkConsumed_accounts _ _ read.2).bind fun _ => ?_
  refine (suite.getSerializer_accounts _).bind fun other => ?_
  refine (recorded_ends (C.resolve read.1 other)).bind fun verdict => ?_
  refine (chosen_accounts C _ read.1 verdict).bind fun restored => ?_
  cases restored with
  | none => exact .throw _
  | some restored =>
      refine .refuse ((recorded_ends (C.equals restored serializer)).bind fun equal => ?_)
      exact .ite (.throw _) (.pure ())

theorem checkLength_accounts :
    Accounts Prod.mk (Guards "get length") suite.recorded.checkLength suite.checkLength := by
  refine .refuse (suite.check_accounts _ fun serializer => ?_)
  refine (recorded_ends (C.operations serializer).length).bind fun reported => ?_
  refine .ite ((recorded_ends (C.operations serializer).length).bind fun again => ?_) (.pure ())
  exact .throw _

theorem checkCopy_accounts : Accounts Prod.mk (Guards "copy") suite.recorded.checkCopy suite.checkCopy := by
  refine suite.check_accounts _ fun serializer => .forM (fun v => ?_) suite.fixture.samples
  refine (recorded_ends ((C.operations serializer).copy v)).bind fun copied => ?_
  exact suite.deepEquals_accounts _ copiedWrongly v copied

theorem checkCopyIntoNew_accounts :
    Accounts Prod.mk (Guards "copy into new elements") suite.recorded.checkCopyIntoNew
      suite.checkCopyIntoNew := by
  refine suite.check_accounts _ fun serializer => .forM (fun v => ?_) suite.fixture.samples
  refine (recorded_ends (C.operations serializer).create).bind fun target => ?_
  exact (suite.compareCopy_accounts _ (C.operations serializer) target v).bind fun _ => .pure ()

theorem checkCopyIntoReused_accounts :
    Accounts Prod.mk (Guards "copy into reused elements") suite.recorded.checkCopyIntoReused
      suite.checkCopyIntoReused := by
  refine suite.check_accounts _ fun serializer => ?_
  refine (recorded_ends (C.operations serializer).create).bind fun target => ?_
  exact suite.copyReusing_accounts _ (C.operations serializer) target suite.fixture.samples

theorem checkIndividually_accounts :
    Accounts Prod.mk (Guards "serialize individually") suite.recorded.checkIndividually
      suite.checkIndividually :=
  suite.check_accounts _ fun serializer => suite.individually_accounts _
    (readFresh_accounts (C.operations serializer)) (C.operations serializer) () suite.fixture.samples

theorem checkIndividuallyReusing_accounts :
    Accounts Prod.mk (Guards "serialize individually reusing values") suite.recorded.checkIndividuallyReusing
      suite.checkIndividuallyReusing := by
  refine suite.check_accounts _ fun serializer => ?_
  refine (recorded_ends (C.operations serializer).create).bind fun target => ?_
  exact suite.individually_accounts _ (readReusing_accounts (C.operations serializer))
    (C.operations serializer) target suite.fixture.samples

theorem checkSequence_accounts :
    Accounts Prod.mk (Guards "serialize as sequence no reuse") suite.recorded.checkSequence
      suite.checkSequence :=
  suite.check_accounts _ fun serializer => suite.asSequence_accounts _
    (readNew_accounts (C.operations serializer)) (C.operations serializer) (.pure ())

theorem checkSequenceReusing_accounts :
    Accounts Prod.mk (Guards "serialize as sequence reusing values") suite.recorded.checkSequenceReusing
      suite.checkSequenceReusing :=
  suite.check_accounts _ fun serializer => suite.asSequence_accounts _
    (readReusing_accounts (C.operations serializer)) (C.operations serializer)
    (recorded_ends (C.operations serializer).create)

theorem checkRawCopy_accounts :
    Accounts Prod.mk (Guards "serialized copy individually") suite.recorded.checkRawCopy suite.checkRawCopy :=
  suite.check_accounts _ fun serializer =>
    .forM (suite.compareRawCopy_accounts _ (C.operations serializer)) suite.fixture.samples

theorem checkRawCopySequence_accounts :
    Accounts Prod.mk (Guards "serialized copy as sequence") suite.recorded.checkRawCopySequence
      suite.checkRawCopySequence := by
  refine suite.check_accounts _ fun serializer => ?_
  refine (serializeAll_accounts (C.operations serializer) suite.fixture.samples).withLocal.bind
    fun written => ?_
  refine (copyAll_accounts (C.operations serializer) suite.fixture.samples.length).withLocal.bind
    fun copied => ?_
  refine (checkConsumed_accounts _ sourceLeft copied.2.1).bind fun _ => ?_
  refine (suite.compareStream_accounts _ (readFresh_accounts (C.operations serializer)) suite.fixture.samples ()
    copied.2.2.inputView 0).bind fun count => ?_
  exact suite.checkCount_accounts _ _ count

/-- Cloning has a handler of its own; the comparison with the clone is guarded. -/
theorem checkClone_accounts :
    Accounts Prod.mk
      (fun escape ended =>
        (escape.occasion ≠ some .equals ∧ ended = answered .clone "serializability and equals"
          "The serializer is not serializable: " escape.failure) ∨
        (escape.occasion = some .equals ∧ Guards "serializability and equals" escape ended))
      suite.recorded.checkClone suite.checkClone := by
  refine (suite.getSerializer_accounts _).bind fun serializer => ?_
  have hClone := reported_accounts .clone "serializability and equals" "The serializer is not serializable: "
    (C.clone_accounts suite.registry serializer)
  refine (hClone.mono fun escape ended hEnded => ?cloned).bind fun clone => ?_
  case cloned =>
    obtain ⟨inner, ⟨hOccasion, rfl⟩, hAnswered⟩ := hEnded
    exact .inl ⟨hOccasion, hAnswered⟩
  have hCompare : Accounts Prod.mk EndsComparing (C.recorded.equals serializer clone)
      (C.equals serializer clone) :=
    recorded_accounts (C.equals serializer clone) fun _ => ⟨rfl, rfl⟩
  refine (guarded_accounts "serializability and equals" (?compare : Accounts Prod.mk EndsComparing _ _)).mono
    fun escape ended hEnded => ?_
  case compare => exact .refuse (hCompare.bind fun equal => .ite (.throw _) (.pure ()))
  obtain ⟨inner, ⟨hOccasion, rfl⟩, hGuarded⟩ := hEnded
  exact .inr ⟨hOccasion, hGuarded⟩

/-- The probe of null has a handler of its own around everything. -/
theorem checkNullability_accounts :
    Accounts Prod.mk
      (fun escape ended => ended =
        answered .contract "nullability" "Unexpected failure of null value handling: " escape.failure)
      suite.recorded.checkNullability suite.checkNullability := by
  refine (suite.getSerializer_accounts _).bind fun serializer => ?_
  refine (reported_accounts .contract _ _ (Nullable.probe_accounts suite.checker C serializer
    suite.fixture.samples)).mono fun escape ended hEnded => ?_
  obtain ⟨inner, rfl, hAnswered⟩ := hEnded
  exact hAnswered

/-- What escapes from duplicating or comparing is wrapped as it is; what escapes from the run, as what the run
made of it. -/
theorem checkDuplicate_accounts :
    Accounts Prod.mk
      (fun escape ended => ∃ inner, Duplication.Becomes suite.options.workers
        (Duplication.Finishes C suite.checker suite.options suite.fixture.samples) escape inner ∧
          ended = escaped Duplication.property inner)
      suite.recorded.checkDuplicate suite.checkDuplicate := by
  refine (suite.getSerializer_accounts _).bind fun serializer => guarded_accounts Duplication.property ?_
  refine (Duplication.accounts_of_ends (recorded_ends (C.duplicate serializer))).bind fun duplicate => ?_
  cases duplicate with
  | none => exact .throw _
  | some duplicate =>
      refine (Duplication.accounts_of_ends (recorded_ends (C.equals duplicate serializer))).bind fun equal => ?_
      refine .refuse ((Accounts.ofExcept _).bind fun serializer => ?_)
      exact Duplication.run_accounts C suite.checker suite.options suite.fixture.startThread
        suite.fixture.samples serializer

/-! ## All checks -/

/-- A failure that carries no description gets past the handlers of the nullability probe and of cloning. -/
def LetsOut (property : String) (escape : Escape) : Prop :=
  escape.failure.fault.isStandard = false ∧
    (property = "nullability" ∨ (property = "serializability and equals" ∧ escape.occasion ≠ some .equals))

/-- How a check ends when a failure escapes from an operation under test. -/
inductive Answers (suite : Suite C) (property : String) (escape : Escape) : Failure → Prop where
  /-- With a finding of its own over the failure. -/
  | reported (kind : FindingKind) (message : String) (caught : ¬ LetsOut property escape) :
    Answers suite property escape (escape.failure.wrap (.finding kind property message))
  | letOut (passed : LetsOut property escape) : Answers suite property escape escape.failure
  /-- With a finding over what the first worker failed with, if that one comes before the worker it escaped in. -/
  | later {finished : List (Worker S t.Val)} {i : Nat} {first : Failure} (message : String)
      (duplicates : property = Duplication.property)
      (ran : Duplication.Finishes C suite.checker suite.options suite.fixture.samples finished)
      (precedes : Duplication.Precedes finished escape i first) :
    Answers suite property escape (first.wrap (.finding (.concurrent i) property message))

/-- What is asked of a check: it accounts for every failure that escapes and is not a finding. -/
def Answering (suite : Suite C) (told : Property (σ × List Escape)) (plain : Property σ) : Prop :=
  told.name = plain.name ∧
    Accounts Prod.mk (fun escape ended => escape.failure.fault.isFinding = false →
      Answers suite plain.name escape ended) told.check plain.check

variable {suite} {property : String} {escape : Escape}

/-- A guard answers whatever is not let out. -/
theorem Guards.answers {ended : Failure} (h : Guards property escape ended)
    (hCaught : ¬ LetsOut property escape)
    (hFailure : escape.failure.fault.isFinding = false) : Answers suite property escape ended := by
  rw [h, escaped, hFailure]
  exact .reported .contract _ hCaught

/-- The handlers that know only failures that describe themselves let out the others. -/
theorem answered_answers {kind : FindingKind} {message : String} (hHandler : property = "nullability" ∨
      (property = "serializability and equals" ∧ escape.occasion ≠ some .equals)) :
    Answers suite property escape (answered kind property message escape.failure) := by
  rw [answered]
  cases hStandard : escape.failure.fault.isStandard with
  | true => exact .reported kind _ fun hOut => absurd (hStandard.symm.trans hOut.1) (by decide)
  | false => exact .letOut ⟨hStandard, hHandler⟩

/-- Whatever a run makes of what escapes, the guard around it answers. -/
theorem becomes_answers {count : Nat} {inner : Failure} (h : Duplication.Becomes count
      (Duplication.Finishes C suite.checker suite.options suite.fixture.samples) escape inner)
    (hFailure : escape.failure.fault.isFinding = false) :
    Answers suite Duplication.property escape (escaped Duplication.property inner) := by
  have hCaught : ¬ LetsOut Duplication.property escape := by simp [LetsOut, Duplication.property]
  cases h with
  | ends => exact Guards.answers rfl hCaught hFailure
  | reported i => exact .reported (.concurrent i) _ hCaught
  | later hRan hPrecedes => exact .later _ rfl hRan hPrecedes

/-- Whatever fails among the operations under test, every check does what it does without a log, and ends
with a finding of its own name over the failure that escaped, if that was not a finding already. There
are two exceptions. Cloning and the nullability probe let out what carries no description. And where several
workers fail, the finding is over the failure of the first. -/
theorem escapes_are_answered (suite : Suite C) :
    List.Forall₂ (Answering suite) suite.recorded.properties suite.properties := by
  have hGuards {name : String} {told : Action (σ × List Escape) Unit} {plain : Action σ Unit}
      (hName : name ≠ "nullability" ∧ name ≠ "serializability and equals")
      (h : Accounts Prod.mk (Guards name) told plain) :
      Answering suite ⟨name, told⟩ ⟨name, plain⟩ := by
    refine ⟨rfl, h.mono fun escape ended hEnded => hEnded.answers ?_⟩
    rintro ⟨-, rfl | ⟨rfl, -⟩⟩
    · exact hName.1 rfl
    · exact hName.2 rfl
  refine .cons (hGuards (by simp) suite.checkInstantiate_accounts) <|
    .cons (hGuards (by simp) suite.checkSnapshotInstantiation_accounts) <|
    .cons (hGuards (by simp) suite.checkReconfigure_accounts) <|
    .cons (hGuards (by simp) suite.checkLength_accounts) <|
    .cons (hGuards (by simp) suite.checkCopy_accounts) <|
    .cons (hGuards (by simp) suite.checkCopyIntoNew_accounts) <|
    .cons (hGuards (by simp) suite.checkCopyIntoReused_accounts) <|
    .cons (hGuards (by simp) suite.checkIndividually_accounts) <|
    .cons (hGuards (by simp) suite.checkIndividuallyReusing_accounts) <|
    .cons (hGuards (by simp) suite.checkSequence_accounts) <|
    .cons (hGuards (by simp) suite.checkSequenceReusing_accounts) <|
    .cons (hGuards (by simp) suite.checkRawCopy_accounts) <|
    .cons (hGuards (by simp) suite.checkRawCopySequence_accounts) <|
    .cons ?clone <| .cons ?nullability <| .cons ?duplicate .nil
  case clone =>
    refine ⟨rfl, suite.checkClone_accounts.mono fun escape ended hEnded hFailure => ?_⟩
    rcases hEnded with ⟨hOccasion, rfl⟩ | ⟨hOccasion, hGuarded⟩
    · exact answered_answers (.inr ⟨rfl, hOccasion⟩)
    · exact hGuarded.answers (by simp [LetsOut, hOccasion]) hFailure
  case nullability =>
    refine ⟨rfl, suite.checkNullability_accounts.mono fun escape ended hEnded _ => ?_⟩
    rw [hEnded]
    exact answered_answers (.inl rfl)
  case duplicate =>
    refine ⟨rfl, suite.checkDuplicate_accounts.mono fun escape ended hEnded hFailure => ?_⟩
    obtain ⟨inner, hBecomes, rfl⟩ := hEnded
    exact becomes_answers hBecomes hFailure

end Suite

namespace NumberSerializer

/-- A serializer without a snapshot or a duplicate, which says nothing about it. -/
def wordlessScript : Script where
  outbursts := [⟨.snapshot, ⟨.foreign, []⟩, none⟩, ⟨.duplicate, ⟨.foreign, []⟩, none⟩]

def wordless : Bench .number where
  blueprints := [.number (.scripted wordlessScript 0)]
  length := 4
  samples := [(1 : BitVec 32)]

def wordlessSuite : Suite (Family.contract .number) := ⟨wordless.fixture, {}, {}, {}⟩

/-- What carries no description is told of, and leaves two of the checks without a finding over it. -/
theorem wordless_let_out :
    (wordlessSuite.recorded.checkClone.outcome ({}, [])).2.2 = [⟨some .snapshot, ⟨.foreign, []⟩⟩] ∧
    (wordlessSuite.checkClone.outcome {}).1 = .error ⟨.foreign, []⟩ ∧
    (wordlessSuite.recorded.checkNullability.outcome ({}, [])).2.2 = [⟨some .duplicate, ⟨.foreign, []⟩⟩] ∧
    (wordlessSuite.checkNullability.outcome {}).1 = .error ⟨.foreign, []⟩ :=
  ⟨rfl, rfl, rfl, rfl⟩

end NumberSerializer

end SerializerContract
