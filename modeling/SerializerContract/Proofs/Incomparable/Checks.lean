import SerializerContract.Proofs.Checker
import SerializerContract.Proofs.Detection.Probe
import SerializerContract.Proofs.Escapes.Checks

/-! Values that nothing compares. A check of such values is held against the check of a suite that does
compare them: both do the same up to the first comparison, so the one ends there, with the failure of the
comparison, wherever the other passes. -/
namespace SerializerContract

namespace Action

variable {σ α β : Type} {failure : Failure} {state : σ}

/-- Wherever the first action succeeds, the second ends with this failure. -/
def ThrowsInstead (failure : Failure) (passing throwing : Action σ α) : Prop :=
  ∀ state a last, passing.outcome state = (.ok a, last) → throwing.Throws state failure

namespace ThrowsInstead

variable {passing throwing : Action σ α}

theorem of_throws (h : ∀ state, throwing.Throws state failure) : ThrowsInstead failure passing throwing :=
  fun state _ _ _ => h state

theorem of_fails (h : ∀ state, passing.Fails state) : ThrowsInstead failure passing throwing :=
  fun state a last hOutcome => absurd hOutcome ((h state).not_ok a last)

/-- Where the original succeeds, the other throws the failure. -/
theorem throws (h : ThrowsInstead failure passing throwing) {post : α → σ → Prop}
    (hPasses : passing.Succeeds state post) : throwing.Throws state failure := by
  obtain ⟨a, last, hOutcome, -⟩ := hPasses
  exact h state a last hOutcome

/-- Both do the same first. -/
theorem after (first : Action σ β) {next next' : β → Action σ α}
    (h : ∀ b, ThrowsInstead failure (next b) (next' b)) :
    ThrowsInstead failure (first >>= next) (first >>= next') := by
  intro state a last hOutcome
  obtain ⟨b, middle, hFirst, hNext⟩ := bind_ok_iff.mp hOutcome
  have hFirst : first.Succeeds state fun b' middle' => b' = b ∧ middle' = middle :=
    ⟨b, middle, hFirst, rfl, rfl⟩
  apply hFirst.bind_throws
  intro _ _ hSame
  obtain ⟨rfl, rfl⟩ := hSame
  exact h _ _ a last hNext

/-- Nothing comes after the failure. -/
theorem bind (h : ThrowsInstead failure passing throwing) {next next' : α → Action σ β} :
    ThrowsInstead failure (passing >>= next) (throwing >>= next') := by
  intro state b last hOutcome
  obtain ⟨a, middle, hFirst, -⟩ := bind_ok_iff.mp hOutcome
  exact (h state a middle hFirst).bind next'

/-- Both refuse the same. -/
theorem refuse {condition : Prop} [Decidable condition] {refusal : Failure} {other other' : Unit → Action σ α}
    (h : ThrowsInstead failure passing throwing) :
    ThrowsInstead failure (if condition then throw refusal >>= other else passing)
      (if condition then throw refusal >>= other' else throwing) := by
  intro state a last hOutcome
  obtain ⟨hAllowed, hPassing⟩ := ok_of_throw_if hOutcome
  rw [if_neg hAllowed]
  exact h state a last hPassing

/-- A nonempty run of such steps throws where the run of the originals passes: the first step is enough. -/
theorem forM {ε : Type} {step step' : ε → Action σ Unit}
    (h : ∀ x, ThrowsInstead failure (step x) (step' x)) {xs : List ε} (hSome : xs ≠ []) :
    ThrowsInstead failure (xs.forM step) (xs.forM step') := by
  obtain ⟨x, rest, rfl⟩ := List.exists_cons_of_ne_nil hSome
  exact (h x).bind

end ThrowsInstead

end Action

namespace Suite

variable {σ A S N ρ : Type} {t : ValueType} {C : Contract σ A t S N}

open SerializerContract.Action

/-- A finding passes through the guard as it is. -/
theorem guarded_throws {α : Type} {failure : Failure} {property : String} {check : Action σ α} {state : σ}
    (hFinding : failure.fault.isFinding = true) (h : check.Throws state failure) :
    (guarded property check).Throws state failure := by
  obtain ⟨last, hThrown⟩ := h
  refine ⟨last, ?_⟩
  rw [guarded_outcome, hThrown]
  simp [Except.mapError, escaped, hFinding]

/-- A guard lets a finding through, so it does not hide the failure. -/
theorem guarded_throwsInstead {α : Type} {failure : Failure} {property : String} {check check' : Action σ α}
    (hFinding : failure.fault.isFinding = true) (h : ThrowsInstead failure check check') :
    ThrowsInstead failure (guarded property check) (guarded property check') :=
  fun state a last hOutcome => guarded_throws hFinding (h state a last (guarded_ok_iff.mp hOutcome))

/-- A handler of failures that describe themselves makes a finding of whatever is thrown. -/
theorem reported_throws {α : Type} {kind : FindingKind} {property message : String} {action : Action σ α}
    {state : σ} {failure : Failure} (h : action.Throws state failure) :
    (reported kind property message action).Throws state (answered kind property message failure) := by
  obtain ⟨last, hThrown⟩ := h
  exact ⟨last, by rw [reported_outcome, hThrown]; rfl⟩

/-- The suite with one more comparator. -/
def comparing (suite : Suite C) (comparator : Comparator t) : Suite C :=
  { suite with checker := suite.checker.register t comparator }

section Comparing

variable {suite : Suite C} {comparator : Comparator t} {failure : Failure}
    (hThrows : ∀ v w, suite.checker.equals t v w = .error failure)

include hThrows

/-- A comparison of the suite throws whenever the checker cannot compare the type. -/
theorem deepEquals_throws {property message : String} (v w : t.Val) (state : σ) :
    (suite.deepEquals property message v w).Throws state failure :=
  (ofExcept_throws (hThrows v w)).bind _

/-- Nothing that comes after a comparison matters. -/
theorem deepEquals_throwsInstead {α : Type} {property message : String} (v w : t.Val)
    (next next' : Unit → Action σ α) :
    ThrowsInstead failure ((suite.comparing comparator).deepEquals property message v w >>= next)
      (suite.deepEquals property message v w >>= next') :=
  .of_throws fun state => (deepEquals_throws hThrows v w state).bind next'

/-- The copy is made as before, and the comparison that follows it throws. -/
theorem compareCopy_throwsInstead {property : String} {operations : Operations σ t.Val} (target v : t.Val) :
    ThrowsInstead failure ((suite.comparing comparator).compareCopy property operations target v)
      (suite.compareCopy property operations target v) := by
  refine .after _ fun copied => ?_
  exact deepEquals_throwsInstead hThrows v _ _ _

theorem copyReusing_throwsInstead {property : String} {operations : Operations σ t.Val} (target : t.Val)
    {samples : List t.Val} (hSamples : samples ≠ []) :
    ThrowsInstead failure ((suite.comparing comparator).copyReusing property operations target samples)
      (suite.copyReusing property operations target samples) := by
  obtain ⟨v, rest, rfl⟩ := List.exists_cons_of_ne_nil hSamples
  exact (compareCopy_throwsInstead hThrows target v).bind

variable {reader : Reader σ ρ t.Val}

theorem compareOne_throwsInstead {property : String} (carried : ρ) (v : t.Val) (input : InputChannel) :
    ThrowsInstead failure ((suite.comparing comparator).compareOne property reader carried v input)
      (suite.compareOne property reader carried v input) := by
  refine .after _ fun read => ?_
  exact deepEquals_throwsInstead hThrows v _ _ _

theorem individually_throwsInstead {property : String} {operations : Operations σ t.Val} (carried : ρ)
    {samples : List t.Val} (hSamples : samples ≠ []) :
    ThrowsInstead failure ((suite.comparing comparator).individually property operations reader carried samples)
      (suite.individually property operations reader carried samples) := by
  obtain ⟨v, rest, rfl⟩ := List.exists_cons_of_ne_nil hSamples
  refine .after _ fun out => .after _ fun _ => ?_
  exact (compareOne_throwsInstead hThrows carried v _).bind

/-- A stream that holds nothing is too short, so one that is long enough holds something to compare. -/
theorem compareStream_throwsInstead {property message : String} (carried : ρ) (input : InputChannel)
    (hSamples : suite.fixture.samples ≠ []) :
    ThrowsInstead failure
      (do
        let count ← (suite.comparing comparator).compareStream property reader suite.fixture.samples carried
          input 0
        (suite.comparing comparator).checkCount property message count)
      (do
        let count ← suite.compareStream property reader suite.fixture.samples carried input 0
        suite.checkCount property message count) := by
  obtain ⟨v, rest, hSome⟩ := List.exists_cons_of_ne_nil hSamples
  rw [hSome]
  unfold compareStream
  by_cases hEmpty : input.available = 0
  -- nothing is compared here, but the number of elements is not the expected one
  · refine .of_fails fun state => ?_
    have hShort : 0 ≠ (suite.comparing comparator).fixture.samples.length :=
      Nat.ne_of_lt (List.length_pos_iff.mpr hSamples)
    simp only [hEmpty, if_true, pure_bind, checkCount, if_pos hShort]
    exact throw_fails _
  · simp only [if_neg hEmpty]
    refine (ThrowsInstead.after _ fun read => ?_).bind
    exact deepEquals_throwsInstead hThrows v _ _ _

theorem compareRawCopy_throwsInstead {property : String} {operations : Operations σ t.Val} (v : t.Val) :
    ThrowsInstead failure ((suite.comparing comparator).compareRawCopy property operations v)
      (suite.compareRawCopy property operations v) := by
  refine .after _ fun out => .after _ fun copied => .after _ fun _ => .after _ fun _ => ?_
  exact compareOne_throwsInstead hThrows () v _

variable (hFinding : failure.fault.isFinding = true) (hSamples : suite.fixture.samples ≠ [])

omit hThrows in
include hFinding in
/-- Both checks ask for a serializer, and what they do with it is guarded. -/
theorem check_throwsInstead {property : String} {check check' : S → Action σ Unit}
    (h : ∀ x, ThrowsInstead failure (check x) (check' x)) :
    ThrowsInstead failure (do guarded property (check (← (suite.comparing comparator).getSerializer property)))
      (do guarded property (check' (← suite.getSerializer property))) :=
  .after _ fun x => guarded_throwsInstead hFinding (h x)

include hFinding hSamples

theorem checkCopy_throwsInstead :
    ThrowsInstead failure (suite.comparing comparator).checkCopy suite.checkCopy := by
  refine check_throwsInstead hFinding fun x => .forM (fun v => .after _ fun copied => ?_) hSamples
  exact .of_throws (deepEquals_throws hThrows v copied)

theorem checkCopyIntoNew_throwsInstead :
    ThrowsInstead failure (suite.comparing comparator).checkCopyIntoNew suite.checkCopyIntoNew := by
  refine check_throwsInstead hFinding fun x => .forM (fun v => .after _ fun target => ?_) hSamples
  exact (compareCopy_throwsInstead hThrows target v).bind

theorem checkCopyIntoReused_throwsInstead :
    ThrowsInstead failure (suite.comparing comparator).checkCopyIntoReused suite.checkCopyIntoReused := by
  refine check_throwsInstead hFinding fun x => .after _ fun target => ?_
  exact copyReusing_throwsInstead hThrows target hSamples

theorem checkIndividually_throwsInstead :
    ThrowsInstead failure (suite.comparing comparator).checkIndividually suite.checkIndividually :=
  check_throwsInstead hFinding fun _ => individually_throwsInstead hThrows () hSamples

theorem checkIndividuallyReusing_throwsInstead :
    ThrowsInstead failure (suite.comparing comparator).checkIndividuallyReusing
      suite.checkIndividuallyReusing := by
  refine check_throwsInstead hFinding fun x => .after _ fun target => ?_
  exact individually_throwsInstead hThrows target hSamples

omit hFinding in
theorem asSequence_throwsInstead {property : String} {operations : Operations σ t.Val} {start : Action σ ρ} :
    ThrowsInstead failure ((suite.comparing comparator).asSequence property operations reader start)
      (suite.asSequence property operations reader start) := by
  refine .after _ fun written => .after _ fun carried => ?_
  exact compareStream_throwsInstead hThrows carried _ hSamples

theorem checkSequence_throwsInstead :
    ThrowsInstead failure (suite.comparing comparator).checkSequence suite.checkSequence :=
  check_throwsInstead hFinding fun _ => asSequence_throwsInstead hThrows hSamples

theorem checkSequenceReusing_throwsInstead :
    ThrowsInstead failure (suite.comparing comparator).checkSequenceReusing suite.checkSequenceReusing :=
  check_throwsInstead hFinding fun _ => asSequence_throwsInstead hThrows hSamples

theorem checkRawCopy_throwsInstead :
    ThrowsInstead failure (suite.comparing comparator).checkRawCopy suite.checkRawCopy :=
  check_throwsInstead hFinding fun _ => .forM (compareRawCopy_throwsInstead hThrows) hSamples

theorem checkRawCopySequence_throwsInstead :
    ThrowsInstead failure (suite.comparing comparator).checkRawCopySequence suite.checkRawCopySequence := by
  refine check_throwsInstead hFinding fun x => .after _ fun written => .after _ fun copied => ?_
  exact .after _ fun _ => compareStream_throwsInstead hThrows () _ hSamples

omit hThrows hFinding hSamples

/-- The checks of copies and of streams, which compare every value with its sample. -/
def valueChecks : List (Suite C → Action σ Unit) := [checkCopy, checkCopyIntoNew, checkCopyIntoReused,
  checkIndividually, checkIndividuallyReusing, checkSequence, checkSequenceReusing, checkRawCopy,
  checkRawCopySequence]

/-- All the checks that compare values of the sample type throw once there is a sample and no comparator for
it. -/
theorem valueChecks_throwInstead (hThrows : ∀ v w, suite.checker.equals t v w = .error failure)
    (hFinding : failure.fault.isFinding = true) (hSamples : suite.fixture.samples ≠ []) :
    ∀ check ∈ valueChecks, ThrowsInstead failure (check (suite.comparing comparator)) (check suite) := by
  simp only [valueChecks, List.forall_mem_cons]
  exact ⟨checkCopy_throwsInstead hThrows hFinding hSamples,
    checkCopyIntoNew_throwsInstead hThrows hFinding hSamples,
    checkCopyIntoReused_throwsInstead hThrows hFinding hSamples,
    checkIndividually_throwsInstead hThrows hFinding hSamples,
    checkIndividuallyReusing_throwsInstead hThrows hFinding hSamples,
    checkSequence_throwsInstead hThrows hFinding hSamples,
    checkSequenceReusing_throwsInstead hThrows hFinding hSamples,
    checkRawCopy_throwsInstead hThrows hFinding hSamples,
    checkRawCopySequence_throwsInstead hThrows hFinding hSamples, List.forall_mem_nil _⟩

/-- These checks stand one after the other among all checks. -/
theorem map_valueChecks (suite : Suite C) : (valueChecks.map fun check => check suite) =
    ((suite.properties.map Property.check).drop 4).take 9 := rfl

/-- The checks that compare values are among the properties of every suite. -/
theorem property_of_valueChecks (suite : Suite C) {check : Suite C → Action σ Unit} (hCheck : check ∈ valueChecks) :
    ∃ property ∈ suite.properties, property.check = check suite := by
  have hMapped : check suite ∈ valueChecks.map fun check => check suite := List.mem_map_of_mem hCheck
  rw [map_valueChecks] at hMapped
  exact List.mem_map.mp (List.mem_of_mem_drop (List.mem_of_mem_take hMapped))

end Comparing

end Suite

/-! ## Optional values -/

namespace Nullable

variable {σ A S N : Type} {t : ValueType} {checker other : Checker} {failure : Failure}
    (hThrows : ∀ v w, checker.equals t v w = .error failure)

open SerializerContract.Action

include hThrows

theorem probeSample_throwsInstead {wrapped : Operations σ (Option t.Val)} {length : Int}
    (reuse : Option t.Val) (v : t.Val) :
    ThrowsInstead failure (probeSample other wrapped length reuse v)
      (probeSample checker wrapped length reuse v) := by
  refine .after _ fun written => .refuse (.after _ fun read => ?_)
  obtain ⟨restored, input⟩ := read
  cases restored with
  -- null is unequal to a sample before any comparator is asked, so the probe does not pass either
  | none =>
      have hNull (state : σ) : (ofExcept (holds other v none)).Succeeds state fun equal _ => equal = false :=
        (ofExcept_succeeds rfl).mono fun _ _ => And.left
      refine .of_fails fun state => (hNull state).bind_fails fun equal middle hEqual => ?_
      subst hEqual
      exact (throw_fails _).bind _
  | some w => exact .of_throws fun state => (ofExcept_throws (hThrows v w)).bind _

/-- The probe of the null value handling compares too, so it throws on the first sample. -/
theorem probe_throwsInstead {C : Contract σ A t S N} {x : S} {samples : List t.Val} (hSamples : samples ≠ []) :
    ThrowsInstead failure (probe C other x samples) (probe C checker x samples) := by
  refine .after _ fun duplicate => ?_
  cases duplicate with
  | none => exact .of_fails fun _ => throw_fails _
  | some inner =>
      refine .after _ fun wanted => .after _ fun padding => .after _ fun expected => .after _ fun reported => ?_
      refine .refuse (.after _ fun _ => ?_)
      obtain ⟨v, rest, rfl⟩ := List.exists_cons_of_ne_nil hSamples
      exact (probeSample_throwsInstead hThrows none v).bind

end Nullable

/-- The nullability check wraps the failure as a contract failure, where the others hand it on. -/
theorem Suite.checkNullability_throwsInstead {σ A S N : Type} {t : ValueType} {C : Contract σ A t S N}
    {suite : Suite C} {comparator : Comparator t} {failure : Failure}
    (hThrows : ∀ v w, suite.checker.equals t v w = .error failure) (hSamples : suite.fixture.samples ≠ []) :
    Action.ThrowsInstead
      (answered .contract "nullability" "Unexpected failure of null value handling: " failure)
      (suite.comparing comparator).checkNullability suite.checkNullability := by
  refine .after _ fun x state _ last hOutcome => reported_throws ?_
  exact Nullable.probe_throwsInstead hThrows hSamples state _ last (reported_ok_iff.mp hOutcome)

end SerializerContract
