import SerializerContract.Proofs.Conformance.World
import SerializerContract.Proofs.Suite.StreamChecks

/-! The checks of single operations. Each of them needs one or two parts of the contract, and keeps what
is known of every serializer. -/
namespace SerializerContract

namespace Suite

variable {σ A S N : Type} {t : ValueType} {C : Contract σ A t S N} {suite : Suite C} {state : σ}

/-- A guard leaves a success alone. -/
theorem guarded_succeeds {α : Type} {property : String} {check : Action σ α} {post : α → σ → Prop}
    (h : check.Succeeds state post) : (guarded property check).Succeeds state post := by
  obtain ⟨a, last, hOutcome, hPost⟩ := h
  exact ⟨a, last, guarded_ok_iff.mpr hOutcome, hPost⟩

/-- Nothing is found where two values are deeply equal. -/
theorem deepEquals_succeeds {property message : String} {v w : t.Val} {post : Unit → σ → Prop}
    (hEqual : suite.checker.equals t v w = .ok true) (h : post () state) :
    (suite.deepEquals property message v w).Succeeds state post :=
  ⟨(), state, deepEquals_ok_iff.mpr ⟨hEqual, rfl⟩, h⟩

/-- A suite is prepared from some samples and usable options. -/
theorem prepare_succeeds {fixture : Fixture C} {checker : Checker} {options : RunOptions}
    {post : Registry σ A → σ → Prop} (hSamples : fixture.samples ≠ []) (hUsable : options.isUsable = true)
    (hRegistry : fixture.registry.Succeeds state post) :
    (prepare fixture checker options).Succeeds state fun suite last => ∃ registry,
      suite = ⟨fixture, checker.registerAll fixture.registrations, registry, options⟩ ∧ post registry last := by
  have hSome : ¬ fixture.samples.isEmpty = true := fun hEmpty => hSamples (List.isEmpty_iff.mp hEmpty)
  rw [prepare, if_neg hSome, hUsable]
  apply hRegistry.bind
  intro registry last hPost
  exact Action.pure_succeeds ⟨registry, rfl, hPost⟩

end Suite

namespace World

variable {σ A S N : Type} {t : ValueType} {C : Contract σ A t S N} {W : World σ S N t.Val}
    {suite : Suite C} {state : σ}

namespace Supplies

/-- The fixture hands out a live serializer. -/
theorem getSerializer_succeeds (h : W.Supplies suite) (property : String) (hValid : W.valid state) :
    (suite.getSerializer property).Succeeds state fun x last => W.live x last ∧ W.Keeps state last := by
  obtain ⟨_, last, hOutcome, x, rfl, hLive, hKeeps⟩ := h.creates state hValid
  exact ⟨x, last, Suite.getSerializer_ok_iff.mpr hOutcome, hLive, hKeeps⟩

/-- A check passes if its guarded part does for every serializer that the fixture may hand out. -/
theorem check_passes (h : W.Supplies suite) {property : String} {check : S → Action σ Unit}
    (hCheck : ∀ x served, W.valid served → W.live x served →
      (check x).Succeeds served fun _ last => W.Keeps served last)
    (hValid : W.valid state) :
    (do
      let serializer ← suite.getSerializer property
      Suite.guarded property (check serializer) : Action σ Unit).Succeeds state fun _ last =>
        W.Keeps state last := by
  apply (h.getSerializer_succeeds property hValid).bind
  intro x served hServed
  obtain ⟨hLive, hKeeps⟩ := hServed
  exact (Suite.guarded_succeeds (hCheck x served (hKeeps.valid hValid) hLive)).mono fun _ _ => hKeeps.trans

end Supplies

variable (hSupplies : W.Supplies suite) (hValid : W.valid state)

include hSupplies hValid

/-- A serializer that makes acceptable instances passes the check of instances. -/
theorem checkInstantiate_passes (hCreates : W.Creates C suite.fixture.acceptsInstance) :
    suite.checkInstantiate.Succeeds state fun _ last => W.Keeps state last := by
  refine hSupplies.check_passes (fun x served _ hLive => ?_) hValid
  apply (hCreates x served hLive).bind
  intro v last hCreated
  obtain ⟨hNull, hAccepts, hKeeps⟩ := hCreated
  simp only [hNull, hAccepts]
  exact Action.pure_succeeds hKeeps

/-- A serializer that reports one length, and not zero, passes the check of lengths. -/
theorem checkLength_passes (hMeasures : W.Measures C) (hLength : W.length ≠ 0) :
    suite.checkLength.Succeeds state fun _ last => W.Keeps state last := by
  have hDeclared : ¬ suite.fixture.length = 0 := by rwa [hSupplies.length]
  simp only [Suite.checkLength, hDeclared, if_false]
  refine hSupplies.check_passes (fun x served _ hLive => ?_) hValid
  apply (hMeasures x served hLive).bind
  intro length last hMeasured
  obtain ⟨hReported, hKeeps⟩ := hMeasured
  simp only [hReported, hSupplies.length, ne_eq, not_true_eq_false, if_false]
  exact Action.pure_succeeds hKeeps

/-- Copies of samples are deeply equal to them. -/
theorem checkCopy_passes (hCopies : W.Copies C) :
    suite.checkCopy.Succeeds state fun _ last => W.Keeps state last := by
  refine hSupplies.check_passes (fun x served _ hLive => ?_) hValid
  refine Action.forM_succeeds (fun v hSample before hBefore => ?_) (Keeps.refl W served)
  have hDomain := hSupplies.samples v hSample
  apply (hCopies x before v (hBefore.live x hLive) hDomain).bind
  intro w last hCopied
  obtain ⟨hLike, hKeeps⟩ := hCopied
  exact Suite.deepEquals_succeeds (hSupplies.compares v w hDomain hLike) (hBefore.trans hKeeps)

omit hSupplies hValid

/-- A sample is copied into any reuse target, which is then compared. -/
theorem compareCopy_succeeds (hSupplies : W.Supplies suite) (hCopies : W.CopiesInto C) {x : S}
    (hLive : W.live x state) {property : String} {v : t.Val} (target : t.Val) (hDomain : W.domain v) :
    (suite.compareCopy property (C.operations x) target v).Succeeds state fun _ last =>
      W.Keeps state last := by
  apply (hCopies x state v target hLive hDomain).withLocal.bind
  intro copied last hCopied
  obtain ⟨hTarget, hLike, hKeeps⟩ := hCopied
  refine (Suite.deepEquals_succeeds ?_ hKeeps).bind fun _ _ => Action.pure_succeeds
  rw [hTarget]
  exact hSupplies.compares v _ hDomain hLike

/-- Samples are copied into one value, one after the other. -/
theorem copyReusing_succeeds (hSupplies : W.Supplies suite) (hCopies : W.CopiesInto C) {x : S}
    {property : String} (samples : List t.Val) (hDomain : ∀ v ∈ samples, W.domain v)
    (hLive : W.live x state) (target : t.Val) :
    (suite.copyReusing property (C.operations x) target samples).Succeeds state fun _ last =>
      W.Keeps state last := by
  induction samples generalizing state target with
  | nil => exact Action.pure_succeeds (Keeps.refl W state)
  | cons v rest ih =>
      apply (compareCopy_succeeds hSupplies hCopies hLive target
        (hDomain v List.mem_cons_self)).bind
      intro held last hKeeps
      exact (ih (fun w hw => hDomain w (List.mem_cons_of_mem v hw)) (hKeeps.live x hLive) held).mono
        fun _ _ => hKeeps.trans

include hSupplies hValid

/-- Copies into new instances are deeply equal to the samples. -/
theorem checkCopyIntoNew_passes {accepts : t.Val → Bool} (hCreates : W.Creates C accepts)
    (hCopies : W.CopiesInto C) :
    suite.checkCopyIntoNew.Succeeds state fun _ last => W.Keeps state last := by
  refine hSupplies.check_passes (fun x served _ hLive => ?_) hValid
  refine Action.forM_succeeds (fun v hSample before hBefore => ?_) (Keeps.refl W served)
  apply (hCreates x before (hBefore.live x hLive)).bind
  intro target middle hCreated
  have hMiddle := hBefore.trans hCreated.2.2
  apply (compareCopy_succeeds hSupplies hCopies (hMiddle.live x hLive) target
    (hSupplies.samples v hSample)).bind
  intro _ last hKeeps
  exact Action.pure_succeeds (hMiddle.trans hKeeps)

/-- Copies into one reused value are deeply equal to the samples. -/
theorem checkCopyIntoReused_passes {accepts : t.Val → Bool} (hCreates : W.Creates C accepts)
    (hCopies : W.CopiesInto C) :
    suite.checkCopyIntoReused.Succeeds state fun _ last => W.Keeps state last := by
  refine hSupplies.check_passes (fun x served _ hLive => ?_) hValid
  apply (hCreates x served hLive).bind
  intro target middle hCreated
  have hMiddle := hCreated.2.2
  exact (copyReusing_succeeds hSupplies hCopies _ hSupplies.samples (hMiddle.live x hLive) target).mono
    fun _ _ => hMiddle.trans

end World

end SerializerContract
