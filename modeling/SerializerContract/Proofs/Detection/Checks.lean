import SerializerContract.Proofs.Conformance.Nullability
import SerializerContract.Proofs.Conformance.Suite

/-! Checks that fail. What comes before a broken expectation goes the same way as in a check that passes; and
a report says of each check whether it passes, whatever the checks before it left behind. -/
namespace SerializerContract

/-! ## Verdicts -/

/-- The check passes in a state. -/
def Action.Passes {σ : Type} (check : Action σ Unit) (state : σ) : Prop :=
  ∃ last, check.outcome state = (.ok (), last)

/-- A check that succeeds passes. -/
theorem Action.Succeeds.passes {σ : Type} {check : Action σ Unit} {state : σ} {post : Unit → σ → Prop}
    (h : check.Succeeds state post) : check.Passes state := by
  obtain ⟨_, last, hOutcome, -⟩ := h
  exact ⟨last, hOutcome⟩

theorem Action.Fails.not_passes {σ : Type} {check : Action σ Unit} {state : σ} (h : check.Fails state) :
    ¬ check.Passes state := fun ⟨last, hOutcome⟩ => h.not_ok () last hOutcome

namespace Property

variable {σ : Type}

/-- A property is reported under its name, and as passed exactly if its check passes. -/
theorem run_passed (property : Property σ) (state : σ) :
    (property.run.run state).1.name = property.name ∧
      ((property.run.run state).1.passed = true ↔ property.check.Passes state) := by
  change (property.run state).1.name = property.name ∧ _
  rw [Action.Passes]
  change _ ∧ ((property.run state).1.passed = true ↔ _)
  rw [Property.run]
  rcases property.check.outcome state with ⟨failure | done, last⟩
  · refine ⟨rfl, fun hPassed => absurd hPassed Bool.false_ne_true, fun hPasses => ?_⟩
    obtain ⟨_, hOutcome⟩ := hPasses
    cases hOutcome
  · exact ⟨rfl, fun _ => ⟨last, rfl⟩, fun _ => rfl⟩

/-- Where it is known which checks fail, whenever they are run, it is known what is reported. -/
theorem runAll_passed {properties : List (Property σ)} {failing : List String}
    (h : ∀ property ∈ properties, ∀ state, property.check.Passes state ↔ property.name ∉ failing) (state : σ) :
    ((Property.runAll properties).run state).1.map (fun result => (result.name, result.passed)) =
      properties.map fun property => (property.name, decide (property.name ∉ failing)) := by
  induction properties generalizing state with
  | nil => rfl
  | cons property rest ih =>
      obtain ⟨hName, hPassed⟩ := property.run_passed state
      have hVerdict : (property.run.run state).1.passed = decide (property.name ∉ failing) :=
        Bool.eq_iff_iff.mpr ((hPassed.trans (h property List.mem_cons_self state)).trans
          decide_eq_true_iff.symm)
      have hRest := ih (fun other hOther => h other (List.mem_cons_of_mem property hOther))
        (property.run.run state).2
      rw [List.map_cons, ← hVerdict, ← hName, ← hRest]
      rfl

end Property

/-! ## Checks that fail -/

namespace Suite

variable {σ A S N : Type} {t : ValueType} {state : σ}

/-- A guard lets no failure pass. -/
theorem guarded_fails {α : Type} {property : String} {check : Action σ α} (h : check.Fails state) :
    (guarded property check).Fails state := by
  obtain ⟨failure, last, hOutcome⟩ := h
  refine ⟨escaped property failure, last, ?_⟩
  simp only [guarded, Action.outcome] at hOutcome ⊢
  rw [hOutcome]

/-- What is done with a snapshot that was read back, and another serializer. -/
def judgeSnapshot (C : Contract σ A t S N) (property : String) (serializer : S) (read : N) (other : S) :
    Action σ Unit := do
  let verdict ← C.resolve read other
  match ← chosen C property read verdict with
  | none => throw (.contract property ("Restored serializer is null with " ++ verdict.describe))
  | some restored =>
    if C.typeName restored ≠ C.typeName serializer then
      throw (.contract property ("Restored serializer is a " ++ C.typeName restored ++ ", expected " ++
        C.typeName serializer))
    if !(← C.equals restored serializer) then
      throw (.contract property ("Restored serializer is configured differently than the " ++
        "original one with " ++ verdict.describe))

end Suite

namespace World

variable {σ A S N : Type} {t : ValueType} {C : Contract σ A t S N} {W : World σ S N t.Val}
    {suite : Suite C} {state : σ}

/-- A check fails if its guarded part does for every serializer that the fixture may hand out. -/
theorem Supplies.check_fails (h : W.Supplies suite) {property : String} {check : S → Action σ Unit}
    (hCheck : ∀ x served, W.valid served → W.live x served → (check x).Fails served) (hValid : W.valid state) :
    (do
      let serializer ← suite.getSerializer property
      Suite.guarded property (check serializer) : Action σ Unit).Fails state := by
  apply (h.getSerializer_succeeds property hValid).bind_fails
  intro x served hServed
  obtain ⟨hLive, hKeeps⟩ := hServed
  exact Suite.guarded_fails (hCheck x served (hKeeps.valid hValid) hLive)

/-- Serializers that are configured the same way are told apart. -/
def Distinguishes (W : World σ S N t.Val) (C : Contract σ A t S N) : Prop :=
  ∀ x y state, W.live x state → W.live y state → W.alike x y state →
    (C.equals x y).Succeeds state fun equal _ => equal = false

variable (hSupplies : W.Supplies suite) (hValid : W.valid state)

include hSupplies hValid

/-- A serializer that reports another length than the fixture expects is found. -/
theorem checkLength_fails {reported : Int} (hLength : ∀ x, (∃ state, W.live x state) →
    (C.operations x).length = pure reported) (hOther : reported ≠ suite.fixture.length) :
    suite.checkLength.Fails state := by
  unfold Suite.checkLength
  by_cases hZero : suite.fixture.length = 0
  · simp only [hZero, if_true]
    exact (Action.throw_fails _).bind _
  · simp only [hZero, if_false]
    refine hSupplies.check_fails (fun x served _ hLive => ?_) hValid
    have hReported : (C.operations x).length.Succeeds served fun length last =>
        length = reported ∧ last = served := by
      rw [hLength x ⟨served, hLive⟩]
      exact Action.pure_succeeds ⟨rfl, rfl⟩
    apply hReported.bind_fails
    intro length last hMeasured
    obtain ⟨rfl, rfl⟩ := hMeasured
    rw [if_pos hOther]
    apply hReported.bind_fails
    intro length _ _
    exact Action.throw_fails _

/-- A check of a snapshot fails if it does so with every snapshot that describes the serializer. -/
theorem checkReconfigure_fails (hSnapshots : W.Snapshots C) (hRereads : W.RereadsSnapshots C suite.registry)
    (hJudged : ∀ n x y state property, W.describes n x state → W.live x state → W.live y state →
      (Suite.judgeSnapshot C property x n y).Fails state) :
    suite.checkReconfigure.Fails state := by
  refine hSupplies.check_fails (fun x served hServed hLive => ?_) hValid
  apply (getSnapshot_succeeds hSnapshots _ hLive).bind_fails
  intro n taken hSnapshot
  obtain ⟨hDescribes, hTaken⟩ := hSnapshot
  apply (hRereads n x taken hDescribes).bind_fails
  intro written middle hWritten
  apply hWritten.bind_fails
  intro read reread hRead
  obtain ⟨n', input⟩ := read
  obtain ⟨hEnd, hDescribes, hReread⟩ := hRead
  have hReread := hTaken.trans hReread
  apply (Suite.checkConsumed_succeeds hEnd).bind_fails
  intro _ _ hSame
  subst hSame
  apply (hSupplies.getSerializer_succeeds _ (hReread.valid hServed)).bind_fails
  intro y other hOther
  obtain ⟨hLiveOther, hOther⟩ := hOther
  exact hJudged n' x y other _ (hOther.describes n' x hDescribes) ((hReread.trans hOther).live x hLive)
    hLiveOther

omit hSupplies hValid in
/-- A serializer that a snapshot says cannot be replaced is not replaced. -/
theorem judgeSnapshot_fails_of_incompatible {property : String} {n : N} {x y : S}
    (h : C.resolve n y = pure .incompatible) : (Suite.judgeSnapshot C property x n y).Fails state := by
  rw [Suite.judgeSnapshot, h, pure_bind]
  exact (Action.throw_fails _).bind _

omit hSupplies hValid in
/-- A serializer that differs from whatever can replace it is not replaced. -/
theorem judgeSnapshot_fails_of_distinguishes {property : String} {n : N} {x y : S} (hResolves : W.Resolves C)
    (hRestores : W.Restores C) (hDistinguishes : W.Distinguishes C) (hDescribes : W.describes n x state)
    (hLive : W.live x state) (hLive' : W.live y state) :
    (Suite.judgeSnapshot C property x n y).Fails state := by
  apply (hResolves n x y state hDescribes hLive hLive').bind_fails
  intro verdict resolved hVerdict
  obtain ⟨hResolved, hVerdict⟩ := hVerdict
  apply (chosen_succeeds hRestores (hResolved.describes n x hDescribes) (hResolved.live x hLive)
    hVerdict).bind_fails
  intro restored chosen hChosen
  obtain ⟨z, rfl, hReplaces, hChosen⟩ := hChosen
  simp only [hReplaces.type, ne_eq, not_true_eq_false, if_false]
  apply (hDistinguishes z x chosen hReplaces.live ((hResolved.trans hChosen).live x hLive)
    hReplaces.alike).bind_fails
  intro equal last hEqual
  obtain rfl := hEqual
  exact Action.throw_fails _

/-- A serializer that differs from its clones is found by them. -/
theorem checkClone_fails (hSnapshots : W.Snapshots C) (hRereads : W.RereadsSnapshots C suite.registry)
    (hRestores : W.Restores C) (hSymm : ∀ x y state, W.alike x y state → W.alike y x state)
    (hDistinguishes : W.Distinguishes C) : suite.checkClone.Fails state := by
  apply (hSupplies.getSerializer_succeeds _ hValid).bind_fails
  intro x served hServed
  obtain ⟨hLive, -⟩ := hServed
  apply (Suite.reported_succeeds (clone_succeeds hSnapshots hRereads hRestores hLive)).bind_fails
  intro y cloned hClone
  obtain ⟨hReplaces, hCloned⟩ := hClone
  refine Suite.guarded_fails ?_
  simp only [hReplaces.type, ne_eq, not_true_eq_false, if_false]
  apply (hDistinguishes x y cloned (hCloned.live x hLive) hReplaces.live
    (hSymm y x cloned hReplaces.alike)).bind_fails
  intro equal last hEqual
  obtain rfl := hEqual
  exact Action.throw_fails _

/-- A check of duplicates fails if there are none, or if they differ. -/
theorem checkDuplicate_fails (hDuplicate : ∀ x state, W.live x state → (C.duplicate x).Succeeds state
      fun duplicate last => ∀ y, duplicate = some y →
        (C.equals y x).Succeeds last fun equal _ => equal = false) : suite.checkDuplicate.Fails state := by
  refine hSupplies.check_fails (fun x served _ hLive => ?_) hValid
  apply (hDuplicate x served hLive).bind_fails
  intro duplicate duplicated hDuplicated
  cases duplicate with
  | none => exact Action.throw_fails _
  | some y =>
      apply (hDuplicated y rfl).bind_fails
      intro equal _ hEqual
      obtain rfl := hEqual
      exact (Action.throw_fails _).bind _

end World

end SerializerContract
