import SerializerContract.Proofs.Conformance.Values

/-! The checks of snapshots. A snapshot describes its serializer also after it went through its bytes, so
whatever it restores, or is resolved to, can replace the serializer. -/
namespace SerializerContract

namespace Suite

variable {σ : Type} {state : σ}

/-- Nothing is found if all was consumed. -/
theorem checkConsumed_succeeds {property message : String} {input : InputChannel}
    (hEnd : input.available = 0) :
    (checkConsumed property message input).Succeeds state fun _ last => last = state :=
  ⟨(), state, checkConsumed_ok_iff.mpr ⟨hEnd, rfl⟩, rfl⟩

/-- A handler leaves a success alone. -/
theorem reported_succeeds {α : Type} {kind : FindingKind} {property message : String}
    {action : Action σ α} {post : α → σ → Prop} (h : action.Succeeds state post) :
    (reported kind property message action).Succeeds state post := by
  obtain ⟨a, last, hOutcome, hPost⟩ := h
  refine ⟨a, last, ?_, hPost⟩
  simp only [reported, Action.outcome] at hOutcome ⊢
  rw [hOutcome]

end Suite

namespace World

variable {σ A S N : Type} {t : ValueType} {C : Contract σ A t S N} {W : World σ S N t.Val}
    {suite : Suite C} {state : σ} {x : S}

/-- A live serializer hands out a snapshot that describes it. -/
theorem getSnapshot_succeeds (hSnapshots : W.Snapshots C) (property : String) (hLive : W.live x state) :
    (Suite.getSnapshot C property x).Succeeds state fun n last =>
      W.describes n x last ∧ W.Keeps state last := by
  apply (hSnapshots x state hLive).bind
  intro snapshot last hSnapshot
  obtain ⟨n, rfl, hDescribes⟩ := hSnapshot
  exact Action.pure_succeeds hDescribes

/-- A registered snapshot can be made anew. -/
theorem checkSnapshotInstantiation_passes (hSupplies : W.Supplies suite) (hValid : W.valid state)
    (hSnapshots : W.Snapshots C) (hRegisters : W.Registers C suite.registry) :
    suite.checkSnapshotInstantiation.Succeeds state fun _ last => W.Keeps state last := by
  refine hSupplies.check_passes (fun x served _ hLive => ?_) hValid
  apply (getSnapshot_succeeds hSnapshots _ hLive).bind
  intro n middle hSnapshot
  obtain ⟨hDescribes, hMiddle⟩ := hSnapshot
  apply (hRegisters n x middle hDescribes).bind
  intro made last hMade
  obtain ⟨hType, hLast⟩ := hMade
  simp only [hType, ne_eq, not_true_eq_false, if_false]
  exact Action.pure_succeeds (hMiddle.trans hLast)

/-- The serializer to use after a snapshot was resolved can replace the one it describes. -/
theorem chosen_succeeds (hRestores : W.Restores C) {property : String} {n : N}
    {verdict : Compatibility S} (hDescribes : W.describes n x state) (hLive : W.live x state)
    (hVerdict : verdict = .asIs ∨ ∃ y, verdict = .reconfigured (some y) ∧ W.Replaces C y x state) :
    (Suite.chosen C property n verdict).Succeeds state fun restored last =>
      ∃ y, restored = some y ∧ W.Replaces C y x last ∧ W.Keeps state last := by
  rcases hVerdict with rfl | ⟨y, rfl, hReplaces⟩
  · exact hRestores n x state hDescribes hLive
  · exact Action.pure_succeeds ⟨y, rfl, hReplaces, Keeps.refl W state⟩

/-- A serializer that is described by its snapshot, and restored from its bytes, passes the check of
reconfiguration. -/
theorem checkReconfigure_passes (hSupplies : W.Supplies suite) (hValid : W.valid state)
    (hSnapshots : W.Snapshots C) (hRereads : W.RereadsSnapshots C suite.registry)
    (hRestores : W.Restores C) (hResolves : W.Resolves C) (hCompares : W.Compares C) :
    suite.checkReconfigure.Succeeds state fun _ last => W.Keeps state last := by
  refine hSupplies.check_passes (fun x served hServed hLive => ?_) hValid
  apply (getSnapshot_succeeds hSnapshots _ hLive).bind
  intro n taken hSnapshot
  obtain ⟨hDescribes, hTaken⟩ := hSnapshot
  apply (hRereads n x taken hDescribes).bind
  intro written middle hWritten
  apply hWritten.bind
  intro read reread hRead
  obtain ⟨n', input⟩ := read
  obtain ⟨hEnd, hDescribes, hReread⟩ := hRead
  have hReread := hTaken.trans hReread
  apply (Suite.checkConsumed_succeeds hEnd).bind
  intro _ _ hSame
  subst hSame
  apply (hSupplies.getSerializer_succeeds _ (hReread.valid hServed)).bind
  intro y other hOther
  obtain ⟨hLiveOther, hOther⟩ := hOther
  have hOther' := hReread.trans hOther
  apply (hResolves n' x y other (hOther.describes n' x hDescribes) (hOther'.live x hLive)
    hLiveOther).bind
  intro verdict resolved hVerdict
  obtain ⟨hResolved, hVerdict⟩ := hVerdict
  have hResolved' := hOther'.trans hResolved
  apply (chosen_succeeds hRestores ((hOther.trans hResolved).describes n' x hDescribes)
    (hResolved'.live x hLive) hVerdict).bind
  intro restored chosen hChosen
  obtain ⟨z, rfl, hReplaces, hChosen⟩ := hChosen
  have hChosen' := hResolved'.trans hChosen
  simp only [hReplaces.type, ne_eq, not_true_eq_false, if_false]
  apply (hCompares.equals z x chosen hReplaces.live (hChosen'.live x hLive) hReplaces.alike).bind
  intro equal last hEqual
  obtain ⟨rfl, hLast⟩ := hEqual
  exact Action.pure_succeeds (hChosen'.trans hLast)

/-- A live serializer can be cloned by way of its snapshot, and the clone stands in for it. -/
theorem clone_succeeds (hSnapshots : W.Snapshots C) {registry : Registry σ A}
    (hRereads : W.RereadsSnapshots C registry) (hRestores : W.Restores C) (hLive : W.live x state) :
    (C.clone registry x).Succeeds state fun y last => W.Replaces C y x last ∧ W.Keeps state last := by
  apply (hSnapshots x state hLive).bind
  intro snapshot taken hSnapshot
  obtain ⟨n, rfl, hDescribes, hTaken⟩ := hSnapshot
  apply (hRereads n x taken hDescribes).bind
  intro written middle hWritten
  apply hWritten.bind
  intro read reread hRead
  obtain ⟨-, hDescribes, hReread⟩ := hRead
  have hReread := hTaken.trans hReread
  apply (hRestores read.1 x reread hDescribes (hReread.live x hLive)).bind
  intro restored last hRestored
  obtain ⟨y, rfl, hReplaces, hLast⟩ := hRestored
  exact Action.pure_succeeds ⟨hReplaces, hReread.trans hLast⟩

/-- A serializer that equals its clone passes the check of cloning. -/
theorem checkClone_passes (hSupplies : W.Supplies suite) (hValid : W.valid state)
    (hSnapshots : W.Snapshots C) (hRereads : W.RereadsSnapshots C suite.registry)
    (hRestores : W.Restores C) (hCompares : W.Compares C) :
    suite.checkClone.Succeeds state fun _ last => W.Keeps state last := by
  apply (hSupplies.getSerializer_succeeds _ hValid).bind
  intro x served hServed
  obtain ⟨hLive, hServed⟩ := hServed
  apply (Suite.reported_succeeds (clone_succeeds hSnapshots hRereads hRestores hLive)).bind
  intro y cloned hClone
  obtain ⟨hReplaces, hCloned⟩ := hClone
  refine Suite.guarded_succeeds ?_
  simp only [hReplaces.type, ne_eq, not_true_eq_false, if_false]
  apply (hCompares.equals x y cloned (hCloned.live x hLive) hReplaces.live
    (hCompares.symm y x cloned hReplaces.alike)).bind
  intro equal last hEqual
  obtain ⟨rfl, hLast⟩ := hEqual
  exact Action.pure_succeeds (hServed.trans (hCloned.trans hLast))

end World

end SerializerContract
