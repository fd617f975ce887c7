import SerializerContract.Proofs.Barrier.Order

/-! What the parties of a barrier are told. The barrier only changes from unbroken to broken, and whoever goes on
is told what it is like at that moment; where nothing is left to be done, whoever still waits does so at a shut
barrier. -/
namespace SerializerContract

/-- It need not do anything: it has gone on, or it sleeps. -/
def Party.isSettled : Party → Bool
  | .outside => false
  | .waiting notified => !notified
  | .returned _ => true

namespace BarrierRun

variable {p w breaks : Nat} {run next last : BarrierRun} {event : Event} {events : List Event}

/-- A barrier is full only when as many parties have entered as it waits for. -/
theorem Orderly.le_entered_of_isFull (h : run.Orderly p w) (hFull : run.barrier.isFull = true) :
    p ≤ run.entered := by
  rw [← h.arrived, ← h.parties]
  exact of_decide_eq_true hFull

/-- A barrier is broken once it was broken, and not before. -/
theorem Step.broken_iff (h : Step run event next) :
    next.barrier.broken = true ↔ run.barrier.broken = true ∨ event = .breakUp := by
  cases h with
  | enter outside =>
      rcases enter_cases run _ with ⟨-, hEnter⟩ | ⟨-, hEnter⟩ <;> rw [hEnter] <;>
        simp [BarrierRun.look, notifyAll, BarrierRun.arrive, StartBarrier.arrive]
  | wake notified => simp [BarrierRun.look]
  | stir asleep => simp [BarrierRun.look]
  | breakUp due => exact iff_of_true rfl (.inr rfl)

/-- A barrier is broken exactly if it was, or if somebody has broken it since. -/
theorem Steps.broken_iff (h : Steps run events last) :
    last.barrier.broken = true ↔ run.barrier.broken = true ∨ .breakUp ∈ events := by
  induction h with
  | nil => simp
  | cons first rest ih => rw [ih, first.broken_iff, List.mem_cons, or_assoc, eq_comm (a := Event.breakUp)]

/-- Whoever goes on in a critical section is told what the barrier is like. -/
theorem Step.returned (h : Step run event next) {released : Bool} (hMem : .returned released ∈ next.parties) :
    .returned released ∈ run.parties ∨ next.barrier.judge = .returned released := by
  have hLook {run : BarrierRun} (i : Nat) (hMem : .returned released ∈ (run.look i).parties) :
      .returned released ∈ run.parties ∨ run.barrier.judge = .returned released :=
    (List.mem_or_eq_of_mem_set hMem).imp_right Eq.symm
  have hNotify {run : BarrierRun} (hMem : .returned released ∈ run.notifyAll.parties) :
      .returned released ∈ run.parties := by
    obtain ⟨party, hParty, hNotified⟩ := List.mem_map.mp hMem
    rwa [← Party.notify_eq_returned_iff.mp hNotified]
  cases h with
  | enter outside =>
      rcases enter_cases run _ with ⟨-, hEnter⟩ | ⟨-, hEnter⟩ <;> rw [hEnter] at hMem ⊢
      · exact (hLook _ hMem).imp_left hNotify
      · exact hLook _ hMem
  | wake notified => exact hLook _ hMem
  | stir asleep => exact hLook _ hMem
  | breakUp due => exact .inl (hNotify hMem)

/-- Once the barrier is broken, nobody is released any more. -/
theorem Steps.not_released (h : Steps run events last) (hBroken : run.barrier.broken = true)
    (hNone : .returned true ∉ run.parties) : .returned true ∉ last.parties := by
  induction h with
  | nil => exact hNone
  | @cons run middle last event events first rest ih =>
      have hStill : middle.barrier.broken = true := first.broken_iff.mpr (.inl hBroken)
      refine ih hStill fun hMem => (first.returned hMem).elim hNone fun hJudge => ?_
      simp [StartBarrier.judge, StartBarrier.letsGo, StartBarrier.verdict, hStill] at hJudge

/-- As long as nobody enters, everybody is outside. -/
theorem Steps.outside (h : Steps run events last) (hNobody : ∀ i, .enter i ∉ events)
    (hOutside : ∀ party ∈ run.parties, party = .outside) : ∀ party ∈ last.parties, party = .outside := by
  induction h with
  | nil => exact hOutside
  | @cons run middle last event events first rest ih =>
      refine ih (fun i hEnter => hNobody i (List.mem_cons_of_mem event hEnter)) ?_
      cases first with
      | @enter i outside => exact absurd List.mem_cons_self (hNobody i)
      | wake notified => nomatch hOutside _ (List.mem_of_getElem? notified)
      | stir asleep => nomatch hOutside _ (List.mem_of_getElem? asleep)
      | breakUp due =>
          intro party hParty
          obtain ⟨old, hOld, rfl⟩ := List.mem_map.mp hParty
          exact Party.notify_eq_outside_iff.mpr (hOutside old hOld)

/-- A run can be taken apart at any event. -/
theorem Steps.of_append {before after : List Event} (h : Steps run (before ++ after) last) :
    ∃ middle, Steps run before middle ∧ Steps middle after last := by
  induction before generalizing run with
  | nil => exact ⟨run, .nil run, h⟩
  | cons event before ih =>
      cases h with
      | cons first rest =>
          obtain ⟨middle, hBefore, hAfter⟩ := ih rest
          exact ⟨middle, .cons first hBefore, hAfter⟩

/-! ## Complete runs -/

/-- Nothing is left to be done: a party could at most wake up without having been notified. -/
def IsComplete (run : BarrierRun) : Prop :=
  ∀ event next, Step run event next → ∃ i, event = .stir i

theorem isComplete_iff :
    run.IsComplete ↔ run.breaks = 0 ∧ ∀ party ∈ run.parties, party.isSettled = true := by
  constructor
  · intro h
    refine ⟨Nat.eq_zero_of_not_pos fun hDue => ?_, fun party hParty => ?_⟩
    · obtain ⟨_, hStir⟩ := h _ _ (.breakUp hDue)
      nomatch hStir
    · obtain ⟨i, hFound⟩ := List.mem_iff_getElem?.mp hParty
      match party with
      | .outside =>
          obtain ⟨_, hStir⟩ := h _ _ (.enter hFound)
          nomatch hStir
      | .waiting true =>
          obtain ⟨_, hStir⟩ := h _ _ (.wake hFound)
          nomatch hStir
      | .waiting false => rfl
      | .returned released => rfl
  · intro h event next hStep
    cases hStep with
    | enter outside => nomatch h.2 _ (List.mem_of_getElem? outside)
    | wake notified => nomatch h.2 _ (List.mem_of_getElem? notified)
    | stir asleep => exact ⟨_, rfl⟩
    | breakUp due => exact absurd h.1 (Nat.ne_of_gt due)

/-- Nobody is left outside, and nobody who was notified waits. -/
theorem IsComplete.party (h : run.IsComplete) {party : Party} (hParty : party ∈ run.parties) :
    party = .waiting false ∨ ∃ released, party = .returned released := by
  have hSettled := (isComplete_iff.mp h).2 party hParty
  match party, hSettled with
  | .waiting false, _ => exact .inl rfl
  | .returned released, _ => exact .inr ⟨released, rfl⟩

/-- Everybody has entered when nothing is left to be done. -/
theorem Orderly.entered_of_complete (h : run.Orderly p w) (hComplete : run.IsComplete) : run.entered = w := by
  rw [← h.count]
  refine List.countP_eq_length.mpr fun party hParty => ?_
  rcases hComplete.party hParty with rfl | ⟨released, rfl⟩ <;> rfl

/-- Whoever still waits in the end waits for parties that did not come, and nobody broke the barrier. -/
theorem Orderly.shut_of_waiting (h : run.Orderly p w) (hComplete : run.IsComplete) {notified : Bool}
    (hWaiting : .waiting notified ∈ run.parties) : run.barrier.broken = false ∧ run.entered < p := by
  have hFits := h.fits _ hWaiting
  rcases hComplete.party hWaiting with hAsleep | ⟨_, hReturned⟩
  · obtain rfl := Party.waiting.inj hAsleep
    have hShut := StartBarrier.letsGo_eq_false_iff.mp (Eq.symm hFits)
    rwa [h.arrived, h.parties] at hShut
  · nomatch hReturned

/-- Where all that wait may go on, and all are told the same, all have gone on and were told so. -/
theorem Orderly.parties_of_complete (h : run.Orderly p w) (hComplete : run.IsComplete) {released : Bool}
    (hOpen : ¬(run.barrier.broken = false ∧ run.entered < p)) (hSame : .returned (!released) ∉ run.parties) :
    run.parties = List.replicate w (.returned released) := by
  refine List.eq_replicate_iff.mpr ⟨h.count, fun party hParty => ?_⟩
  rcases hComplete.party hParty with rfl | ⟨told, rfl⟩
  · exact absurd (h.shut_of_waiting hComplete hParty) hOpen
  · by_cases hTold : told = released
    · rw [hTold]
    · rw [Bool.eq_not_of_ne hTold] at hParty
      exact absurd hParty hSame

/-- Nobody is released before all parties that the barrier waits for have entered, and nobody goes on at all
before that, unless the barrier is broken. When there is nothing left to be done, somebody still waits only if
too few have entered and the barrier was not broken. So all who come are released if they are enough and nobody
breaks the barrier, and all are refused if it is broken before they come, or at any time while they are too
few. -/
theorem parties_go_on_together (h : Steps (start p w breaks) events last) :
    (.returned true ∈ last.parties → p ≤ last.entered) ∧
    (last.entered < p → .breakUp ∉ events → ∀ released, .returned released ∉ last.parties) ∧
    (last.IsComplete →
      (∀ notified, .waiting notified ∈ last.parties → last.entered < p ∧ .breakUp ∉ events) ∧
      (.breakUp ∉ events → p ≤ w → last.parties = List.replicate w (.returned true)) ∧
      (∀ before after, events = before ++ .breakUp :: after → (∀ i, .enter i ∉ before) →
        last.parties = List.replicate w (.returned false)) ∧
      (w < p → .breakUp ∈ events → last.parties = List.replicate w (.returned false))) := by
  have hLast := (start_orderly p w breaks).steps h
  have hBroken : last.barrier.broken = true ↔ .breakUp ∈ events := by simp [h.broken_iff, start]
  have hReleased : .returned true ∈ last.parties → p ≤ last.entered := fun hMem =>
    hLast.le_entered_of_isFull (hLast.fits _ hMem)
  refine ⟨hReleased, ?_, fun hComplete => ?_⟩
  · intro hFew hUnbroken released hMem
    cases released with
    | true => exact absurd (hReleased hMem) (Nat.not_le.mpr hFew)
    | false => exact hUnbroken (hBroken.mp (hLast.fits _ hMem))
  have hAll := hLast.entered_of_complete hComplete
  refine ⟨?_, ?_, ?_, ?_⟩
  · intro notified hWaiting
    obtain ⟨hShut, hFew⟩ := hLast.shut_of_waiting hComplete hWaiting
    refine ⟨hFew, fun hMem => ?_⟩
    rw [hBroken.mpr hMem] at hShut
    cases hShut
  · intro hUnbroken hEnough
    refine hLast.parties_of_complete hComplete (fun hShut => by omega) fun hMem => ?_
    exact hUnbroken (hBroken.mp (hLast.fits _ hMem))
  · rintro before after rfl hNobody
    obtain ⟨middle, hBefore, hRest⟩ := h.of_append
    cases hRest with
    | cons first rest =>
        have hOutside := (hBefore.outside hNobody fun party hParty => List.eq_of_mem_replicate hParty)
        have hNow := first.broken_iff.mpr (.inr rfl)
        have hLater := rest.broken_iff.mpr (.inl hNow)
        refine hLast.parties_of_complete hComplete (fun hShut => by rw [hLater] at hShut; cases hShut.1) ?_
        refine rest.not_released hNow fun hMem => ?_
        cases first with
        | breakUp due =>
            obtain ⟨party, hParty, hNotified⟩ := List.mem_map.mp hMem
            rw [hOutside party hParty] at hNotified
            cases hNotified
  · intro hFew hMem
    refine hLast.parties_of_complete hComplete (fun hShut => ?_) fun hReturned => ?_
    · rw [hBroken.mpr hMem] at hShut
      cases hShut.1
    · have hEnough := hReleased hReturned
      omega

/-- Two parties are too few for a barrier for three. One of them waits, wakes up for no reason, and is notified
when the barrier is broken; the other one comes when it was. Both are refused. -/
theorem parties_go_on_together_two_of_three :
    Steps (start 3 2 1) [.enter 0, .stir 0, .breakUp, .enter 1, .wake 0]
      ⟨⟨3, 2, true⟩, [.returned false, .returned false], 0⟩ ∧
    (⟨⟨3, 2, true⟩, [.returned false, .returned false], 0⟩ : BarrierRun).IsComplete ∧
    [Party.returned false, .returned false] = List.replicate 2 (.returned false) := by
  have hSteps : Steps (start 3 2 1) [.enter 0, .stir 0, .breakUp, .enter 1, .wake 0]
      ⟨⟨3, 2, true⟩, [.returned false, .returned false], 0⟩ :=
    .cons (.enter rfl) (.cons (.stir rfl) (.cons (.breakUp (by decide)) (.cons (.enter rfl)
      (.cons (.wake rfl) (.nil _)))))
  have hComplete : (⟨⟨3, 2, true⟩, [.returned false, .returned false], 0⟩ : BarrierRun).IsComplete :=
    isComplete_iff.mpr (by decide)
  exact ⟨hSteps, hComplete, ((parties_go_on_together hSteps).2.2 hComplete).2.2.2 (by decide) (by decide)⟩

end BarrierRun

end SerializerContract
