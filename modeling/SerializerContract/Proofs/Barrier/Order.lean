import SerializerContract.Barrier

/-! Start barriers in any order of critical sections. Whoever waits has been notified exactly if it may go on,
and whoever went on was told what the barrier was like; every critical section keeps this, so nobody sleeps
when the barrier is open, and nobody goes on before. -/
namespace SerializerContract

/-- A party knows of the barrier what it has to know. -/
def Party.Fits (barrier : StartBarrier) : Party → Prop
  | .outside => True
  | .waiting notified => notified = barrier.letsGo
  | .returned released => if released then barrier.isFull = true else barrier.broken = true

namespace StartBarrier

variable {barrier later : StartBarrier}

/-- The barrier holds its parties back until it is full or broken. -/
theorem letsGo_eq_false_iff : barrier.letsGo = false ↔ barrier.broken = false ∧ barrier.arrived < barrier.parties := by
  simp [letsGo, isFull]

/-- A barrier that is full stays so, whoever arrives. -/
theorem isFull_arrive (h : barrier.isFull = true) : barrier.arrive.isFull = true :=
  decide_eq_true (Nat.le_succ_of_le (of_decide_eq_true h))

/-- A barrier that stays shut when one more party arrives was shut before. -/
theorem letsGo_arrive (h : barrier.arrive.isFull = false) : barrier.arrive.letsGo = barrier.letsGo := by
  have hBefore : barrier.isFull = false := by
    cases hFull : barrier.isFull with
    | false => rfl
    | true => rw [isFull_arrive hFull] at h; nomatch h
  rw [letsGo, letsGo, h, hBefore]
  rfl

/-- Whoever looks knows what it has to know. -/
theorem judge_fits (barrier : StartBarrier) : barrier.judge.Fits barrier := by
  cases hBroken : barrier.broken <;> cases hFull : barrier.isFull <;>
    simp [judge, letsGo, verdict, Party.Fits, hBroken, hFull]

/-- Whoever has looked at the barrier has entered it. -/
theorem judge_ne_outside (barrier : StartBarrier) : barrier.judge ≠ .outside := by
  unfold judge
  split <;> exact nofun

end StartBarrier

namespace Party

variable {barrier later : StartBarrier} {party : Party}

/-- What was told stays true when the barrier changes. -/
theorem Fits.keeps (h : party.Fits barrier) (hFull : barrier.isFull = true → later.isFull = true)
    (hBroken : barrier.broken = true → later.broken = true) (hSame : later.letsGo = barrier.letsGo) :
    party.Fits later := by
  cases party with
  | outside => trivial
  | waiting notified => exact Eq.trans h hSame.symm
  | returned released =>
      cases released with
      | false => exact hBroken h
      | true => exact hFull h

/-- When the barrier opens, everybody is notified. -/
theorem Fits.notify (h : party.Fits barrier) (hFull : barrier.isFull = true → later.isFull = true)
    (hBroken : barrier.broken = true → later.broken = true) (hOpen : later.letsGo = true) :
    party.notify.Fits later := by
  cases party with
  | outside => trivial
  | waiting notified => exact hOpen.symm
  | returned released =>
      cases released with
      | false => exact hBroken h
      | true => exact hFull h

@[simp] theorem notify_eq_outside_iff : party.notify = .outside ↔ party = .outside := by
  cases party <;> simp [notify]

@[simp] theorem notify_eq_returned_iff {released : Bool} :
    party.notify = .returned released ↔ party = .returned released := by
  cases party <;> simp [notify]

end Party

namespace BarrierRun

/-- Critical sections one after the other. -/
inductive Steps : BarrierRun → List Event → BarrierRun → Prop where
  | nil (run : BarrierRun) : Steps run [] run
  | cons {run middle last : BarrierRun} {event : Event} {events : List Event}
    (first : Step run event middle) (rest : Steps middle events last) : Steps run (event :: events) last

/-- How many parties have entered. -/
def entered (run : BarrierRun) : Nat := run.parties.countP fun party => party != .outside

/-- What holds in every state of a barrier for `p` parties to which `w` parties come. -/
structure Orderly (p w : Nat) (run : BarrierRun) : Prop where
  parties : run.barrier.parties = p
  count : run.parties.length = w
  arrived : run.barrier.arrived = run.entered
  fits : ∀ party ∈ run.parties, party.Fits run.barrier

variable {p w : Nat} {run next last : BarrierRun} {event : Event} {events : List Event} {i : Nat}

/-- At the start nobody has entered. -/
theorem start_orderly (p w breaks : Nat) : (start p w breaks).Orderly p w where
  parties := rfl
  count := List.length_replicate
  arrived := by simp [start, entered, List.countP_replicate]
  fits := by
    intro party hParty
    obtain rfl := List.eq_of_mem_replicate hParty
    trivial

/-- Who enters either opens the barrier for all, or looks at it alone. -/
theorem enter_cases (run : BarrierRun) (i : Nat) :
    (run.arrive.barrier.isFull = true ∧ run.enter i = run.arrive.notifyAll.look i) ∨
      (run.arrive.barrier.isFull = false ∧ run.enter i = run.arrive.look i) := by
  cases hFull : run.arrive.barrier.isFull with
  | true => exact .inl ⟨rfl, by rw [enter, if_pos hFull]⟩
  | false => exact .inr ⟨rfl, by rw [enter, if_neg (by simp [hFull])]⟩

theorem entered_notifyAll (run : BarrierRun) : run.notifyAll.entered = run.entered := by
  simp only [entered, notifyAll, List.countP_map]
  congr 1
  funext party
  cases party <;> rfl

/-- A party that looks has entered; it counts if it was outside before. -/
theorem entered_look {party : Party} (h : run.parties[i]? = some party) :
    (run.look i).entered = run.entered + if party = .outside then 1 else 0 := by
  obtain ⟨hIndex, hParty⟩ := List.getElem?_eq_some_iff.mp h
  have hJudge := run.barrier.judge_ne_outside
  have hLe : 0 < run.parties.countP (fun party => party != .outside) ∨ party = .outside := by
    by_cases hOutside : party = .outside
    · exact .inr hOutside
    · exact .inl (List.countP_pos_iff.mpr ⟨party, List.mem_of_getElem? h, by simpa using hOutside⟩)
  simp only [entered, look, List.countP_set hIndex, hParty, bne_iff_ne, ne_eq, hJudge, not_false_eq_true,
    if_true]
  by_cases hOutside : party = .outside
  · simp [hOutside]
  · simp only [hOutside, not_false_eq_true, if_true, if_false, or_false] at hLe ⊢
    omega

/-! ## One critical section -/

namespace Orderly

/-- Whoever is woken may look again, when the barrier has opened and never closes. -/
theorem notifyAll_fits {barrier later : StartBarrier} (h : ∀ party ∈ run.parties, party.Fits barrier)
    (hFull : barrier.isFull = true → later.isFull = true)
    (hBroken : barrier.broken = true → later.broken = true) (hOpen : later.letsGo = true) :
    ∀ party ∈ run.notifyAll.parties, party.Fits later := by
  intro party hParty
  obtain ⟨old, hOld, rfl⟩ := List.mem_map.mp hParty
  exact (h old hOld).notify hFull hBroken hOpen

/-- A party that looks again waits only while the barrier is shut. -/
theorem look_fits (h : ∀ party ∈ run.parties, party.Fits run.barrier) :
    ∀ party ∈ (run.look i).parties, party.Fits run.barrier := by
  intro party hParty
  rcases List.mem_or_eq_of_mem_set hParty with hOld | rfl
  · exact h party hOld
  · exact run.barrier.judge_fits

/-- A party that looks again leaves the run in order. -/
theorem look (h : run.Orderly p w) {notified : Bool} (hWaiting : run.parties[i]? = some (.waiting notified)) :
    (run.look i).Orderly p w where
  parties := h.parties
  count := by rw [BarrierRun.look, List.length_set, h.count]
  arrived := by rw [entered_look hWaiting]; exact h.arrived
  fits := look_fits h.fits

/-- A party that enters leaves the run in order: if it is the last one, it wakes up the others. -/
theorem enter (h : run.Orderly p w) (hOutside : run.parties[i]? = some .outside) :
    (run.enter i).Orderly p w := by
  have hCount : run.barrier.arrive.arrived = run.entered + 1 := congrArg (· + 1) h.arrived
  rcases enter_cases run i with ⟨hFull, hEnter⟩ | ⟨hFew, hEnter⟩ <;> rw [hEnter]
  · have hStill : run.arrive.notifyAll.parties[i]? = some .outside := by
      simp [notifyAll, BarrierRun.arrive, hOutside, Party.notify]
    have hOpen : run.barrier.arrive.letsGo = true := by
      rw [StartBarrier.letsGo, show run.barrier.arrive.isFull = true from hFull, Bool.or_true]
    refine ⟨h.parties, ?_, ?_, look_fits (notifyAll_fits h.fits (fun _ => hFull) id hOpen)⟩
    · simp [BarrierRun.look, notifyAll, BarrierRun.arrive, h.count]
    · rw [entered_look hStill, entered_notifyAll]
      exact hCount
  · refine ⟨h.parties, ?_, ?_, look_fits fun party hParty => ?_⟩
    · simp [BarrierRun.look, BarrierRun.arrive, h.count]
    · rw [@entered_look run.arrive i .outside hOutside]
      exact hCount
    · exact (h.fits party hParty).keeps StartBarrier.isFull_arrive id (StartBarrier.letsGo_arrive hFew)

/-- Breaking the barrier wakes up everybody, and leaves the run in order. -/
theorem breakUp (h : run.Orderly p w) : run.breakUp.Orderly p w where
  parties := h.parties
  count := by rw [BarrierRun.breakUp, notifyAll, List.length_map, h.count]
  arrived := by rw [BarrierRun.breakUp, entered_notifyAll]; exact h.arrived
  fits := notifyAll_fits h.fits id (fun _ => rfl) rfl

/-- Every critical section leaves the barrier and its parties in order. -/
theorem step (h : run.Orderly p w) (hStep : Step run event next) : next.Orderly p w := by
  cases hStep with
  | enter outside => exact h.enter outside
  | wake notified => exact h.look notified
  | stir asleep => exact h.look asleep
  | breakUp => exact h.breakUp

/-- What is in order at the start of a run is in order at its end. -/
theorem steps (h : run.Orderly p w) (hSteps : Steps run events last) : last.Orderly p w := by
  induction hSteps with
  | nil => exact h
  | cons first rest ih => exact ih (h.step first)

end Orderly
end BarrierRun

end SerializerContract
