import Mathlib.Algebra.GroupWithZero.Nat
import SerializerContract.Proofs.Barrier.Verdicts

/-! Every run of a barrier comes to its end. A party has at most two critical sections before it, and none of them
is taken back; what parties do that wake up for nothing changes nothing. -/
namespace SerializerContract

/-- How many critical sections it has before it at most, if it does not wake up for nothing. -/
def Party.work : Party → Nat
  | .outside => 2
  | .waiting _ => 1
  | .returned _ => 0

namespace StartBarrier

variable {barrier : StartBarrier}

/-- At most one look at the barrier is left for a party that has entered. -/
theorem judge_work_le (barrier : StartBarrier) : barrier.judge.work ≤ 1 := by
  unfold judge
  split <;> simp [Party.work]

/-- Nothing is left to do once the barrier lets its parties go. -/
theorem judge_work_of_letsGo (h : barrier.letsGo = true) : barrier.judge.work = 0 := by
  rw [judge, h]
  rfl

end StartBarrier

namespace BarrierRun

variable {p w breaks : Nat} {run next last : BarrierRun} {event : Event} {events : List Event} {i : Nat}

def Event.isStir : Event → Bool
  | .stir _ => true
  | _ => false

/-- How many critical sections are left at most, apart from those of parties that wake up without having been
notified. -/
def work (run : BarrierRun) : Nat := (run.parties.map Party.work).sum + run.breaks

/-- What one party has left changes the whole by as much. -/
theorem work_set {parties : List Party} {party : Party} (h : parties[i]? = some party) (next : Party) :
    ((parties.set i next).map Party.work).sum + party.work = (parties.map Party.work).sum + next.work := by
  induction parties generalizing i with
  | nil => nomatch h
  | cons first rest ih =>
      cases i with
      | zero =>
          obtain rfl := Option.some.inj h
          simp only [List.set_cons_zero, List.map_cons, List.sum_cons]
          omega
      | succ i =>
          have hRest := ih h
          simp only [List.set_cons_succ, List.map_cons, List.sum_cons]
          omega

/-- A party that looks at the barrier gives up what it had left, and is left with the verdict. -/
theorem work_look {party : Party} (h : run.parties[i]? = some party) :
    (run.look i).work + party.work = run.work + run.barrier.judge.work := by
  have hSet := work_set h run.barrier.judge
  simp only [work, look]
  omega

/-- Being woken up is no work. -/
theorem work_notifyAll (run : BarrierRun) : run.notifyAll.work = run.work := by
  have hSame : Party.work ∘ Party.notify = Party.work := by
    funext party
    cases party <;> rfl
  simp only [work, notifyAll, List.map_map, hSame]

/-- Each critical section brings the run closer to its end, unless a party wakes up for nothing. -/
theorem Orderly.work_lt (h : run.Orderly p w) (hStep : Step run event next) (hDoes : ∀ i, event ≠ .stir i) :
    next.work < run.work := by
  cases hStep with
  | @enter i outside =>
      have hJudge := run.arrive.barrier.judge_work_le
      rcases enter_cases run i with ⟨-, hEnter⟩ | ⟨-, hEnter⟩ <;> rw [hEnter]
      · have hStill : run.arrive.notifyAll.parties[i]? = some .outside := by
          simp [notifyAll, arrive, outside, Party.notify]
        have hLook : (run.arrive.notifyAll.look i).work + 2 = run.arrive.notifyAll.work + _ := work_look hStill
        have hArrived : run.arrive.notifyAll.work = run.work := work_notifyAll _
        change run.arrive.notifyAll.barrier.judge.work ≤ 1 at hJudge
        omega
      · have hLook : (run.arrive.look i).work + 2 = run.work + _ := @work_look run.arrive i .outside outside
        omega
  | wake notified =>
      have hOpen : run.barrier.letsGo = true := Eq.symm (h.fits _ (List.mem_of_getElem? notified))
      have hLook : (run.look _).work + 1 = run.work + _ := work_look notified
      rw [StartBarrier.judge_work_of_letsGo hOpen] at hLook
      omega
  | @stir i asleep => exact absurd rfl (hDoes i)
  | breakUp due =>
      have hWork : run.breakUp.work = (run.parties.map Party.work).sum + (run.breaks - 1) := work_notifyAll _
      rw [hWork, work]
      omega

/-- A party that wakes up without having been notified goes back to sleep. -/
theorem Orderly.look_of_asleep (h : run.Orderly p w) (hAsleep : run.parties[i]? = some (.waiting false)) :
    run.look i = run := by
  have hShut : run.barrier.letsGo = false := Eq.symm (h.fits _ (List.mem_of_getElem? hAsleep))
  obtain ⟨hIndex, hParty⟩ := List.getElem?_eq_some_iff.mp hAsleep
  have hJudge : run.barrier.judge = run.parties[i] := by rw [hParty, StartBarrier.judge, hShut]; rfl
  rw [BarrierRun.look, hJudge, List.set_getElem_self]

/-- A run can go on until nothing is left to be done, wherever it is. -/
theorem Orderly.exists_complete (h : run.Orderly p w) : ∃ events last, Steps run events last ∧ last.IsComplete := by
  induction hWork : run.work using Nat.strongRecOn generalizing run with
  | ind work ih =>
      by_cases hComplete : run.IsComplete
      · exact ⟨[], run, .nil run, hComplete⟩
      · simp only [IsComplete, Classical.not_forall, not_exists] at hComplete
        obtain ⟨event, next, hStep, hDoes⟩ := hComplete
        obtain ⟨events, last, hRest, hLast⟩ := ih next.work (hWork ▸ h.work_lt hStep hDoes) (h.step hStep) rfl
        exact ⟨event :: events, last, .cons hStep hRest, hLast⟩

/-- Every step but a spurious wake-up uses up work. -/
theorem Orderly.countP_le (h : run.Orderly p w) (hSteps : Steps run events last) :
    (events.countP fun event => !event.isStir) ≤ run.work := by
  induction hSteps with
  | nil => exact Nat.zero_le _
  | @cons run middle last event events first rest ih =>
      have hRest := ih (h.step first)
      cases hStir : event.isStir with
      | true =>
          cases first with
          | stir asleep =>
              rw [h.look_of_asleep asleep] at hRest
              simpa [Event.isStir] using hRest
          | _ => nomatch hStir
      | false =>
          have hLess := h.work_lt first fun i hEvent => by rw [hEvent] at hStir; nomatch hStir
          simp only [List.countP_cons, hStir, Bool.not_false, if_true]
          omega

/-- No run goes on for ever: apart from parties that wake up for nothing, there are at most two critical
sections for each party, and one for each time that the barrier is broken. -/
theorem countP_le_of_steps (h : Steps (start p w breaks) events last) :
    (events.countP fun event => !event.isStir) ≤ 2 * w + breaks := by
  have hWork : (start p w breaks).work = 2 * w + breaks := by simp [work, start, Party.work, Nat.mul_comm]
  exact hWork ▸ (start_orderly p w breaks).countP_le h

/-! ## The parties of a barrier that runs -/

theorem enter_breaks (run : BarrierRun) (i : Nat) : (run.enter i).breaks = run.breaks := by
  rcases enter_cases run i with ⟨-, hEnter⟩ | ⟨-, hEnter⟩ <;> rw [hEnter] <;> rfl

/-- Runs can be put one after the other. -/
theorem Steps.trans {later : List Event} (h : Steps run events next) (hLater : Steps next later last) :
    Steps run (events ++ later) last := by
  induction h with
  | nil => exact hLater
  | cons first rest ih => exact .cons first (ih hLater)

/-- What a party does when it is its turn is a critical section, or nothing. -/
theorem advance_steps (run : BarrierRun) (i : Nat) :
    (∃ events, Steps run events (run.advance i)) ∧ (run.advance i).breaks = run.breaks := by
  unfold advance
  split
  next hOutside => exact ⟨⟨[.enter i], .cons (.enter hOutside) (.nil _)⟩, run.enter_breaks i⟩
  next hNotified => exact ⟨⟨[.wake i], .cons (.wake hNotified) (.nil _)⟩, rfl⟩
  next => exact ⟨⟨[], .nil run⟩, rfl⟩

/-- Parties that come in turns take steps that there are, and break nothing. -/
theorem foldl_advance_steps (turns : List Nat) (run : BarrierRun) :
    (∃ events, Steps run events (turns.foldl advance run)) ∧ (turns.foldl advance run).breaks = run.breaks := by
  induction turns generalizing run with
  | nil => exact ⟨⟨[], .nil run⟩, rfl⟩
  | cons i turns ih =>
      obtain ⟨⟨events, hFirst⟩, hBreaks⟩ := run.advance_steps i
      obtain ⟨⟨later, hRest⟩, hLater⟩ := ih (run.advance i)
      exact ⟨⟨events ++ later, hFirst.trans hRest⟩, hLater.trans hBreaks⟩

/-- Parties that come one after the other, with a barrier that is broken before, after or never, take one of the
orders that there are. -/
theorem complete_steps {time : BreakTime} (h : time = .never ∨ 0 < run.breaks) :
    ∃ events, Steps run events (run.complete time) := by
  obtain ⟨⟨first, hFirst⟩, hBreaks⟩ := foldl_advance_steps (List.range run.parties.length) run
  cases time with
  | never =>
      obtain ⟨⟨second, hSecond⟩, -⟩ := foldl_advance_steps _ run.advanceAll
      exact ⟨first ++ second, hFirst.trans hSecond⟩
  | before =>
      have hDue : 0 < run.breaks := h.resolve_left nofun
      obtain ⟨⟨second, hSecond⟩, -⟩ := foldl_advance_steps _ run.breakUp
      obtain ⟨⟨third, hThird⟩, -⟩ := foldl_advance_steps _ run.breakUp.advanceAll
      exact ⟨.breakUp :: (second ++ third), .cons (.breakUp hDue) (hSecond.trans hThird)⟩
  | after =>
      have hDue : 0 < run.advanceAll.breaks := Nat.lt_of_lt_of_eq (h.resolve_left nofun) hBreaks.symm
      obtain ⟨⟨second, hSecond⟩, -⟩ := foldl_advance_steps _ run.advanceAll.breakUp
      exact ⟨first ++ .breakUp :: second, hFirst.trans (.cons (.breakUp hDue) hSecond)⟩

end BarrierRun

end SerializerContract
