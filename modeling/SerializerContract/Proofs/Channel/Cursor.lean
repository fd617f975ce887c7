import SerializerContract.Proofs.Channel

/-! The cursor of an input channel. Every way to read takes the bytes in front of the cursor and moves it
behind them, or fails and leaves it where it is; the bytes themselves are never changed. -/
namespace SerializerContract

namespace InputChannel

variable {α : Type}

/-- The cursor has passed over some bytes: it was in front of them, and is now behind them. -/
structure Passes (before : InputChannel) (front : Bytes) (after : InputChannel) : Prop where
  rest : before.rest = front ++ after.rest
  past : after.past = before.past ++ front

/-- Every byte has been read or is still to be read. -/
theorem position_add_available (input : InputChannel) :
    input.position + input.available = input.bytes.length := by
  simp [position, available, bytes]

namespace Passes

variable {before middle after : InputChannel} {front back : Bytes}

theorem refl (input : InputChannel) : input.Passes [] input := ⟨rfl, (List.append_nil _).symm⟩

/-- A cursor that passes over two strings passes over both together. -/
theorem trans (hFirst : before.Passes front middle) (hSecond : middle.Passes back after) :
    before.Passes (front ++ back) after where
  rest := by simp [hFirst.rest, hSecond.rest]
  past := by simp [hFirst.past, hSecond.past]

/-- Moving the cursor changes no byte. -/
theorem bytes (h : before.Passes front after) : after.bytes = before.bytes := by
  simp [InputChannel.bytes, h.rest, h.past]

/-- The cursor moves by as much as it passes over. -/
theorem position (h : before.Passes front after) : after.position = before.position + front.length := by
  simp [InputChannel.position, h.past]

/-- What the cursor passes over is no longer available. -/
theorem available (h : before.Passes front after) : before.available = front.length + after.available := by
  simp [InputChannel.available, h.rest]

/-- Where the cursor is after the bytes that it has passed over is determined. -/
theorem after_eq (h : before.Passes front after) : after = ⟨before.past ++ front, after.rest⟩ := by
  rw [← h.past]

/-- A cursor that passes over nothing does not move. -/
theorem eq_of_nil (h : before.Passes [] after) : after = before := by
  have hRest : before.rest = after.rest := h.rest
  rw [h.after_eq, List.append_nil, ← hRest]

/-- A cursor that passes over two strings passes over the one and then the other. -/
theorem split (h : before.Passes (front ++ back) after) :
    ∃ middle, before.Passes front middle ∧ middle.Passes back after :=
  ⟨⟨before.past ++ front, back ++ after.rest⟩, ⟨by simpa using h.rest, rfl⟩, ⟨rfl, by simpa using h.past⟩⟩

end Passes

theorem passes_append (past front suffix : Bytes) :
    (⟨past, front ++ suffix⟩ : InputChannel).Passes front ⟨past ++ front, suffix⟩ :=
  ⟨rfl, rfl⟩

theorem passes_advanceTo {input : InputChannel} {front rest : Bytes} (h : input.rest = front ++ rest) :
    input.Passes front (input.advanceTo rest) where
  rest := h
  past := by simp [advanceTo, h]

/-! ## Reading -/

section

variable {before after : InputChannel} {front : Bytes} {n : Nat}

/-- As many raw bytes as there are can be read. -/
theorem Passes.readRaw_outcome (h : before.Passes front after) (hLength : front.length = n) :
    (readRaw n).outcome before = (.ok front, after) := by
  rw [h.after_eq]
  simp [Action.outcome, readRaw, h.rest, hLength]

/-- Bytes that are there can be passed over. -/
theorem Passes.skip_outcome (h : before.Passes front after) (hLength : front.length = n) :
    (skip n).outcome before = (.ok (), after) :=
  Action.bind_ok_iff.mpr ⟨front, after, h.readRaw_outcome hLength, rfl⟩

theorem Passes.move_outcome (h : before.Passes front after) (hLength : front.length = n) (out : OutputChannel) :
    (OutputChannel.move n).outcome (before, out) = (.ok (), (after, out.appended front)) := by
  rw [h.after_eq]
  simp [Action.outcome, OutputChannel.move, h.rest, hLength]

variable {codec : Codec α} {v : α}

/-- A value that makes the round trip is read from in front of its bytes, into any target. -/
theorem Passes.readInto_outcome (h : before.Passes front after) (hTrips : codec.Trips v front)
    (hLength : before.available ≤ Bytes.longest) (target : α) :
    (readInto codec).outcome (target, before) = (.ok (), (v, after)) := by
  rw [InputChannel.available, h.rest] at hLength
  rw [h.after_eq]
  simp [Action.outcome, readInto, h.rest, hTrips.decode target after.rest hLength, advanceTo]

theorem Passes.read_outcome (h : before.Passes front after) (hTrips : codec.Trips v front)
    (hLength : before.available ≤ Bytes.longest) : (read codec).outcome before = (.ok v, after) := by
  rw [InputChannel.available, h.rest] at hLength
  rw [h.after_eq]
  simp [Action.outcome, read, h.rest, hTrips.decode codec.blank after.rest hLength, advanceTo]

end

/-- Raw bytes are taken if there are enough of them; otherwise the cursor stays. -/
theorem readRaw_cases (n : Nat) (input : InputChannel) :
    (∃ front after, input.Passes front after ∧ front.length = n ∧
      (readRaw n).outcome input = (.ok front, after)) ∨
    (readRaw n).outcome input = (.error .shortage, input) := by
  simp only [Action.outcome, readRaw]
  cases hSplit : Codec.splitFront n input.rest with
  | none => exact .inr rfl
  | some pair =>
      obtain ⟨front, rest⟩ := pair
      obtain ⟨hRest, hFront⟩ := Codec.splitFront_eq_some hSplit
      exact .inl ⟨front, ⟨input.past ++ front, rest⟩, ⟨hRest, rfl⟩, hFront, rfl⟩

/-- Bytes are passed over if there are enough of them; otherwise the cursor stays. -/
theorem skip_cases (n : Nat) (input : InputChannel) :
    (∃ front after, input.Passes front after ∧ front.length = n ∧
      (skip n).outcome input = (.ok (), after)) ∨
    (skip n).outcome input = (.error .shortage, input) := by
  rcases readRaw_cases n input with ⟨front, after, hPasses, hFront, hOutcome⟩ | hOutcome
  · exact .inl ⟨front, after, hPasses, hFront, Action.bind_ok_iff.mpr ⟨front, after, hOutcome, rfl⟩⟩
  · right
    rw [skip, Action.outcome_bind, hOutcome]

section

variable {codec : Codec α} {layout : Layout α} (hReads : codec.Reads layout)

include hReads

/-- A value is read from bytes that spell it, or the cursor stays, whatever became of the target. -/
theorem readInto_cases (target : α) (input : InputChannel) :
    (∃ front v after, input.Passes front after ∧ layout front v ∧
      (readInto codec).outcome (target, input) = (.ok (), (v, after))) ∨
    ∃ failure v, (readInto codec).outcome (target, input) = (.error failure, (v, input)) := by
  simp only [Action.outcome, readInto]
  cases hStop : (codec.decode target input.rest).stop with
  | some stop => exact .inr ⟨failureOf stop, _, rfl⟩
  | none =>
      obtain ⟨front, hRest, hLayout⟩ := hReads.sound target input.rest hStop
      exact .inl ⟨front, _, _, passes_advanceTo hRest, hLayout, rfl⟩

/-- A value is read as into a fresh target. -/
theorem read_cases (input : InputChannel) :
    (∃ front v after, input.Passes front after ∧ layout front v ∧
      (read codec).outcome input = (.ok v, after)) ∨
    ∃ failure, (read codec).outcome input = (.error failure, input) := by
  simp only [Action.outcome, read]
  cases hStop : (codec.decode codec.blank input.rest).stop with
  | some stop => exact .inr ⟨failureOf stop, rfl⟩
  | none =>
      obtain ⟨front, hRest, hLayout⟩ := hReads.sound codec.blank input.rest hStop
      exact .inl ⟨front, _, _, passes_advanceTo hRest, hLayout, rfl⟩

end

end InputChannel

namespace OutputChannel

/-- Zeros are written all together or not at all. -/
theorem skip_cases (n : Nat) (out : OutputChannel) :
    (skip n).outcome out = (.ok (), out.appended (Bytes.zeros n)) ∨
    ∃ failure, (skip n).outcome out = (.error failure, out) := by
  simp only [Action.outcome, skip]
  by_cases hLonger : capacity - out.size < n
  · exact .inr ⟨_, if_pos hLonger⟩
  · rw [if_neg hLonger]
    by_cases hMemory : Bytes.mostMemory < n
    · exact .inr ⟨_, if_pos hMemory⟩
    · exact .inl (if_neg hMemory)

end OutputChannel

end SerializerContract
