import SerializerContract.Channel.Buffer
import SerializerContract.Proofs.Channel.Cursor

/-! Input channels in memory stand for cursors. As long as the number of bytes read is no greater than the number
of bytes there are, none of the differences wraps around, every operation does what it does to the cursor, and
again no more bytes were read than there are. -/
namespace SerializerContract

namespace Action

variable {σ τ ρ α β : Type} {valid : σ → Prop} {view : σ → τ}

/-- From a valid state, an action does what another one does to what the state stands for, and its state is valid
again. -/
def Refines (valid : σ → Prop) (view : σ → τ) (action : Action σ α) (spec : Action τ α) : Prop :=
  ∀ state, valid state →
    spec.outcome (view state) = ((action.outcome state).1, view (action.outcome state).2) ∧
      valid (action.outcome state).2

theorem Refines.pure (a : α) : Refines valid view (Pure.pure a) (Pure.pure a) := fun _ h => ⟨rfl, h⟩

/-- Actions that refine others one by one refine them in a sequence. -/
theorem Refines.bind {first : Action σ α} {next : α → Action σ β} {firstSpec : Action τ α} {nextSpec : α → Action τ β}
    (hFirst : Refines valid view first firstSpec) (hNext : ∀ a, Refines valid view (next a) (nextSpec a)) :
    Refines valid view (first >>= next) (firstSpec >>= nextSpec) := by
  intro state h
  obtain ⟨hOutcome, hMiddle⟩ := hFirst state h
  rw [outcome_bind, outcome_bind, hOutcome]
  rcases hRun : first.outcome state with ⟨failure | a, middle⟩
  · rw [hRun] at hMiddle
    exact ⟨rfl, hMiddle⟩
  · rw [hRun] at hMiddle
    exact hNext a middle hMiddle

/-- Beside a state that nothing is asked of. -/
theorem Refines.onFirst {action : Action σ α} {spec : Action τ α} (h : Refines valid view action spec) :
    Refines (fun state : σ × ρ => valid state.1) (Prod.map view id) action.onFirst spec.onFirst := by
  intro state hState
  obtain ⟨hOutcome, hLast⟩ := h state.1 hState
  refine ⟨?_, hLast⟩
  rw [Prod.map, onFirst_outcome, onFirst_outcome, hOutcome]
  rfl

/-- An action on what is beside the state is the same on both sides. -/
theorem Refines.onSecond (action : Action ρ α) :
    Refines (fun state : σ × ρ => valid state.1) (Prod.map view id) action.onSecond action.onSecond :=
  fun _ hState => ⟨rfl, hState⟩

/-- A local state is the same on both sides. -/
theorem Refines.withLocal {init : ρ} {action : Action (ρ × σ) α} {spec : Action (ρ × τ) α}
    (h : Refines (fun state => valid state.2) (Prod.map id view) action spec) :
    Refines valid view (action.withLocal init) (spec.withLocal init) := by
  intro state hState
  obtain ⟨hOutcome, hLast⟩ := h (init, state) hState
  refine ⟨?_, hLast⟩
  change spec.outcome (init, view state) = _ at hOutcome
  rw [withLocal_outcome, withLocal_outcome, hOutcome]
  rfl

end Action

namespace InputBuffer

variable {α : Type} {input : InputBuffer} {front rest : Bytes} {n : Nat}

/-- The bytes fit into memory, and the cursor is not behind their end. -/
structure Sound (input : InputBuffer) : Prop where
  memory : input.buffer.length ≤ Bytes.mostMemory
  within : input.offset.toNat ≤ input.buffer.length

/-- The cursor of a channel, between the bytes that were read and the others. -/
def cursor (input : InputBuffer) : InputChannel := ⟨input.buffer.take input.offset.toNat, input.rest⟩

/-- A channel with this cursor. -/
def ofCursor (cursor : InputChannel) : InputBuffer := ⟨cursor.bytes, BitVec.ofNat 64 cursor.position⟩

@[simp] theorem cursor_rest (input : InputBuffer) : input.cursor.rest = input.rest := rfl

/-- The bytes on both sides of the cursor are all that the channel has. -/
@[simp] theorem cursor_bytes (input : InputBuffer) : input.cursor.bytes = input.buffer :=
  List.take_append_drop input.offset.toNat input.buffer

theorem load_of_fits {bytes : Bytes} (h : bytes.length ≤ Bytes.mostMemory) : load bytes = .ok ⟨bytes, 0⟩ :=
  if_neg (Nat.not_lt.mpr h)

theorem sound_of_fits {bytes : Bytes} (h : bytes.length ≤ Bytes.mostMemory) : Sound ⟨bytes, 0⟩ := ⟨h, Nat.zero_le _⟩

/-- Memory has far fewer bytes than a number of 64 bits can count. -/
theorem mostMemory_lt : Bytes.mostMemory < 0x10000000000000000 := by decide

namespace Sound

variable (h : input.Sound)

include h

/-- The number of bytes is not cut to 64 bits. -/
theorem toNat_size : input.size.toNat = input.buffer.length := by
  rw [size, BitVec.toNat_ofNat]
  exact Nat.mod_eq_of_lt (Nat.lt_of_le_of_lt h.memory mostMemory_lt)

/-- What is left is found without wrapping around. -/
theorem toNat_available : input.available.toNat = input.buffer.length - input.offset.toNat := by
  have hSize := h.toNat_size
  have hMemory := h.memory
  have hWithin := h.within
  rw [available, BitVec.toNat_sub, hSize]
  have := mostMemory_lt
  omega

/-- As many bytes are left as the channel says. -/
theorem length_rest : input.rest.length = input.available.toNat := by
  rw [h.toNat_available, rest, List.length_drop]

/-- As many bytes were read as the channel says. -/
theorem cursor_position : input.cursor.position = input.position.toNat := by
  rw [InputChannel.position, cursor, position, List.length_take]
  exact Nat.min_eq_left h.within

/-- A channel is known by its cursor. -/
theorem ofCursor_cursor : ofCursor input.cursor = input := by
  rw [ofCursor, cursor_bytes, h.cursor_position, position, BitVec.ofNat_toNat, BitVec.setWidth_eq]

/-- The channel with its cursor behind the next bytes is sound again, and stands for just that. -/
theorem advance (hRest : input.rest = front ++ rest) {offset : BitVec 64}
    (hOffset : offset.toNat = input.offset.toNat + front.length) :
    Sound { input with offset } ∧
      cursor { input with offset } = ⟨input.cursor.past ++ front, rest⟩ := by
  have hBuffer : input.buffer = input.buffer.take input.offset.toNat ++ (front ++ rest) := by
    rw [← hRest, InputBuffer.rest, List.take_append_drop]
  have hPast : (input.buffer.take input.offset.toNat).length = input.offset.toNat := h.cursor_position
  have hLength := congrArg List.length hBuffer
  rw [List.length_append, List.length_append, hPast] at hLength
  have hFront : (input.buffer.take input.offset.toNat ++ front).length = offset.toNat := by
    rw [List.length_append, hPast, hOffset]
  refine ⟨⟨h.memory, ?_⟩, ?_⟩
  · show offset.toNat ≤ input.buffer.length
    omega
  · rw [← List.append_assoc] at hBuffer
    have hTake : input.buffer.take offset.toNat = input.buffer.take input.offset.toNat ++ front := by
      rw [← hFront]
      exact (congrArg (List.take _) hBuffer).trans List.take_left
    have hDrop : input.buffer.drop offset.toNat = rest := by
      rw [← hFront]
      exact (congrArg (List.drop _) hBuffer).trans List.drop_left
    simp only [cursor, InputBuffer.rest, hTake, hDrop]

end Sound

/-! ## Operations -/

/-- An operation on channels in memory does what another one does to cursors. -/
abbrev Refines (action : Action InputBuffer α) (spec : Action InputChannel α) : Prop :=
  Action.Refines Sound cursor action spec

/-- Taking bytes moves the offset to where it moves the cursor, whatever number of them is asked for. -/
theorem consume_refines (n : Nat) : Refines (consume n) (InputChannel.readRaw n) := by
  intro input h
  have hRest := h.length_rest
  by_cases hShort : input.available.toNat < n
  · have hSplit : Codec.splitFront n input.rest = none := Codec.splitFront_of_lt (hRest ▸ hShort)
    simp [Action.outcome, consume, InputChannel.readRaw, hShort, hSplit, h]
  · have hFront : (input.rest.take n).length = n := by
      rw [List.length_take]
      omega
    have hParts : input.rest = input.rest.take n ++ input.rest.drop n := (List.take_append_drop n _).symm
    have hSplit : Codec.splitFront n input.rest = some (input.rest.take n, input.rest.drop n) :=
      (congrArg (Codec.splitFront n) hParts).trans (Codec.splitFront_append hFront _)
    have hOffset : (input.offset + BitVec.ofNat 64 n).toNat = input.offset.toNat + (input.rest.take n).length := by
      -- any number may be asked for, but one that got past the check leads to a place within the buffer
      have hAvailable := h.toNat_available
      have hMemory := Nat.lt_of_le_of_lt h.memory mostMemory_lt
      rw [hFront, BitVec.toNat_add, BitVec.toNat_ofNat]
      omega
    obtain ⟨hSound, hCursor⟩ := h.advance hParts hOffset
    simp [Action.outcome, consume, InputChannel.readRaw, hShort, hSplit, hSound, hCursor]

/-- Passing over bytes is taking them. -/
theorem skip_refines (n : Nat) : Refines (skip n) (InputChannel.skip n) :=
  (consume_refines n).bind fun _ => .pure ()

/-- A cursor reads a value as into a fresh target. -/
theorem read_eq_withLocal (codec : Codec α) : InputChannel.read codec = (do
    let ((), v) ← Action.withLocal codec.blank (InputChannel.readInto codec)
    return v) := by
  funext cursor
  change (InputChannel.read codec).outcome cursor = Action.outcome _ cursor
  rw [Action.outcome_bind, Action.withLocal_outcome]
  simp only [Action.outcome, InputChannel.read, InputChannel.readInto]
  cases (codec.decode codec.blank cursor.rest).stop <;> rfl

section

variable {codec : Codec α} {layout : Layout α} (hReads : codec.Reads layout)

include hReads

/-- A value that is read to its end moves the offset behind its bytes, counted from the end of the buffer. -/
theorem readInto_refines : Action.Refines (fun state : α × InputBuffer => state.2.Sound) (Prod.map id cursor)
    (readInto codec) (InputChannel.readInto codec) := by
  rintro ⟨target, input⟩ h
  change input.Sound at h
  cases hStop : (codec.decode target input.rest).stop with
  | some stop => simp [Action.outcome, readInto, InputChannel.readInto, hStop, h]
  | none =>
      obtain ⟨front, hRest, -⟩ := hReads.sound target input.rest hStop
      have hOffset : (input.size - BitVec.ofNat 64 (codec.decode target input.rest).rest.length).toNat =
          input.offset.toNat + front.length := by
        have hLength := congrArg List.length hRest
        rw [List.length_append, h.length_rest, h.toNat_available] at hLength
        have hWithin := h.within
        have hMemory := Nat.lt_of_le_of_lt h.memory mostMemory_lt
        rw [BitVec.toNat_sub, h.toNat_size, BitVec.toNat_ofNat]
        omega
      obtain ⟨hSound, hCursor⟩ := h.advance hRest hOffset
      have hPasses : input.cursor.Passes front (input.cursor.advanceTo (codec.decode target input.rest).rest) :=
        InputChannel.passes_advanceTo hRest
      have hAdvanced : input.cursor.advanceTo (codec.decode target input.rest).rest =
          ⟨input.cursor.past ++ front, (codec.decode target input.rest).rest⟩ := hPasses.after_eq
      simp [Action.outcome, readInto, InputChannel.readInto, hStop, hSound, hCursor, hAdvanced]

/-- Reading into a fresh target does what it does to the cursor. -/
theorem read_refines : Refines (read codec) (InputChannel.read codec) := by
  rw [Refines, read_eq_withLocal]
  exact (readInto_refines hReads).withLocal.bind fun _ => .pure _

end

end InputBuffer

end SerializerContract
