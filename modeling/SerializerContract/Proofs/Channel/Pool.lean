import SerializerContract.Channel.Pool
import SerializerContract.Proofs.Channel.Cursor
import SerializerContract.Proofs.ValueType.Layout

/-! One operation on the channels of a pool. An operation that reads takes bytes in front of one cursor and moves
the cursor over just these; it shows them, and only a move adds them to an output channel. If it fails it takes
nothing, unless there is no room for what it moves. -/
namespace SerializerContract

namespace Channels

variable {ι κ : Type}

/-- Bytes added behind what an output channel has. -/
def appendTo (pool : Channels ι) (o : Nat) (bytes : Bytes) : Channels ι :=
  pool.setOutput o ((pool.output o).appended bytes)

/-- The pool after some operations, whether they succeed or fail. -/
def after [InputCursor ι] (format : Format) (pool : Channels ι) (ops : List ChannelOperation) : Channels ι :=
  ops.foldl (fun pool op => (pool.perform format op).pool) pool

end Channels

namespace ChannelOperation

variable {ι : Type}

/-- The input channel that an operation reads from. -/
def source : ChannelOperation → Option Nat
  | .move i _ _ => some i
  | .read i _ _ => some i
  | .readInto i _ _ _ => some i
  | .readRaw i _ => some i
  | .skipRead i _ => some i
  | _ => none

/-- The operation gives other bytes to the input channel `i`. -/
def Loads (i : Nat) : ChannelOperation → Prop
  | .setBuffer j _ => j = i
  | .setBufferFrom j _ => j = i
  | _ => False

/-- What an operation that reads shows of the bytes it takes: so many raw bytes, or the value they spell. -/
def Shows (format : Format) (front : Bytes) (sight : ChannelSight) : ChannelOperation → Prop
  | .move _ _ n => front.length = n ∧ sight = .nothing
  | .read _ t _ => ∃ v, t.layout format front v ∧ sight = .value ⟨t, v⟩
  | .readInto _ t _ _ => ∃ v, t.layout format front v ∧ sight = .value ⟨t, v⟩
  | .readRaw _ n => front.length = n ∧ sight = .raw front
  | .skipRead _ n => front.length = n ∧ sight = .nothing
  | _ => False

/-- The operation writes a value, of which a part is left behind if the rest cannot be written. -/
def Encodes : ChannelOperation → Prop
  | .write _ _ _ _ => True
  | _ => False

/-- Where the bytes go that an operation takes: those that are moved are added to an output channel. -/
def deliver (front : Bytes) (pool : Channels ι) : ChannelOperation → Channels ι
  | .move _ o _ => pool.appendTo o front
  | _ => pool

/-- There is room for what is moved. -/
def HasRoom (pool : Channels ι) : ChannelOperation → Prop
  | .move _ o n => (pool.output o).size + n ≤ Bytes.mostMemory
  | _ => True

end ChannelOperation

namespace Channels

variable {ι : Type} [InputCursor ι] {format : Format} {pool : Channels ι} {op : ChannelOperation} {i j o : Nat}
  {channel : ι}

/-- A channel that is put in its own place changes nothing. -/
@[simp] theorem setInput_input (pool : Channels ι) (i : Nat) : pool.setInput i (pool.input i) = pool := by
  by_cases h : i < pool.inputs.length
  · simp [setInput, input, h]
  · simp [setInput, List.set_eq_of_length_le (Nat.not_lt.mp h)]

omit [InputCursor ι] in
@[simp] theorem setOutput_output (pool : Channels ι) (o : Nat) : pool.setOutput o (pool.output o) = pool := by
  by_cases h : o < pool.outputs.length
  · simp [setOutput, output, h]
  · simp [setOutput, List.set_eq_of_length_le (Nat.not_lt.mp h)]

theorem input_setInput_self (h : i < pool.inputs.length) : (pool.setInput i channel).input i = channel := by
  simp [setInput, input, h]

theorem input_setInput_of_ne (h : i ≠ j) : (pool.setInput i channel).input j = pool.input j := by
  simp [setInput, input, List.getElem?_set_ne h]

theorem input_addInput_of_lt (h : i < pool.inputs.length) :
    (pool.addInput channel).input i = pool.input i := by
  simp [addInput, input, List.getElem?_append_left h]

@[simp] theorem input_addInput_self (pool : Channels ι) (channel : ι) :
    (pool.addInput channel).input pool.inputs.length = channel := by
  simp [addInput, input]

/-- What is moved to an output channel changes no input channel. -/
@[simp] theorem input_deliver (op : ChannelOperation) (front : Bytes) (pool : Channels ι) (i : Nat) :
    (op.deliver front pool).input i = pool.input i := by
  cases op <;> rfl

/-- An operation on an input channel shows its result. -/
theorem onInput_of_ok {α : Type} {action : Action ι α} {a : α} (sight : α → ChannelSight)
    (h : action.outcome (pool.input i) = (.ok a, channel)) :
    pool.onInput i action sight = ⟨sight a, none, pool.setInput i channel⟩ := by
  simp [onInput, h, failureOf]

/-- An operation on an input channel that fails shows nothing. -/
theorem onInput_of_error {α : Type} {action : Action ι α} {failure : Failure}
    (sight : α → ChannelSight) (h : action.outcome (pool.input i) = (.error failure, channel)) :
    pool.onInput i action sight = ⟨.nothing, some failure, pool.setInput i channel⟩ := by
  simp [onInput, h, failureOf]

/-- Bytes are loaded in their place, or nothing changes. -/
theorem pool_of_loading (pool : Channels ι) (bytes : Bytes) (place : ι → Channels ι) :
    (pool.loading bytes place).pool = pool ∨ ∃ channel, (pool.loading bytes place).pool = place channel := by
  rw [loading]
  split
  · exact .inl rfl
  · exact .inr ⟨_, rfl⟩

/-- Bytes that cannot be loaded leave all channels as they are. -/
theorem pool_of_loading_fails {bytes : Bytes} {place : ι → Channels ι}
    (h : (pool.loading bytes place).failure ≠ none) : (pool.loading bytes place).pool = pool := by
  rw [loading] at h ⊢
  split at h
  · rfl
  · exact absurd rfl h

theorem length_loading_le {bytes : Bytes} {place : ι → Channels ι}
    (h : ∀ channel, pool.inputs.length ≤ (place channel).inputs.length) :
    pool.inputs.length ≤ (pool.loading bytes place).pool.inputs.length := by
  rcases pool_of_loading pool bytes place with hPool | ⟨channel, hPool⟩
  · exact Nat.le_of_eq (congrArg (fun pool => pool.inputs.length) hPool.symm)
  · exact hPool ▸ h channel

/-- A load into another place leaves a channel as it is. -/
theorem input_loading {bytes : Bytes} {place : ι → Channels ι} (h : ∀ channel, (place channel).input i = pool.input i) :
    (pool.loading bytes place).pool.input i = pool.input i := by
  rcases pool_of_loading pool bytes place with hPool | ⟨channel, hPool⟩
  · rw [hPool]
  · rw [hPool, h channel]

/-- Operations make input channels, and never take one away. -/
theorem length_inputs_le (format : Format) (pool : Channels ι) (op : ChannelOperation) :
    pool.inputs.length ≤ (pool.perform format op).pool.inputs.length := by
  have hAdded (channel : ι) : pool.inputs.length ≤ (pool.addInput channel).inputs.length := by simp [addInput]
  have hSet (j : Nat) (channel : ι) : pool.inputs.length ≤ (pool.setInput j channel).inputs.length := by
    simp [setInput]
  cases op with
  | newOutput capacity =>
      rw [perform]
      split <;> exact Nat.le_refl _
  | newInput bytes => exact length_loading_le hAdded
  | view o => exact length_loading_le hAdded
  | setBuffer j bytes => exact length_loading_le (hSet j)
  | setBufferFrom j o => exact length_loading_le (hSet j)
  | _ => simp [perform, onInput, onOutput, setInput, setOutput]

/-- An operation that reads from no channel leaves the input channels, but for one that it loads. -/
theorem input_of_source_none (h : op.source = none) (hKept : ¬ op.Loads i) (hIndex : i < pool.inputs.length) :
    (pool.perform format op).pool.input i = pool.input i := by
  cases op with
  | newOutput capacity =>
      rw [perform]
      split <;> rfl
  | newInput bytes => exact input_loading fun channel => input_addInput_of_lt hIndex
  | view o => exact input_loading fun channel => input_addInput_of_lt hIndex
  | setBuffer j bytes => exact input_loading fun channel => input_setInput_of_ne hKept
  | setBufferFrom j o => exact input_loading fun channel => input_setInput_of_ne hKept
  | write o t hSerializable v => rfl
  | writeRaw o bytes => rfl
  | skipWrite o n => rfl
  | clear o => rfl
  | _ => cases h

/-- Zeros that cannot be written are not written in part. -/
theorem pool_of_skipWrite_fails {n : Nat} (h : (pool.perform format (.skipWrite o n)).failure ≠ none) :
    (pool.perform format (.skipWrite o n)).pool = pool := by
  simp only [perform, onOutput] at h ⊢
  rcases OutputChannel.skip_cases n (pool.output o) with hOutcome | ⟨failure, hOutcome⟩
  · simp [hOutcome, failureOf] at h
  · simp [hOutcome]

/-- An operation that reads from no channel and fails changes no channel, unless it was writing a value. -/
theorem pool_of_source_none_fails (h : op.source = none) (hOther : ¬ op.Encodes)
    (hFailure : (pool.perform format op).failure ≠ none) : (pool.perform format op).pool = pool := by
  cases op with
  | newOutput capacity =>
      rw [perform] at hFailure ⊢
      split at hFailure
      · rfl
      · exact absurd rfl hFailure
  | newInput bytes => exact pool_of_loading_fails hFailure
  | view o => exact pool_of_loading_fails hFailure
  | setBuffer j bytes => exact pool_of_loading_fails hFailure
  | setBufferFrom j o => exact pool_of_loading_fails hFailure
  | skipWrite o n => exact pool_of_skipWrite_fails hFailure
  | write o t hSerializable v => exact absurd trivial hOther
  | writeRaw o bytes => exact absurd rfl hFailure
  | clear o => exact absurd rfl hFailure
  | _ => cases h

end Channels

/-! ## Moving -/

namespace OutputChannel

variable {out : OutputChannel} {bytes : Bytes}

/-- Bytes for which there is room are added. -/
theorem insert_of_room (h : out.size + bytes.length ≤ Bytes.mostMemory) :
    (insert bytes).outcome out = (.ok (), out.appended bytes) := by
  have hCapacity : ¬ capacity - out.size < bytes.length := by
    unfold Bytes.mostMemory at h
    unfold capacity Bytes.longest
    omega
  simp [Action.outcome, insert, hCapacity, Nat.not_lt.mpr h]

/-- Bytes for which there is no room are not added, not even in part. -/
theorem insert_of_crowded (h : ¬ out.size + bytes.length ≤ Bytes.mostMemory) :
    ∃ failure, (insert bytes).outcome out = (.error failure, out) := by
  simp only [Action.outcome, insert]
  split
  · exact ⟨_, rfl⟩
  · exact ⟨_, if_pos (Nat.not_le.mp h)⟩

end OutputChannel

namespace InputCursor

variable {ι : Type} [InputCursor ι] {n : Nat} {before after : ι}

/-- If the bytes cannot be taken, nothing goes anywhere. -/
theorem move_of_error {failure : Failure} (h : (readRaw n).outcome before = (.error failure, after))
    (out : OutputChannel) : (move n).outcome (before, out) = (.error failure, (after, out)) := by
  rw [move, Action.outcome_bind, Action.onFirst_outcome, h]

/-- What was taken is added, or it is lost. -/
theorem move_of_ok {front : Bytes} (h : (readRaw n).outcome before = (.ok front, after)) (out : OutputChannel) :
    (move n).outcome (before, out) =
      (((OutputChannel.insert front).outcome out).1, (after, ((OutputChannel.insert front).outcome out).2)) := by
  rw [move, Action.outcome_bind, Action.onFirst_outcome, h]
  rfl

end InputCursor

/-! ## Reading -/

namespace Channels

section

variable {ι : Type} [InputCursor ι] {Passes : ι → Bytes → ι → Prop} {format : Format} {pool : Channels ι}
  {op : ChannelOperation} {i j : Nat} {outcome : Outcome ι}

/-- What an operation that reads from the input channel `i` comes to, where `Passes` says how its cursor passes
over bytes. -/
inductive Reading (Passes : ι → Bytes → ι → Prop) (format : Format) (pool : Channels ι) (op : ChannelOperation)
    (i : Nat) : Outcome ι → Prop where
  | taken {front : Bytes} {channel : ι} {sight : ChannelSight} (passes : Passes (pool.input i) front channel)
      (shows : op.Shows format front sight) (room : op.HasRoom pool) :
      Reading Passes format pool op i ⟨sight, none, op.deliver front (pool.setInput i channel)⟩
  /-- The bytes were taken, but there is no room for them where they go. -/
  | lost {front : Bytes} {channel : ι} (failure : Failure) (passes : Passes (pool.input i) front channel)
      (shows : op.Shows format front .nothing) (crowded : ¬ op.HasRoom pool) :
      Reading Passes format pool op i ⟨.nothing, some failure, pool.setInput i channel⟩
  | refused (sight : ChannelSight) (failure : Failure) :
      Reading Passes format pool op i ⟨sight, some failure, pool⟩

/-- A success has taken bytes, shown them, and put them where they go. -/
theorem Reading.taken_of_success (h : Reading Passes format pool op i outcome) (hSuccess : outcome.failure = none) :
    ∃ front channel, Passes (pool.input i) front channel ∧ op.Shows format front outcome.sight ∧
      op.HasRoom pool ∧ outcome.pool = op.deliver front (pool.setInput i channel) := by
  cases h with
  | taken hPasses hShows hRoom => exact ⟨_, _, hPasses, hShows, hRoom, rfl⟩
  | lost failure hPasses hShows hCrowded => cases hSuccess
  | refused sight failure => cases hSuccess

/-- A failure changes nothing, unless what was taken had no room. -/
theorem Reading.pool_of_failure (h : Reading Passes format pool op i outcome) (hFailure : outcome.failure ≠ none) :
    outcome.pool = pool ∨ ¬ op.HasRoom pool ∧ ∃ front channel, Passes (pool.input i) front channel ∧
      op.Shows format front .nothing ∧ outcome.pool = pool.setInput i channel := by
  cases h with
  | taken hPasses hShows hRoom => exact absurd rfl hFailure
  | lost failure hPasses hShows hCrowded => exact .inr ⟨hCrowded, _, _, hPasses, hShows, rfl⟩
  | refused sight failure => exact .inl rfl

/-- An operation that reads from some channel moves only its cursor, and only forward. -/
theorem Reading.passes_input (h : Reading Passes format pool op j outcome)
    (hRefl : ∀ channel, Passes channel [] channel) (hIndex : i < pool.inputs.length) :
    ∃ front, Passes (pool.input i) front (outcome.pool.input i) := by
  have hMoved {front : Bytes} {channel : ι} (hPasses : Passes (pool.input j) front channel) :
      ∃ front, Passes (pool.input i) front ((pool.setInput j channel).input i) := by
    by_cases hSame : j = i
    · subst hSame
      exact ⟨front, by rwa [input_setInput_self hIndex]⟩
    · exact ⟨[], by rw [input_setInput_of_ne hSame]; exact hRefl _⟩
  cases h with
  | taken hPasses hShows hRoom =>
      rw [input_deliver]
      exact hMoved hPasses
  | lost failure hPasses hShows hCrowded => exact hMoved hPasses
  | refused sight failure => exact ⟨[], hRefl _⟩

end

/-! ## Cursors -/

section

variable {α : Type} (codec : Codec α) (n : Nat)

@[simp] theorem cursor_read : (InputCursor.read codec : Action InputChannel α) = InputChannel.read codec := rfl

@[simp] theorem cursor_readInto :
    (InputCursor.readInto codec : Action (α × InputChannel) Unit) = InputChannel.readInto codec := rfl

@[simp] theorem cursor_readRaw : (InputCursor.readRaw n : Action InputChannel Bytes) = InputChannel.readRaw n := rfl

@[simp] theorem cursor_skip : (InputCursor.skip n : Action InputChannel Unit) = InputChannel.skip n := rfl

/-- As long as there is room, a move between channels is the move that a raw copy makes. -/
theorem cursor_move_of_room (input : InputChannel) {out : OutputChannel}
    (hRoom : out.size + n ≤ Bytes.mostMemory) :
    (InputCursor.move n).outcome (input, out) = (OutputChannel.move n).outcome (input, out) := by
  cases hSplit : Codec.splitFront n input.rest with
  | none =>
      have hRead : (InputCursor.readRaw n).outcome input = (.error .shortage, input) := by
        simp only [Action.outcome, cursor_readRaw, InputChannel.readRaw, hSplit]
      rw [InputCursor.move_of_error hRead]
      simp only [Action.outcome, OutputChannel.move, hSplit]
  | some pair =>
      obtain ⟨front, rest⟩ := pair
      obtain ⟨-, hFront⟩ := Codec.splitFront_eq_some hSplit
      have hRead : (InputCursor.readRaw n).outcome input = (.ok front, ⟨input.past ++ front, rest⟩) := by
        simp only [Action.outcome, cursor_readRaw, InputChannel.readRaw, hSplit]
      rw [InputCursor.move_of_ok hRead, OutputChannel.insert_of_room (hFront ▸ hRoom)]
      simp only [Action.outcome, OutputChannel.move, hSplit]

end

variable {format : Format} {op : ChannelOperation} {i : Nat}

/-- A move takes bytes and adds them, or loses them, or is refused. -/
theorem move_reading (format : Format) (pool : ChannelPool) (i o n : Nat) :
    Reading InputChannel.Passes format pool (.move i o n) i (pool.perform format (.move i o n)) := by
  rcases InputChannel.readRaw_cases n (pool.input i) with ⟨front, channel, hPasses, rfl, hOutcome⟩ | hOutcome
  · have hMove := InputCursor.move_of_ok hOutcome (pool.output o)
    by_cases hRoom : (pool.output o).size + front.length ≤ Bytes.mostMemory
    · rw [OutputChannel.insert_of_room hRoom] at hMove
      simp only [perform, hMove]
      exact .taken hPasses ⟨rfl, rfl⟩ hRoom
    · obtain ⟨failure, hInsert⟩ := OutputChannel.insert_of_crowded hRoom
      have hLost : Reading InputChannel.Passes format pool (.move i o front.length) i
          ⟨.nothing, some failure, pool.setInput i channel⟩ := .lost failure hPasses ⟨rfl, rfl⟩ hRoom
      have hOutput := setOutput_output (pool.setInput i channel) o
      rw [hInsert] at hMove
      simp only [perform, hMove]
      exact hOutput.symm ▸ hLost
  · have hMove := InputCursor.move_of_error hOutcome (pool.output o)
    simpa [perform, hMove, failureOf] using Reading.refused .nothing .shortage

/-- An operation on the cursors of a pool takes bytes and shows them, or it is refused. -/
theorem perform_reading (format : Format) (pool : ChannelPool) (h : op.source = some i) :
    Reading InputChannel.Passes format pool op i (pool.perform format op) := by
  cases op with
  | move j o n =>
      obtain rfl : j = i := Option.some.inj h
      exact move_reading format pool j o n
  | read j t hSerializable =>
      obtain rfl : j = i := Option.some.inj h
      rcases InputChannel.read_cases (t.codec_reads format hSerializable) (pool.input j) with
        ⟨front, v, channel, hPasses, hLayout, hOutcome⟩ | ⟨failure, hOutcome⟩
      · rw [perform, cursor_read, onInput_of_ok _ hOutcome]
        exact .taken hPasses ⟨v, hLayout, rfl⟩ trivial
      · rw [perform, cursor_read, onInput_of_error _ hOutcome, setInput_input]
        exact .refused _ failure
  | readInto j t hSerializable target =>
      obtain rfl : j = i := Option.some.inj h
      rcases InputChannel.readInto_cases (t.codec_reads format hSerializable) target (pool.input j) with
        ⟨front, v, channel, hPasses, hLayout, hOutcome⟩ | ⟨failure, v, hOutcome⟩
      · simp only [perform, cursor_readInto, hOutcome]
        exact .taken hPasses ⟨v, hLayout, rfl⟩ trivial
      · simpa [perform, hOutcome, failureOf] using Reading.refused (.value ⟨t, v⟩) failure
  | readRaw j n =>
      obtain rfl : j = i := Option.some.inj h
      rcases InputChannel.readRaw_cases n (pool.input j) with
        ⟨front, channel, hPasses, hFront, hOutcome⟩ | hOutcome
      · rw [perform, cursor_readRaw, onInput_of_ok _ hOutcome]
        exact .taken hPasses ⟨hFront, rfl⟩ trivial
      · rw [perform, cursor_readRaw, onInput_of_error _ hOutcome, setInput_input]
        exact .refused _ _
  | skipRead j n =>
      obtain rfl : j = i := Option.some.inj h
      rcases InputChannel.skip_cases n (pool.input j) with
        ⟨front, channel, hPasses, hFront, hOutcome⟩ | hOutcome
      · rw [perform, cursor_skip, onInput_of_ok _ hOutcome]
        exact .taken hPasses ⟨hFront, rfl⟩ trivial
      · rw [perform, cursor_skip, onInput_of_error _ hOutcome, setInput_input]
        exact .refused _ _
  | _ => cases h

end Channels

end SerializerContract
