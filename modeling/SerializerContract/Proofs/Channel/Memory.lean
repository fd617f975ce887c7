import SerializerContract.Proofs.Channel.Buffer
import SerializerContract.Proofs.Channel.Pool

/-! The channels of a pool in memory, over any history of operations. The number of bytes read never exceeds the
number of bytes there are, so no channel's arithmetic wraps around. An operation that reads moves one cursor over
just the bytes it takes, and one that fails changes no channel, unless there is no room for what it moves. The bytes
of an input channel are those it was given last, whatever becomes of the channel they were written to. -/
namespace SerializerContract

namespace InputBuffer

variable {before middle after : InputBuffer} {front back : Bytes}

/-- The cursor has passed over some bytes of its channel: it was in front of them, and is now behind them. -/
structure Passes (before : InputBuffer) (front : Bytes) (after : InputBuffer) : Prop where
  buffer : after.buffer = before.buffer
  rest : before.rest = front ++ after.rest
  position : after.position.toNat = before.position.toNat + front.length

/-- The channel holds some bytes, its cursor is somewhere in them, and it tells correctly how many there are on
either side. -/
structure Holds (channel : InputBuffer) (bytes : Bytes) : Prop where
  buffer : channel.buffer = bytes
  total : channel.position.toNat + channel.available.toNat = bytes.length
  within : channel.position.toNat ≤ bytes.length

theorem Passes.refl (channel : InputBuffer) : channel.Passes [] channel := ⟨rfl, rfl, rfl⟩

theorem Passes.trans (hFirst : before.Passes front middle) (hSecond : middle.Passes back after) :
    before.Passes (front ++ back) after where
  buffer := hSecond.buffer.trans hFirst.buffer
  rest := by simp [hFirst.rest, hSecond.rest]
  position := by
    rw [hSecond.position, hFirst.position, List.length_append]
    omega

/-- A sound channel tells correctly how much of it is left. -/
theorem Sound.holds {channel : InputBuffer} (h : channel.Sound) : channel.Holds channel.buffer where
  buffer := rfl
  total := by
    have hWithin := h.within
    rw [h.toNat_available, position]
    omega
  within := h.within

/-- Where a cursor goes, its channel goes. -/
theorem Sound.passes_ofCursor {cursor : InputChannel} (h : before.Sound)
    (hPasses : before.cursor.Passes front cursor) : before.Passes front (ofCursor cursor) := by
  have hBytes : cursor.bytes = before.buffer := hPasses.bytes.trans before.cursor_bytes
  have hLength := cursor.position_add_available
  have hPosition := hPasses.position
  have hMemory := Nat.lt_of_le_of_lt h.memory mostMemory_lt
  rw [hBytes] at hLength
  rw [h.cursor_position] at hPosition
  have hOffset : (ofCursor cursor).offset.toNat = cursor.position := by
    rw [ofCursor, BitVec.toNat_ofNat]
    exact Nat.mod_eq_of_lt (by omega)
  have hRest : (ofCursor cursor).rest = cursor.rest := by
    rw [InputBuffer.rest, hOffset]
    exact List.drop_left
  exact ⟨hBytes, hRest ▸ hPasses.rest, hOffset.trans hPosition⟩

end InputBuffer

namespace Channels

variable {ι κ : Type} (f : ι → κ)

/-- A pool with its input channels kept in another way. -/
def map (pool : Channels ι) : Channels κ := ⟨pool.outputs, pool.inputs.map f⟩

def Outcome.map (outcome : Outcome ι) : Outcome κ := ⟨outcome.sight, outcome.failure, outcome.pool.map f⟩

@[simp] theorem map_setOutput (pool : Channels ι) (o : Nat) (out : OutputChannel) :
    (pool.setOutput o out).map f = (pool.map f).setOutput o out := rfl

@[simp] theorem map_setInput (pool : Channels ι) (i : Nat) (channel : ι) :
    (pool.setInput i channel).map f = (pool.map f).setInput i (f channel) := by
  simp [map, setInput]

@[simp] theorem map_addInput (pool : Channels ι) (channel : ι) :
    (pool.addInput channel).map f = (pool.map f).addInput (f channel) := by
  simp [map, addInput]

/-- Where moved bytes go does not depend on how input channels are kept. -/
@[simp] theorem map_deliver (op : ChannelOperation) (front : Bytes) (pool : Channels ι) :
    (op.deliver front pool).map f = op.deliver front (pool.map f) := by
  cases op <;> rfl

theorem hasRoom_map {op : ChannelOperation} {pool : Channels ι} : op.HasRoom (pool.map f) ↔ op.HasRoom pool := by
  cases op <;> rfl

end Channels

/-- What the operation loads fits into memory. -/
def ChannelOperation.Fits (pool : BufferPool) : ChannelOperation → Prop
  | .newInput bytes => bytes.length ≤ Bytes.mostMemory
  | .setBuffer _ bytes => bytes.length ≤ Bytes.mostMemory
  | .view o => (pool.output o).size ≤ Bytes.mostMemory
  | .setBufferFrom _ o => (pool.output o).size ≤ Bytes.mostMemory
  | _ => True

namespace BufferPool

open Channels

variable {format : Format} {pool : BufferPool} {op : ChannelOperation} {i o : Nat} {channel : InputBuffer}

/-- The cursors that the channels of a pool stand for. -/
def view (pool : BufferPool) : ChannelPool := pool.map InputBuffer.cursor

@[simp] theorem view_output (pool : BufferPool) (o : Nat) : pool.view.output o = pool.output o := rfl

/-- A channel that is not there stands for a cursor without bytes. -/
@[simp] theorem view_input (pool : BufferPool) (i : Nat) : pool.view.input i = (pool.input i).cursor := by
  rw [input, input, view, Channels.map, List.getD_eq_getElem?_getD, List.getD_eq_getElem?_getD, List.getElem?_map]
  cases pool.inputs[i]? <;> rfl

/-- All channels of the pool are sound. -/
def Sound (pool : BufferPool) : Prop := ∀ channel ∈ pool.inputs, channel.Sound

/-- The first pool is sound: nothing was read, and there is nothing to read. -/
theorem start_sound : Sound start := by
  intro channel h
  rw [List.mem_singleton.mp h]
  exact ⟨Nat.zero_le _, Nat.le_refl _⟩

namespace Sound

variable (h : pool.Sound)

include h

/-- Every input channel of a sound pool is sound, even one that is not there. -/
theorem input (i : Nat) : (Channels.input pool i).Sound := by
  rw [Channels.input, List.getD_eq_getElem?_getD]
  cases hChannel : pool.inputs[i]? with
  | none => exact ⟨Nat.zero_le _, Nat.le_refl _⟩
  | some channel => exact h channel (List.mem_of_getElem? hChannel)

theorem setInput (i : Nat) (hChannel : channel.Sound) : Sound (Channels.setInput pool i channel) := by
  intro other hOther
  rcases List.mem_or_eq_of_mem_set hOther with hMem | rfl
  · exact h other hMem
  · exact hChannel

theorem addInput (hChannel : channel.Sound) : Sound (Channels.addInput pool channel) := by
  intro other hOther
  rcases List.mem_append.mp hOther with hMem | hMem
  · exact h other hMem
  · exact List.mem_singleton.mp hMem ▸ hChannel

/-- A pool is known by its cursors. -/
theorem map_view : pool.view.map InputBuffer.ofCursor = pool := by
  have hInputs : (pool.inputs.map InputBuffer.cursor).map InputBuffer.ofCursor = pool.inputs := by
    rw [List.map_map]
    exact (List.map_congr_left fun channel hMem => (h channel hMem).ofCursor_cursor).trans (List.map_id _)
  rw [view, Channels.map, Channels.map, hInputs]

end Sound

/-! ## One operation -/

/-- What fits into memory is loaded as into cursors. -/
theorem loading_refines {bytes : Bytes} {place : InputBuffer → BufferPool} {placeSpec : InputChannel → ChannelPool}
    (hFits : bytes.length ≤ Bytes.mostMemory)
    (hPlace : ∀ channel, channel.Sound → placeSpec channel.cursor = (place channel).view ∧ (place channel).Sound) :
    pool.view.loading bytes placeSpec = (pool.loading bytes place).map InputBuffer.cursor ∧
      Sound (pool.loading bytes place).pool := by
  obtain ⟨hPlaced, hLast⟩ := hPlace ⟨bytes, 0⟩ (InputBuffer.sound_of_fits hFits)
  have hLoad : InputCursor.load bytes = .ok (⟨bytes, 0⟩ : InputBuffer) := InputBuffer.load_of_fits hFits
  simp only [loading, hLoad]
  refine ⟨?_, hLast⟩
  exact congrArg (Outcome.mk _ _) hPlaced

/-- A move does to a channel what it does to its cursor, even if the bytes are lost. -/
theorem move_refines (n : Nat) : Action.Refines (fun state : InputBuffer × OutputChannel => state.1.Sound)
    (Prod.map InputBuffer.cursor id) (InputCursor.move n) (InputCursor.move n) :=
  (InputBuffer.consume_refines n).onFirst.bind fun front => .onSecond (OutputChannel.insert front)

section

variable {α : Type} (hSound : pool.Sound)

include hSound

/-- What is done to one channel of a sound pool is done to one cursor. -/
theorem onInput_refines {action : Action InputBuffer α} {spec : Action InputChannel α}
    (h : InputBuffer.Refines action spec) (i : Nat) (sight : α → ChannelSight) :
    pool.view.onInput i spec sight = (pool.onInput i action sight).map InputBuffer.cursor ∧
      Sound (pool.onInput i action sight).pool := by
  obtain ⟨hOutcome, hLast⟩ := h (pool.input i) (hSound.input i)
  refine ⟨?_, hSound.setInput i hLast⟩
  simp only [onInput, view_input, hOutcome, Outcome.map, map_setInput]
  rfl

/-- Every operation does to the channels what it does to the cursors that they stand for. -/
theorem perform_refines (hFits : op.Fits pool) :
    pool.view.perform format op = (pool.perform format op).map InputBuffer.cursor ∧
      Sound (pool.perform format op).pool := by
  have hAdd (channel : InputBuffer) (h : channel.Sound) :
      pool.view.addInput channel.cursor = view (pool.addInput channel) ∧ Sound (pool.addInput channel) :=
    ⟨(map_addInput _ _ _).symm, hSound.addInput h⟩
  have hSet (i : Nat) (channel : InputBuffer) (h : channel.Sound) :
      pool.view.setInput i channel.cursor = view (pool.setInput i channel) ∧ Sound (pool.setInput i channel) :=
    ⟨(map_setInput _ _ _ _).symm, hSound.setInput i h⟩
  cases op with
  | newOutput capacity =>
      simp only [perform]
      cases OutputChannel.reserve capacity with
      | error failure => exact ⟨rfl, hSound⟩
      | ok room => exact ⟨rfl, hSound⟩
  | newInput bytes => exact loading_refines hFits hAdd
  | view o => exact loading_refines hFits hAdd
  | setBuffer i bytes => exact loading_refines hFits (hSet i)
  | setBufferFrom i o => exact loading_refines hFits (hSet i)
  | write o t h v => exact ⟨rfl, hSound⟩
  | writeRaw o bytes => exact ⟨rfl, hSound⟩
  | skipWrite o n => exact ⟨rfl, hSound⟩
  | clear o => exact ⟨rfl, hSound⟩
  | move i o n =>
      obtain ⟨hOutcome, hLast⟩ := move_refines n (pool.input i, pool.output o) (hSound.input i)
      refine ⟨?_, hSound.setInput i hLast⟩
      simp only [Prod.map, id_eq] at hOutcome
      simp only [perform, view_input, view_output, hOutcome, Outcome.map, map_setOutput, map_setInput]
      rfl
  | read i t h => exact onInput_refines hSound (InputBuffer.read_refines (t.codec_reads format h)) i _
  | readInto i t h target =>
      obtain ⟨hOutcome, hLast⟩ :=
        InputBuffer.readInto_refines (t.codec_reads format h) (target, pool.input i) (hSound.input i)
      refine ⟨?_, hSound.setInput i hLast⟩
      simp only [Prod.map, id_eq] at hOutcome
      simp only [perform, view_input, cursor_readInto, hOutcome, Outcome.map, map_setInput]
      rfl
  | readRaw i n => exact onInput_refines hSound (InputBuffer.consume_refines n) i _
  | skipRead i n => exact onInput_refines hSound (InputBuffer.skip_refines n) i _

end

/-- An operation that reads loads nothing. -/
theorem fits_of_source (h : op.source = some i) : op.Fits pool := by
  cases op with
  | move | read | readInto | readRaw | skipRead => trivial
  | _ => cases h

/-- An operation comes to what it comes to for the cursors. -/
theorem perform_eq_map (hSound : pool.Sound) (hFits : op.Fits pool) :
    pool.perform format op = (pool.view.perform format op).map InputBuffer.ofCursor := by
  obtain ⟨hView, hLast⟩ : pool.view.perform format op = (pool.perform format op).map InputBuffer.cursor ∧ _ :=
    perform_refines hSound hFits
  rw [hView]
  exact (congrArg (Outcome.mk _ _) (Sound.map_view hLast)).symm

/-- What is read from the cursors is read from the channels. -/
theorem reading_of_view {spec : Outcome InputChannel} (hSound : pool.Sound)
    (h : Reading InputChannel.Passes format pool.view op i spec) :
    Reading InputBuffer.Passes format pool op i (spec.map InputBuffer.ofCursor) := by
  have hPasses {front : Bytes} {cursor : InputChannel} (hCursor : (pool.view.input i).Passes front cursor) :
      (pool.input i).Passes front (.ofCursor cursor) :=
    (hSound.input i).passes_ofCursor (view_input pool i ▸ hCursor)
  have hPool {cursor : InputChannel} :
      (pool.view.setInput i cursor).map InputBuffer.ofCursor = pool.setInput i (.ofCursor cursor) := by
    rw [map_setInput, hSound.map_view]
  cases h with
  | taken hCursor hShows hRoom =>
      rw [Outcome.map, map_deliver, hPool]
      exact .taken (hPasses hCursor) hShows ((hasRoom_map _).mp hRoom)
  | lost failure hCursor hShows hCrowded =>
      rw [Outcome.map, hPool]
      exact .lost failure (hPasses hCursor) hShows (mt (hasRoom_map _).mpr hCrowded)
  | refused sight failure =>
      rw [Outcome.map, hSound.map_view]
      exact .refused sight failure

/-- An operation on a sound pool takes bytes and shows them, or loses them, or is refused. -/
theorem perform_reading (format : Format) (hSound : pool.Sound) (h : op.source = some i) :
    Reading InputBuffer.Passes format pool op i (pool.perform format op) := by
  rw [perform_eq_map hSound (fits_of_source h)]
  exact reading_of_view hSound (Channels.perform_reading format pool.view h)

/-- What every operation does with the bytes it reads. A success moves the cursor of one channel over just the
bytes it shows, and only a move adds them to an output channel; a failure changes no channel. Only a move that has no
room for what it took has taken it all the same, and adds nothing. An operation that reads nothing leaves every input
channel that it does not load. -/
structure Accounts (format : Format) (pool : BufferPool) (op : ChannelOperation) : Prop where
  taken : ∀ i, op.source = some i → (pool.perform format op).failure = none →
    ∃ front channel, (pool.input i).Passes front channel ∧
      op.Shows format front (pool.perform format op).sight ∧
      (pool.perform format op).pool = op.deliver front (pool.setInput i channel)
  refused : ¬ op.Encodes → op.HasRoom pool → (pool.perform format op).failure ≠ none →
    (pool.perform format op).pool = pool
  lost : ¬ op.HasRoom pool → (pool.perform format op).failure ≠ none →
    (pool.perform format op).pool = pool ∨
      ∃ i front channel, op.source = some i ∧ (pool.input i).Passes front channel ∧
        op.Shows format front .nothing ∧ (pool.perform format op).pool = pool.setInput i channel
  kept : op.source = none → ∀ i < pool.inputs.length, ¬ op.Loads i →
    (pool.perform format op).pool.input i = pool.input i

/-- Only what is moved asks for room. -/
theorem hasRoom_of_source_none (h : op.source = none) : op.HasRoom pool := by
  cases op with
  | move => cases h
  | _ => trivial

/-- Every operation on a sound pool accounts for the bytes it reads. -/
theorem perform_accounts (format : Format) (hSound : pool.Sound) (op : ChannelOperation) :
    Accounts format pool op where
  taken i hSource hSuccess := by
    obtain ⟨front, channel, hPasses, hShows, -, hPool⟩ :=
      (perform_reading format hSound hSource).taken_of_success hSuccess
    exact ⟨front, channel, hPasses, hShows, hPool⟩
  refused hOther hRoom hFailure := by
    cases hSource : op.source with
    | none => exact pool_of_source_none_fails hSource hOther hFailure
    | some i =>
        rcases (perform_reading format hSound hSource).pool_of_failure hFailure with hPool | ⟨hCrowded, -⟩
        · exact hPool
        · exact absurd hRoom hCrowded
  lost hCrowded hFailure := by
    cases hSource : op.source with
    | none => exact absurd (hasRoom_of_source_none hSource) hCrowded
    | some i =>
        rcases (perform_reading format hSound hSource).pool_of_failure hFailure with
          hPool | ⟨-, front, channel, hPasses, hShows, hPool⟩
        · exact .inl hPool
        · exact .inr ⟨i, front, channel, rfl, hPasses, hShows, hPool⟩
  kept hSource i hIndex hKept := input_of_source_none hSource hKept hIndex

/-- What does not fit into memory is not loaded. -/
theorem pool_of_not_fits (h : ¬ op.Fits pool) : (pool.perform format op).pool = pool := by
  have hLoad {bytes : Bytes} (hLong : ¬ bytes.length ≤ Bytes.mostMemory) (place : InputBuffer → BufferPool) :
      (pool.loading bytes place).pool = pool := by
    have hFails : InputCursor.load bytes = (.error .outOfMemory : Except Failure InputBuffer) :=
      if_pos (Nat.not_le.mp hLong)
    rw [loading, hFails]
  cases op with
  | newInput | view | setBuffer | setBufferFrom => exact hLoad h _
  | _ => exact absurd trivial h

/-! ## Any history -/

/-- No operation moves a cursor behind the end of its channel. -/
theorem perform_sound (format : Format) (hSound : pool.Sound) (op : ChannelOperation) :
    Sound (pool.perform format op).pool := by
  by_cases hFits : op.Fits pool
  · exact (perform_refines hSound hFits).2
  · rw [pool_of_not_fits hFits]
    exact hSound

/-- Whatever is done with the channels, the pool stays sound. -/
theorem after_sound (format : Format) (ops : List ChannelOperation) (hSound : pool.Sound) :
    Sound (pool.after format ops) := by
  induction ops generalizing pool with
  | nil => exact hSound
  | cons op ops ih => exact ih (perform_sound format hSound op)

/-- No operation but a load moves a cursor backwards. -/
theorem passes_of_perform (format : Format) (hSound : pool.Sound) (hKept : ¬ op.Loads i)
    (hIndex : i < pool.inputs.length) :
    ∃ front, (pool.input i).Passes front ((pool.perform format op).pool.input i) := by
  cases hSource : op.source with
  | none =>
      rw [input_of_source_none hSource hKept hIndex]
      exact ⟨[], .refl _⟩
  | some j => exact (perform_reading format hSound hSource).passes_input .refl hIndex

/-- As long as a channel is not loaded, its cursor only moves forward, over the bytes that it has. -/
theorem passes_of_after (format : Format) {pool : BufferPool} {ops : List ChannelOperation} (hSound : pool.Sound)
    (hKept : ∀ op ∈ ops, ¬ op.Loads i) (hIndex : i < pool.inputs.length) :
    ∃ front, (pool.input i).Passes front ((pool.after format ops).input i) := by
  induction ops generalizing pool with
  | nil => exact ⟨[], .refl _⟩
  | cons op ops ih =>
      obtain ⟨first, hFirst⟩ := passes_of_perform format hSound (hKept op List.mem_cons_self) hIndex
      obtain ⟨rest, hRest⟩ := ih (perform_sound format hSound op)
        (fun later hLater => hKept later (List.mem_cons_of_mem _ hLater))
        (Nat.lt_of_lt_of_le hIndex (length_inputs_le format pool op))
      exact ⟨first ++ rest, hFirst.trans hRest⟩

/-- A channel that is not loaded keeps the bytes it holds. -/
theorem holds_of_after (format : Format) {ops : List ChannelOperation} {bytes : Bytes} (hSound : pool.Sound)
    (hKept : ∀ op ∈ ops, ¬ op.Loads i) (hIndex : i < pool.inputs.length) (hBytes : (pool.input i).buffer = bytes) :
    ((pool.after format ops).input i).Holds bytes := by
  obtain ⟨front, hPasses⟩ := passes_of_after format hSound hKept hIndex
  have hHolds := (Sound.input (after_sound format ops hSound) i).holds
  rwa [hPasses.buffer, hBytes] at hHolds

/-- A channel that is loaded holds what it was loaded with. -/
theorem holds_of_load (format : Format) {ops : List ChannelOperation} {bytes : Bytes}
    {place : InputBuffer → BufferPool} (hFits : bytes.length ≤ Bytes.mostMemory)
    (hPlace : ∀ channel, channel.Sound →
      Sound (place channel) ∧ i < (place channel).inputs.length ∧ (place channel).input i = channel)
    (hKept : ∀ op ∈ ops, ¬ op.Loads i) :
    (((pool.loading bytes place).pool.after format ops).input i).Holds bytes := by
  have hLoad : InputCursor.load bytes = .ok (⟨bytes, 0⟩ : InputBuffer) := InputBuffer.load_of_fits hFits
  obtain ⟨hLast, hIndex, hInput⟩ := hPlace ⟨bytes, 0⟩ (InputBuffer.sound_of_fits hFits)
  rw [loading, hLoad]
  exact holds_of_after format hLast hKept hIndex (congrArg InputBuffer.buffer hInput)

/-- What was frozen is read to the end while the channel that it came from is cleared and written again. -/
example :
    let pool : BufferPool := start.after .network [.writeRaw 0 [1, 2, 3], .view 0, .readRaw 1 2, .clear 0,
      .writeRaw 0 [4], .move 1 0 2, .move 1 0 1]
    pool.input 1 = ⟨[1, 2, 3], 3⟩ ∧ pool.output 0 = ⟨[4, 3]⟩ := by
  decide

end BufferPool

end SerializerContract
