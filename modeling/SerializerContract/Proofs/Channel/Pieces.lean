import SerializerContract.Proofs.Channel.Pool
import SerializerContract.Proofs.Codec.Extent

/-! Raw bytes in pieces. An operation on so many raw bytes that succeeds can be replaced by operations of the
same kind on consecutive pieces of them: these succeed too, leave the same channels, and show the same bytes. -/
namespace SerializerContract

/-- The raw bytes that an operation shows. -/
def ChannelSight.bytes : ChannelSight → Bytes
  | .raw bytes => bytes
  | _ => []

namespace ChannelOperation

/-- How many bytes some pieces have together. -/
def total (ns : List Nat) : Nat := ns.foldr (fun n rest => n + rest) 0

/-- The ways to take so many raw bytes from the input channel `i`. -/
inductive Raw (i : Nat) : (Nat → ChannelOperation) → Prop where
  | move (o : Nat) : Raw i (.move i o)
  | readRaw : Raw i (.readRaw i)
  | skipRead : Raw i (.skipRead i)

/-- An operation on raw bytes, and operations that are given the same bytes in consecutive pieces. -/
inductive Splits : ChannelOperation → List ChannelOperation → Prop where
  | writeRaw (o : Nat) (pieces : List Bytes) : Splits (.writeRaw o pieces.flatten) (pieces.map (.writeRaw o))
  | skipWrite (o : Nat) (ns : List Nat) : Splits (.skipWrite o (total ns)) (ns.map (.skipWrite o))
  | raw {i : Nat} {op : Nat → ChannelOperation} (h : Raw i op) (ns : List Nat) : Splits (op (total ns)) (ns.map op)

/-- What an operation shows of the raw bytes that it takes. -/
def sightOf (front : Bytes) : ChannelOperation → ChannelSight
  | .readRaw _ _ => .raw front
  | _ => .nothing

end ChannelOperation

namespace ChannelPool

open Channels

/-- Operations that succeed one after the other, what they show, and the pool after them. -/
inductive Runs (format : Format) :
    ChannelPool → List ChannelOperation → List ChannelSight → ChannelPool → Prop where
  | nil (pool : ChannelPool) : Runs format pool [] [] pool
  | cons {pool middle last : ChannelPool} {op : ChannelOperation} {ops : List ChannelOperation}
      {sight : ChannelSight} {sights : List ChannelSight} (first : pool.perform format op = ⟨sight, none, middle⟩)
      (rest : Runs format middle ops sights last) : Runs format pool (op :: ops) (sight :: sights) last

variable {format : Format} {pool last : ChannelPool} {i o : Nat} {channel : InputChannel} {sight : ChannelSight}

@[simp] theorem setInput_setInput (pool : ChannelPool) (i : Nat) (first second : InputChannel) :
    (pool.setInput i first).setInput i second = pool.setInput i second := by
  simp [setInput]

/-- A channel that is not there has no bytes to pass over. -/
theorem input_setInput_of_passes {front : Bytes} (h : (pool.input i).Passes front channel) :
    (pool.setInput i channel).input i = channel := by
  by_cases hIndex : i < pool.inputs.length
  · exact input_setInput_self hIndex
  · have hInput : pool.input i = {} := by
      rw [input, List.getD_eq_getElem?_getD, List.getElem?_eq_none (Nat.not_lt.mp hIndex)]
      rfl
    rw [hInput] at h
    obtain ⟨rfl, hRest⟩ := List.append_eq_nil_iff.mp h.rest.symm
    rw [setInput, List.set_eq_of_length_le (Nat.not_lt.mp hIndex), h.after_eq, hRest]
    exact hInput

theorem output_appendTo (hIndex : o < pool.outputs.length) (bytes : Bytes) :
    (pool.appendTo o bytes).output o = (pool.output o).appended bytes := by
  simp [appendTo, output, setOutput, hIndex]

/-- Bytes that are added to a channel that is not there are nowhere. -/
theorem size_output_appendTo_le (pool : ChannelPool) (o : Nat) (bytes : Bytes) :
    ((pool.appendTo o bytes).output o).size ≤ (pool.output o).size + bytes.length := by
  by_cases hIndex : o < pool.outputs.length
  · simp [output_appendTo hIndex]
  · rw [appendTo, setOutput, List.set_eq_of_length_le (Nat.not_lt.mp hIndex)]
    exact Nat.le_add_right _ _

@[simp] theorem appendTo_nil (pool : ChannelPool) (o : Nat) : pool.appendTo o [] = pool := by
  simp [appendTo]

/-- Bytes can be added in two pieces. -/
@[simp] theorem appendTo_appendTo (pool : ChannelPool) (o : Nat) (first second : Bytes) :
    (pool.appendTo o first).appendTo o second = pool.appendTo o (first ++ second) := by
  by_cases hIndex : o < pool.outputs.length
  · rw [appendTo, output_appendTo hIndex]
    simp [appendTo, setOutput]
  · simp [appendTo, setOutput, List.set_eq_of_length_le (Nat.not_lt.mp hIndex)]

/-! ## Two pieces -/

/-- An operation that can be done in two steps. -/
def Halves (format : Format) (whole first second : ChannelOperation) : Prop :=
  ∀ {pool last : ChannelPool} {sight : ChannelSight}, pool.perform format whole = ⟨sight, none, last⟩ →
    ∃ one middle two, pool.perform format first = ⟨one, none, middle⟩ ∧
      middle.perform format second = ⟨two, none, last⟩ ∧ sight.bytes = one.bytes ++ two.bytes

/-- An operation that takes no bytes. -/
def Idles (format : Format) (op : ChannelOperation) : Prop :=
  ∀ {pool last : ChannelPool} {sight : ChannelSight}, pool.perform format op = ⟨sight, none, last⟩ →
    last = pool ∧ sight.bytes = []

/-- Raw bytes are written in two steps as in one. -/
theorem writeRaw_halves (format : Format) (o : Nat) (first second : Bytes) :
    Halves format (.writeRaw o (first ++ second)) (.writeRaw o first) (.writeRaw o second) := by
  intro pool last sight h
  obtain ⟨rfl, -, rfl⟩ := Outcome.mk.inj h
  exact ⟨.nothing, _, .nothing, rfl, congrArg _ (appendTo_appendTo pool o first second), rfl⟩

theorem writeRaw_idles (format : Format) (o : Nat) : Idles format (.writeRaw o []) := by
  intro pool last sight h
  obtain ⟨rfl, -, rfl⟩ := Outcome.mk.inj h
  exact ⟨appendTo_nil pool o, rfl⟩

/-- An operation on an output channel succeeds exactly if its action does. -/
theorem onOutput_ok_iff {action : Action OutputChannel Unit} : pool.onOutput o action = ⟨sight, none, last⟩ ↔
    ∃ out, action.outcome (pool.output o) = (.ok (), out) ∧ .nothing = sight ∧ pool.setOutput o out = last := by
  rw [onOutput]
  rcases action.outcome (pool.output o) with ⟨_ | _, out⟩
  · simp [failureOf]
  · simp [failureOf]

/-- Zeros are written if there is room for them, and memory. -/
theorem perform_skipWrite_iff {n : Nat} : pool.perform format (.skipWrite o n) = ⟨sight, none, last⟩ ↔
    (n ≤ OutputChannel.capacity - (pool.output o).size ∧ n ≤ Bytes.mostMemory) ∧
      .nothing = sight ∧ pool.appendTo o (Bytes.zeros n) = last := by
  simp only [perform, onOutput_ok_iff, OutputChannel.skip_ok_iff, appendTo]
  grind

/-- Zeros are written in two steps as in one: there is room for both parts, and memory. -/
theorem skipWrite_halves (format : Format) (o m n : Nat) :
    Halves format (.skipWrite o (m + n)) (.skipWrite o m) (.skipWrite o n) := by
  intro pool last sight h
  obtain ⟨⟨hRoom, hMemory⟩, rfl, rfl⟩ := perform_skipWrite_iff.mp h
  have hSize := pool.size_output_appendTo_le o (Bytes.zeros m)
  have hZeros : (Bytes.zeros m).length = m := List.length_replicate
  refine ⟨.nothing, pool.appendTo o (Bytes.zeros m), .nothing, ?_, ?_, rfl⟩
  · exact perform_skipWrite_iff.mpr ⟨⟨by omega, by omega⟩, rfl, rfl⟩
  · refine perform_skipWrite_iff.mpr ⟨⟨by omega, by omega⟩, rfl, ?_⟩
    simp [Bytes.zeros, List.replicate_append_replicate]

theorem skipWrite_idles (format : Format) (o : Nat) : Idles format (.skipWrite o 0) := by
  intro pool last sight h
  obtain ⟨-, rfl, rfl⟩ := perform_skipWrite_iff.mp h
  exact ⟨appendTo_nil pool o, rfl⟩

section Raw

variable {op : Nat → ChannelOperation} {front back : Bytes} {m n : Nat}

/-- Raw bytes are there to be taken as soon as there are enough of them, and room where they go. -/
theorem perform_raw (hRaw : ChannelOperation.Raw i op) (hPasses : (pool.input i).Passes front channel)
    (hLength : front.length = n) (hRoom : (op n).HasRoom pool) : pool.perform format (op n) =
      ⟨(op n).sightOf front, none, (op n).deliver front (pool.setInput i channel)⟩ := by
  cases hRaw with
  | move o =>
      subst hLength
      have hMove := InputCursor.move_of_ok (hPasses.readRaw_outcome rfl) (pool.output o)
      rw [OutputChannel.insert_of_room hRoom] at hMove
      simp only [perform, hMove]
      rfl
  | readRaw => exact onInput_of_ok _ (hPasses.readRaw_outcome hLength)
  | skipRead => exact onInput_of_ok _ (hPasses.skip_outcome hLength)

/-- An operation on so many raw bytes takes just these, and has room for them. -/
theorem raw_of_perform (hRaw : ChannelOperation.Raw i op) (h : pool.perform format (op n) = ⟨sight, none, last⟩) :
    ∃ front channel, (pool.input i).Passes front channel ∧ front.length = n ∧ (op n).HasRoom pool ∧
      sight = (op n).sightOf front ∧ last = (op n).deliver front (pool.setInput i channel) := by
  have hSource : (op n).source = some i := by cases hRaw <;> rfl
  obtain ⟨front, channel, hPasses, hShows, hRoom, hPool⟩ :=
    (h ▸ perform_reading format pool hSource).taken_of_success rfl
  have hLength : front.length = n := by cases hRaw <;> exact hShows.1
  have hSight : sight = (op n).sightOf front := by cases hRaw <;> exact hShows.2
  exact ⟨front, channel, hPasses, hLength, hRoom, hSight, hPool⟩

/-- What has room in one piece has room for its first part. -/
theorem hasRoom_first (hRaw : ChannelOperation.Raw i op) (h : (op (m + n)).HasRoom pool) : (op m).HasRoom pool := by
  cases hRaw with
  | move o =>
      unfold ChannelOperation.HasRoom at h ⊢
      omega
  | readRaw => trivial
  | skipRead => trivial

/-- What has room in one piece has room for its second part behind the first. -/
theorem hasRoom_second (hRaw : ChannelOperation.Raw i op) (h : (op (m + n)).HasRoom pool) (hLength : front.length = m)
    (channel : InputChannel) : (op n).HasRoom ((op m).deliver front (pool.setInput i channel)) := by
  cases hRaw with
  | move o =>
      have hSize := size_output_appendTo_le (pool.setInput i channel) o front
      have hOutput : (pool.setInput i channel).output o = pool.output o := rfl
      rw [hOutput] at hSize
      unfold ChannelOperation.HasRoom ChannelOperation.deliver at *
      dsimp only at h ⊢
      omega
  | readRaw => trivial
  | skipRead => trivial

/-- Two parts go where the whole goes. -/
theorem deliver_deliver (hRaw : ChannelOperation.Raw i op) (pool : ChannelPool) (channel : InputChannel) :
    (op n).deliver back (((op m).deliver front pool).setInput i channel) =
      (op (m + n)).deliver (front ++ back) (pool.setInput i channel) := by
  cases hRaw with
  | move o => exact appendTo_appendTo (pool.setInput i channel) o front back
  | readRaw => rfl
  | skipRead => rfl

/-- Raw bytes are taken in two steps as in one. -/
theorem raw_halves (format : Format) (hRaw : ChannelOperation.Raw i op) (m n : Nat) :
    Halves format (op (m + n)) (op m) (op n) := by
  intro pool last sight h
  obtain ⟨whole, channel, hPasses, hLength, hRoom, rfl, rfl⟩ := raw_of_perform hRaw h
  obtain ⟨front, back, rfl, hFront⟩ := Codec.exists_front (Nat.le.intro hLength.symm)
  have hBack : back.length = n := by
    rw [List.length_append] at hLength
    omega
  obtain ⟨middle, hFirst, hSecond⟩ := hPasses.split
  refine ⟨_, _, (op n).sightOf back, perform_raw hRaw hFirst hFront (hasRoom_first hRaw hRoom), ?_, ?_⟩
  · have hInput : (((op m).deliver front (pool.setInput i middle)).input i).Passes back channel := by
      rw [input_deliver, input_setInput_of_passes hFirst]
      exact hSecond
    rw [perform_raw hRaw hInput hBack (hasRoom_second hRaw hRoom hFront middle), deliver_deliver hRaw,
      setInput_setInput]
  · cases hRaw <;> rfl

/-- Taking no bytes moves nothing. -/
theorem raw_idles (format : Format) (hRaw : ChannelOperation.Raw i op) : Idles format (op 0) := by
  intro pool last sight h
  obtain ⟨front, channel, hPasses, hLength, -, rfl, rfl⟩ := raw_of_perform hRaw h
  obtain rfl := List.eq_nil_of_length_eq_zero hLength
  rw [hPasses.eq_of_nil, setInput_input]
  cases hRaw <;> simp [ChannelOperation.deliver, ChannelOperation.sightOf, ChannelSight.bytes]

end Raw

/-! ## Any number of pieces -/

/-- What can be done in two steps can be done in any number of them. -/
theorem runs_of_halves {κ : Type} {op : κ → ChannelOperation} {whole : List κ → κ}
    (hNil : Idles format (op (whole []))) (hCons : ∀ x xs, Halves format (op (whole (x :: xs))) (op x) (op (whole xs)))
    (pieces : List κ) (h : pool.perform format (op (whole pieces)) = ⟨sight, none, last⟩) :
    ∃ sights, Runs format pool (pieces.map op) sights last ∧ sight.bytes = sights.flatMap ChannelSight.bytes := by
  induction pieces generalizing pool sight with
  | nil =>
      obtain ⟨rfl, hBytes⟩ := hNil h
      exact ⟨[], .nil _, hBytes⟩
  | cons x xs ih =>
      obtain ⟨one, middle, two, hFirst, hSecond, hBytes⟩ := hCons x xs h
      obtain ⟨sights, hRuns, hRest⟩ := ih hSecond
      exact ⟨one :: sights, .cons hFirst hRuns, by rw [hBytes, hRest, List.flatMap_cons]⟩

/-- Bytes that are taken or written in consecutive pieces are the same bytes, and leave the same channels. -/
theorem runs_of_splits {whole : ChannelOperation} {pieces : List ChannelOperation}
    (hSplits : ChannelOperation.Splits whole pieces) (h : pool.perform format whole = ⟨sight, none, last⟩) :
    ∃ sights, Runs format pool pieces sights last ∧ sight.bytes = sights.flatMap ChannelSight.bytes := by
  cases hSplits with
  | writeRaw o pieces =>
      exact runs_of_halves (writeRaw_idles format o) (fun x xs => writeRaw_halves format o x xs.flatten) pieces h
  | skipWrite o ns =>
      exact runs_of_halves (skipWrite_idles format o)
        (fun n ns => skipWrite_halves format o n (ChannelOperation.total ns)) ns h
  | raw hRaw ns =>
      exact runs_of_halves (raw_idles format hRaw)
        (fun n ns => raw_halves format hRaw n (ChannelOperation.total ns)) ns h

end ChannelPool

end SerializerContract
