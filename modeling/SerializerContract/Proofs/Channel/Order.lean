import SerializerContract.Proofs.Channel.Pieces
import SerializerContract.Proofs.ValueType.Proper

/-! The order of what travels through channels. Nothing on the wire tells values and raw bytes apart; still,
whatever was written to a channel is read from a frozen copy in the same order, if values are read where values
were written. Raw bytes can be read in other pieces than they were written in. -/
namespace SerializerContract

/-- A value, or a raw byte: what no reading can divide. -/
inductive Portion where
  | value (t : ValueType) (serializable : t.Serializable) (v : t.Val)
  | byte (b : UInt8)

namespace Portion

/-- The bytes that stand for a portion. -/
def bytes (format : Format) : Portion → Bytes
  | .value t h v => ((t.codec format h).encode v).bytes
  | .byte b => [b]

def raw (bytes : Bytes) : List Portion := bytes.map .byte

/-- The portion is decoded again from its bytes. -/
def Returns (format : Format) : Portion → Prop
  | .value t h v => (t.codec format h).Trips v ((t.codec format h).encode v).bytes
  | .byte _ => True

/-- Raw bytes are spelled by themselves. -/
@[simp] theorem flatMap_raw (format : Format) (front : Bytes) : (raw front).flatMap (bytes format) = front := by
  induction front with
  | nil => rfl
  | cons b front ih => simpa [raw, bytes] using ih

/-- A raw byte is read back as it is. -/
theorem returns_of_mem_raw {format : Format} {front : Bytes} {portion : Portion} (h : portion ∈ raw front) :
    portion.Returns format := by
  obtain ⟨b, -, rfl⟩ := List.mem_map.mp h
  trivial

end Portion

namespace ChannelOperation

/-- The output channel that an operation adds to. -/
def target : ChannelOperation → Option Nat
  | .write o _ _ _ => some o
  | .writeRaw o _ => some o
  | .skipWrite o _ => some o
  | .move _ o _ => some o
  | _ => none

/-- What an operation adds: a value, given bytes, zeros, or the next bytes of an input channel. -/
def portions (pool : ChannelPool) : ChannelOperation → List Portion
  | .write _ t h v => [.value t h v]
  | .writeRaw _ bytes => Portion.raw bytes
  | .skipWrite _ n => Portion.raw (Bytes.zeros n)
  | .move i _ n => Portion.raw ((pool.input i).rest.take n)
  | _ => []

/-- The read from the input channel `k` that takes what an operation added. -/
def counterpart (k : Nat) : ChannelOperation → ChannelOperation
  | .write _ t h _ => .read k t h
  | .writeRaw _ bytes => .readRaw k bytes.length
  | .skipWrite _ n => .skipRead k n
  | .move _ _ n => .readRaw k n
  | op => op

/-- Reads from the input channel `k` that match some portions, and what they show. A value is read at its own
type, into a fresh target or any other; raw bytes are read or passed over, in any pieces. -/
inductive Match (k : Nat) : List Portion → List ChannelOperation → List ChannelSight → Prop where
  | nil : Match k [] [] []
  | read {t : ValueType} {h : t.Serializable} {v : t.Val} {portions : List Portion}
      {reads : List ChannelOperation} {sights : List ChannelSight} (rest : Match k portions reads sights) :
      Match k (.value t h v :: portions) (.read k t h :: reads) (.value ⟨t, v⟩ :: sights)
  | readInto {t : ValueType} {h : t.Serializable} {v : t.Val} {portions : List Portion}
      {reads : List ChannelOperation} {sights : List ChannelSight} (target : t.Val)
      (rest : Match k portions reads sights) :
      Match k (.value t h v :: portions) (.readInto k t h target :: reads) (.value ⟨t, v⟩ :: sights)
  | readRaw {portions : List Portion} {reads : List ChannelOperation} {sights : List ChannelSight}
      (bytes : Bytes) (rest : Match k portions reads sights) :
      Match k (Portion.raw bytes ++ portions) (.readRaw k bytes.length :: reads) (.raw bytes :: sights)
  | skipRead {portions : List Portion} {reads : List ChannelOperation} {sights : List ChannelSight}
      (bytes : Bytes) (rest : Match k portions reads sights) :
      Match k (Portion.raw bytes ++ portions) (.skipRead k bytes.length :: reads) (.nothing :: sights)

end ChannelOperation

namespace ChannelPool

open Channels

/-- What some operations add, in their order. -/
def written (format : Format) (pool : ChannelPool) : List ChannelOperation → List Portion
  | [] => []
  | op :: ops => op.portions pool ++ written format (pool.perform format op).pool ops

/-- The ways to freeze an output channel into the input channel `k`. -/
inductive Freezes (pool : ChannelPool) (o : Nat) : Nat → ChannelOperation → Prop where
  | view : Freezes pool o pool.inputs.length (.view o)
  | load {k : Nat} (hIndex : k < pool.inputs.length) : Freezes pool o k (.setBufferFrom k o)

variable {format : Format} {pool last : ChannelPool} {k o : Nat} {op : ChannelOperation}
  {sight : ChannelSight}

/-! ## Writing -/

/-- A value is written exactly if it can be encoded, and its bytes are added. -/
theorem perform_write_iff {t : ValueType} {h : t.Serializable} {v : t.Val} :
    pool.perform format (.write o t h v) = ⟨sight, none, last⟩ ↔
      ((t.codec format h).encode v).complete = true ∧ .nothing = sight ∧
        pool.appendTo o ((t.codec format h).encode v).bytes = last := by
  simp only [perform, onOutput_ok_iff, OutputChannel.write_ok_iff, appendTo]
  grind

/-- An operation that succeeds adds its portions to its output channel, and nothing to any other. -/
theorem outputs_of_perform (hTarget : op.target = some o) (h : pool.perform format op = ⟨sight, none, last⟩) :
    last.outputs = (pool.appendTo o ((op.portions pool).flatMap (Portion.bytes format))).outputs := by
  cases op with
  | write j t hSerializable v =>
      obtain rfl : j = o := Option.some.inj hTarget
      obtain ⟨-, -, rfl⟩ := perform_write_iff.mp h
      simp [ChannelOperation.portions, Portion.bytes]
  | writeRaw j bytes =>
      obtain rfl : j = o := Option.some.inj hTarget
      obtain ⟨-, -, rfl⟩ := Outcome.mk.inj h
      simp [ChannelOperation.portions, appendTo]
  | skipWrite j n =>
      obtain rfl : j = o := Option.some.inj hTarget
      obtain ⟨-, -, rfl⟩ := perform_skipWrite_iff.mp h
      simp [ChannelOperation.portions]
  | move i j n =>
      obtain rfl : j = o := Option.some.inj hTarget
      obtain ⟨front, channel, hPasses, hLength, -, -, rfl⟩ := raw_of_perform (.move j) h
      simp [ChannelOperation.portions, ChannelOperation.deliver, hPasses.rest, ← hLength]
      rfl
  | _ => cases hTarget

theorem output_congr {other : ChannelPool} (h : pool.outputs = other.outputs) (o : Nat) :
    pool.output o = other.output o := by
  rw [output, h]
  rfl

/-- Writes that succeed add their portions one after the other. -/
theorem Runs.data_of_writes {ops : List ChannelOperation} {sights : List ChannelSight}
    (hRuns : Runs format pool ops sights last) (hTarget : ∀ op ∈ ops, op.target = some o)
    (hIndex : o < pool.outputs.length) :
    (last.output o).data = (pool.output o).data ++ (pool.written format ops).flatMap (Portion.bytes format) := by
  induction hRuns with
  | nil pool => simp [written]
  | @cons pool middle last op ops sight sights first rest ih =>
      have hOutputs := outputs_of_perform (hTarget op List.mem_cons_self) first
      have hMiddle : o < middle.outputs.length := by simpa [hOutputs, appendTo, setOutput] using hIndex
      rw [ih (fun later hLater => hTarget later (List.mem_cons_of_mem _ hLater)) hMiddle,
        output_congr hOutputs, output_appendTo hIndex]
      simp [OutputChannel.appended, written, first]

/-- A proper value that was written is decoded again. -/
theorem returns_of_perform (h : pool.perform format op = ⟨sight, none, last⟩)
    (hProper : ∀ j t hSerializable v, op = .write j t hSerializable v → t.Proper v) :
    ∀ portion ∈ op.portions pool, portion.Returns format := by
  cases op with
  | write j t hSerializable v =>
      obtain ⟨hComplete, -, -⟩ := perform_write_iff.mp h
      have hEncode : (t.codec format hSerializable).encode v =
          .done ((t.codec format hSerializable).encode v).bytes := by
        rw [Emitted.done, ← hComplete]
      intro portion hPortion
      obtain rfl := List.mem_singleton.mp hPortion
      exact (t.codec_reads format hSerializable).trips (t.proper_writes format hSerializable)
        (hProper j t hSerializable v rfl) hEncode
  | writeRaw j bytes => exact fun portion => Portion.returns_of_mem_raw
  | skipWrite j n => exact fun portion => Portion.returns_of_mem_raw
  | move i j n => exact fun portion => Portion.returns_of_mem_raw
  | _ => exact fun portion hPortion => nomatch hPortion

/-- All that was written can be read back, if the values that were written are proper. -/
theorem Runs.returns {ops : List ChannelOperation} {sights : List ChannelSight}
    (hRuns : Runs format pool ops sights last)
    (hProper : ∀ j t h v, ChannelOperation.write j t h v ∈ ops → t.Proper v) :
    ∀ portion ∈ pool.written format ops, portion.Returns format := by
  induction hRuns with
  | nil pool => simp [written]
  | @cons pool middle last op ops sight sights first rest ih =>
      have hRest := ih fun j t h v hMem => hProper j t h v (List.mem_cons_of_mem _ hMem)
      intro portion hPortion
      simp only [written, first, List.mem_append] at hPortion
      rcases hPortion with hFirst | hLater
      · exact returns_of_perform first (fun j t h v hOp => hProper j t h v (hOp ▸ List.mem_cons_self)) portion hFirst
      · exact hRest portion hLater

/-! ## Reading -/

/-- A value is read from in front of its bytes. -/
theorem perform_read {t : ValueType} (h : t.Serializable) {v : t.Val} {front : Bytes} {channel : InputChannel}
    (hTrips : (t.codec format h).Trips v front) (hPasses : (pool.input k).Passes front channel)
    (hLength : (pool.input k).available ≤ Bytes.longest) :
    pool.perform format (.read k t h) = ⟨.value ⟨t, v⟩, none, pool.setInput k channel⟩ :=
  onInput_of_ok _ (hPasses.read_outcome hTrips hLength)

/-- A value is read from in front of its bytes into any target. -/
theorem perform_readInto {t : ValueType} (h : t.Serializable) {v : t.Val} {front : Bytes}
    {channel : InputChannel} (hTrips : (t.codec format h).Trips v front)
    (hPasses : (pool.input k).Passes front channel) (hLength : (pool.input k).available ≤ Bytes.longest)
    (target : t.Val) :
    pool.perform format (.readInto k t h target) = ⟨.value ⟨t, v⟩, none, pool.setInput k channel⟩ := by
  simp only [perform, cursor_readInto, hPasses.readInto_outcome hTrips hLength]
  rfl

/-- From where the cursor of the input channel `k` is, some reads succeed, show this, and pass over these bytes. -/
def Drains (format : Format) (k : Nat) (reads : List ChannelOperation) (sights : List ChannelSight)
    (front : Bytes) (pool : ChannelPool) : Prop :=
  ∃ last, Runs format pool reads sights last ∧ (pool.input k).Passes front (last.input k)

/-- One read takes the first bytes, and others those behind them. -/
theorem drains_cons {front back : Bytes} {ops : List ChannelOperation} {sights : List ChannelSight}
    (hRest : (pool.input k).rest = front ++ back) (hLength : (pool.input k).available ≤ Bytes.longest)
    (hFirst : ∀ channel, (pool.input k).Passes front channel →
      pool.perform format op = ⟨sight, none, pool.setInput k channel⟩)
    (hOthers : ∀ {pool : ChannelPool}, (pool.input k).rest = back → (pool.input k).available ≤ Bytes.longest →
      Drains format k ops sights back pool) :
    Drains format k (op :: ops) (sight :: sights) (front ++ back) pool := by
  have hPasses := InputChannel.passes_advanceTo hRest
  have hInput := input_setInput_of_passes hPasses
  have hShorter : ((pool.setInput k ((pool.input k).advanceTo back)).input k).available ≤ Bytes.longest := by
    have hAvailable := hPasses.available
    rw [hInput]
    omega
  obtain ⟨last, hRuns, hBack⟩ := hOthers (congrArg InputChannel.rest hInput) hShorter
  rw [hInput] at hBack
  exact ⟨last, .cons (hFirst _ hPasses) hRuns, hPasses.trans hBack⟩

/-- Reads that match what is in front of a cursor all succeed, show it, and pass over it. -/
theorem drains_of_match {portions : List Portion} {reads : List ChannelOperation} {sights : List ChannelSight}
    (hMatch : ChannelOperation.Match k portions reads sights)
    (hReturns : ∀ portion ∈ portions, portion.Returns format)
    (hRest : (pool.input k).rest = portions.flatMap (Portion.bytes format))
    (hLength : (pool.input k).available ≤ Bytes.longest) :
    Drains format k reads sights (portions.flatMap (Portion.bytes format)) pool := by
  induction hMatch generalizing pool with
  | nil => exact ⟨pool, .nil pool, .refl _⟩
  | @read t h v portions reads sights rest ih =>
      obtain ⟨hValue, hOthers⟩ := List.forall_mem_cons.mp hReturns
      exact drains_cons hRest hLength (fun channel hPasses => perform_read h hValue hPasses hLength)
        (ih hOthers)
  | @readInto t h v portions reads sights target rest ih =>
      obtain ⟨hValue, hOthers⟩ := List.forall_mem_cons.mp hReturns
      exact drains_cons hRest hLength
        (fun channel hPasses => perform_readInto h hValue hPasses hLength target) (ih hOthers)
  | @readRaw portions reads sights bytes rest ih =>
      rw [List.flatMap_append, Portion.flatMap_raw] at hRest ⊢
      exact drains_cons hRest hLength (fun channel hPasses => perform_raw .readRaw hPasses rfl trivial)
        (ih (List.forall_mem_append.mp hReturns).2)
  | @skipRead portions reads sights bytes rest ih =>
      rw [List.flatMap_append, Portion.flatMap_raw] at hRest ⊢
      exact drains_cons hRest hLength (fun channel hPasses => perform_raw .skipRead hPasses rfl trivial)
        (ih (List.forall_mem_append.mp hReturns).2)

/-- Every operation that succeeds is matched by its counterpart. -/
theorem match_of_perform {portions : List Portion} {reads : List ChannelOperation}
    {sights : List ChannelSight} (hTarget : op.target = some o) (h : pool.perform format op = ⟨sight, none, last⟩)
    (hRest : ChannelOperation.Match k portions reads sights) :
    ∃ first, ChannelOperation.Match k (op.portions pool ++ portions) (op.counterpart k :: reads) (first :: sights) := by
  cases op with
  | write j t hSerializable v => exact ⟨_, .read hRest⟩
  | writeRaw j bytes => exact ⟨_, .readRaw bytes hRest⟩
  | skipWrite j n =>
      have hMatch := ChannelOperation.Match.skipRead (Bytes.zeros n) hRest
      rw [Bytes.zeros, List.length_replicate] at hMatch
      exact ⟨_, hMatch⟩
  | move i j n =>
      obtain ⟨front, channel, hPasses, hLength, -⟩ := raw_of_perform (.move j) h
      have hFront : (pool.input i).rest.take n = front := by simp [hPasses.rest, ← hLength]
      have hMatch := ChannelOperation.Match.readRaw front hRest
      rw [hLength] at hMatch
      rw [ChannelOperation.portions, hFront]
      exact ⟨_, hMatch⟩
  | _ => cases hTarget

/-- What is written can be read with one read for each write. -/
theorem Runs.match_counterparts {ops : List ChannelOperation} {sights : List ChannelSight} (k : Nat)
    (hRuns : Runs format pool ops sights last) (hTarget : ∀ op ∈ ops, op.target = some o) :
    ∃ seen, ChannelOperation.Match k (pool.written format ops) (ops.map (.counterpart k)) seen := by
  induction hRuns with
  | nil pool => exact ⟨[], .nil⟩
  | @cons pool middle last op ops sight sights first rest ih =>
      obtain ⟨seen, hRest⟩ := ih fun later hLater => hTarget later (List.mem_cons_of_mem _ hLater)
      obtain ⟨one, hMatch⟩ := match_of_perform (hTarget op List.mem_cons_self) first hRest
      exact ⟨one :: seen, by simpa [written, first] using hMatch⟩

/-! ## Writing and then reading -/

/-- A frozen channel has all that was written to the channel it was frozen from. -/
theorem input_of_freezes (format : Format) {freeze : ChannelOperation} (h : pool.Freezes o k freeze) :
    ∃ frozen, pool.perform format freeze = ⟨.nothing, none, frozen⟩ ∧
      frozen.input k = .ofBytes (pool.output o).data := by
  cases h with
  | view => exact ⟨_, rfl, input_addInput_self pool _⟩
  | load hIndex => exact ⟨_, rfl, input_setInput_self hIndex⟩

/-- First in, first out. Whatever is written to an output channel, of whatever kinds, is read from a copy that is
frozen afterwards: what was there before is passed over, and then any reads that match what was written succeed,
show just that in its order, and come to the end of the copy. One read for each write is such a match. Moreover,
raw bytes that are written, moved, read or passed over can as well be written, moved, read or passed over in
pieces. -/
theorem first_in_first_out (format : Format) (pool filled : ChannelPool) (o : Nat)
    (writes : List ChannelOperation) (shown : List ChannelSight) (hOutput : o < pool.outputs.length)
    (hTarget : ∀ op ∈ writes, op.target = some o)
    (hProper : ∀ j t h v, ChannelOperation.write j t h v ∈ writes → t.Proper v)
    (hWrites : Runs format pool writes shown filled)
    (hSize : (filled.output o).size ≤ Bytes.longest) :
    (∀ freeze k reads sights, filled.Freezes o k freeze →
      ChannelOperation.Match k (pool.written format writes) reads sights →
      ∃ last, Runs format filled (freeze :: .skipRead k (pool.output o).size :: reads)
          (.nothing :: .nothing :: sights) last ∧
        (last.input k).available = 0 ∧ (last.input k).position = (filled.output o).size) ∧
    (∀ k, ∃ sights,
      ChannelOperation.Match k (pool.written format writes) (writes.map (.counterpart k)) sights) ∧
    ∀ whole pieces start sight last, ChannelOperation.Splits whole pieces →
      start.perform format whole = ⟨sight, none, last⟩ →
      ∃ sights, Runs format start pieces sights last ∧ sight.bytes = sights.flatMap ChannelSight.bytes := by
  refine ⟨?_, fun k => hWrites.match_counterparts k hTarget, fun whole pieces start sight last => runs_of_splits⟩
  intro freeze k reads sights hFreezes hMatch
  have hData := hWrites.data_of_writes hTarget hOutput
  obtain ⟨frozen, hFrozen, hInput⟩ := input_of_freezes format hFreezes
  have hRest : (frozen.input k).rest =
      (pool.output o).data ++ (pool.written format writes).flatMap (Portion.bytes format) := by
    rw [hInput, ← hData]
    rfl
  have hLength : (frozen.input k).available ≤ Bytes.longest := by
    rw [hInput]
    exact hSize
  obtain ⟨last, hRuns, hPasses⟩ := drains_cons hRest hLength
    (fun channel hPasses => perform_raw .skipRead hPasses rfl trivial)
    (drains_of_match hMatch (hWrites.returns hProper))
  have hPosition := hPasses.position
  have hAvailable := hPasses.available
  rw [← hData, hInput] at hPosition hAvailable
  simp only [InputChannel.ofBytes, InputChannel.position, InputChannel.available, List.length_nil]
    at hPosition hAvailable
  refine ⟨last, .cons hFrozen hRuns, ?_, ?_⟩
  · rw [InputChannel.available]
    omega
  · rw [InputChannel.position, OutputChannel.size]
    omega

/-- A number and a text. -/
abbrev numbered : ValueType := .pair (.scalar .uint32) (.text .owned)

def numberedText : numbered.Val := show BitVec 32 × Bytes from (258, [104, 105])

def mixedPool : ChannelPool := ⟨[⟨[7, 8]⟩], [⟨[1], [2, 3, 4]⟩]⟩

def mixedWrites : List ChannelOperation :=
  [.writeRaw 0 [5], .write 0 numbered (by decide) numberedText, .skipWrite 0 2, .move 0 0 2]

/-- Raw bytes are read across the border between the zeros and the bytes that were moved. -/
theorem first_in_first_out_mixed :
    Runs .network mixedPool mixedWrites [.nothing, .nothing, .nothing, .nothing]
      (mixedPool.after .network mixedWrites) ∧
    ∃ last, Runs .network (mixedPool.after .network mixedWrites)
        [.view 0, .skipRead 1 2, .skipRead 1 1, .read 1 numbered (by decide), .skipRead 1 1, .readRaw 1 3]
        [.nothing, .nothing, .nothing, .value ⟨numbered, numberedText⟩, .nothing, .raw [0, 2, 3]] last ∧
      (last.input 1).available = 0 ∧ (last.input 1).position = 17 := by
  have hTarget : ∀ op ∈ mixedWrites, op.target = some 0 := by
    simp [mixedWrites, ChannelOperation.target]
  have hProper : ∀ j t h v, ChannelOperation.write j t h v ∈ mixedWrites → t.Proper v := by
    intro j t h v hMem
    simp only [mixedWrites, List.mem_cons, List.not_mem_nil, reduceCtorEq, or_false, false_or] at hMem
    cases hMem
    exact ⟨trivial, trivial⟩
  have hWrites : Runs .network mixedPool mixedWrites [.nothing, .nothing, .nothing, .nothing]
      (mixedPool.after .network mixedWrites) :=
    .cons rfl (.cons rfl (.cons rfl (.cons rfl (.nil _))))
  have hMatch : ChannelOperation.Match 1 (mixedPool.written .network mixedWrites)
      [.skipRead 1 1, .read 1 numbered (by decide), .skipRead 1 1, .readRaw 1 3]
      [.nothing, .value ⟨numbered, numberedText⟩, .nothing, .raw [0, 2, 3]] :=
    .skipRead [5] (.read (.skipRead [0] (.readRaw [0, 2, 3] .nil)))
  have hRead := (first_in_first_out .network mixedPool _ 0 mixedWrites _ (by decide) hTarget hProper hWrites
    (by decide)).1
  exact ⟨hWrites, hRead (.view 0) 1 _ _ .view hMatch⟩

end ChannelPool

end SerializerContract
