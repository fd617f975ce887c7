import SerializerContract.Proofs.Action
import SerializerContract.Proofs.Codec.RoundTrip
import SerializerContract.Registry

/-! Channels. A value that can be written adds its bytes at the end, and these bytes are read back as the
value, with anything behind them. -/
namespace SerializerContract

namespace Codec

variable {α : Type}

/-- A value is encoded as some bytes, and they are decoded as the value in front of anything. -/
structure Trips (codec : Codec α) (v : α) (bytes : Bytes) : Prop where
  encode : codec.encode v = .done bytes
  decode : ∀ target suffix, (bytes ++ suffix).length ≤ Bytes.longest →
    codec.decode target (bytes ++ suffix) = ⟨v, suffix, none⟩

/-- A codec that writes a layout and reads it takes valid values there and back. -/
theorem Reads.trips {codec : Codec α} {layout : Layout α} {valid : α → Prop} (hReads : codec.Reads layout)
    (hWrites : codec.Writes layout valid) {v : α} {bytes : Bytes} (hValid : valid v)
    (hEncode : codec.encode v = .done bytes) : codec.Trips v bytes := by
  have hLayout := hWrites v hValid (hEncode ▸ rfl)
  rw [hEncode] at hLayout
  exact ⟨hEncode, fun target suffix => hReads.complete target bytes suffix v hLayout⟩

end Codec

namespace OutputChannel

variable {α : Type}

@[simp] theorem appended_nil (out : OutputChannel) : out.appended [] = out := by
  rw [appended, List.append_nil]

@[simp] theorem appended_appended (out : OutputChannel) (first second : Bytes) :
    (out.appended first).appended second = out.appended (first ++ second) := by
  simp only [appended, List.append_assoc]

@[simp] theorem size_empty : size {} = 0 := rfl

@[simp] theorem size_appended (out : OutputChannel) (bytes : Bytes) :
    (out.appended bytes).size = out.size + bytes.length := by
  simp only [size, appended, List.length_append]

/-- A value is written exactly if it can be encoded to the end, and its bytes are added. -/
theorem write_ok_iff {codec : Codec α} {v : α} {out last : OutputChannel} :
    (write codec v).outcome out = (.ok (), last) ↔
      (codec.encode v).complete = true ∧ out.appended (codec.encode v).bytes = last := by
  cases hComplete : (codec.encode v).complete with
  | true => simp [write, Action.outcome, hComplete]
  | false => simp [write, Action.outcome, hComplete]

/-- A value that can be written once is written the same way behind anything. -/
theorem write_of_complete {codec : Codec α} {v : α} (h : (codec.encode v).complete = true)
    (out : OutputChannel) :
    (write codec v).outcome out = (.ok (), out.appended (codec.encode v).bytes) :=
  write_ok_iff.mpr ⟨h, rfl⟩

theorem complete_of_write {codec : Codec α} {v : α} {out : OutputChannel}
    (h : ((write codec v).outcome out).1 = .ok ()) : (codec.encode v).complete = true :=
  (write_ok_iff.mp (Prod.ext h rfl)).1

/-- A value that makes the round trip is written as the bytes that it is read from. -/
theorem write_outcome {codec : Codec α} {v : α} {bytes : Bytes} (h : codec.Trips v bytes)
    (out : OutputChannel) : (write codec v).outcome out = (.ok (), out.appended bytes) := by
  rw [write_of_complete (congrArg Emitted.complete h.encode), h.encode]
  rfl

theorem write_succeeds {codec : Codec α} {v : α} {bytes : Bytes} (h : codec.Trips v bytes)
    (out : OutputChannel) : (write codec v).Succeeds out fun _ last => last = out.appended bytes :=
  ⟨(), _, write_outcome h out, rfl⟩

@[simp] theorem writeRaw_outcome (bytes : Bytes) (out : OutputChannel) :
    (writeRaw bytes).outcome out = (.ok (), out.appended bytes) := rfl

/-- Bytes that are passed over are written as zeros, all together. -/
theorem skip_ok_iff {n : Nat} {out last : OutputChannel} : (skip n).outcome out = (.ok (), last) ↔
    (n ≤ capacity - out.size ∧ n ≤ Bytes.mostMemory) ∧ out.appended (Bytes.zeros n) = last := by
  simp only [Action.outcome, skip]
  by_cases hLonger : capacity - out.size < n
  · simp [hLonger, Nat.not_le.mpr hLonger]
  · by_cases hMemory : Bytes.mostMemory < n
    · simp [hLonger, hMemory, Nat.not_le.mpr hMemory]
    · simp [hLonger, hMemory, Nat.not_lt.mp hLonger, Nat.not_lt.mp hMemory]

theorem skip_outcome {n : Nat} (out : OutputChannel) (hRoom : out.size + n ≤ capacity)
    (hMemory : n ≤ Bytes.mostMemory) : (skip n).outcome out = (.ok (), out.appended (Bytes.zeros n)) :=
  skip_ok_iff.mpr ⟨⟨by omega, hMemory⟩, rfl⟩

/-- What was passed over is filled with zeros. -/
theorem appended_of_skip {n : Nat} {out last : OutputChannel} (h : (skip n).outcome out = (.ok (), last)) :
    last = out.appended (Bytes.zeros n) :=
  (skip_ok_iff.mp h).2.symm

/-- Moving a front leaves what is behind it. -/
theorem move_succeeds {n : Nat} {front suffix : Bytes} {input : InputChannel} (out : OutputChannel)
    (hLength : front.length = n) (h : input.rest = front ++ suffix) :
    (move n).Succeeds (input, out) fun _ last => last.1.rest = suffix ∧ last.2 = out.appended front := by
  refine ⟨(), (⟨input.past ++ front, suffix⟩, out.appended front), ?_, rfl, rfl⟩
  simp only [Action.outcome, move, h, Codec.splitFront_append hLength]

/-- What is moved is taken from one channel and added to the other. -/
theorem size_of_move {n : Nat} {before after : InputChannel × OutputChannel}
    (h : (move n).outcome before = (.ok (), after)) :
    before.1.rest.length = after.1.rest.length + n ∧ after.2.size = before.2.size + n := by
  simp only [Action.outcome, move] at h
  cases hSplit : Codec.splitFront n before.1.rest with
  | none =>
      rw [hSplit] at h
      cases h
  | some pair =>
      obtain ⟨hRest, hFront⟩ := Codec.splitFront_eq_some hSplit
      rw [hSplit] at h
      obtain ⟨-, rfl⟩ := Prod.mk.inj h
      simp only [size_appended, hRest, List.length_append]
      omega

end OutputChannel

namespace InputChannel

variable {α : Type}

/-- Decoding a number takes as many bytes as it has, whatever the target. -/
theorem length_of_decode_number {order : ByteOrder} {n : Nat} {target : BitVec (8 * n)} {bytes : Bytes}
    (h : ((Codec.number order n).decode target bytes).stop = none) :
    bytes.length = ((Codec.number order n).decode target bytes).rest.length + n := by
  simp only [Codec.number] at h ⊢
  cases hSplit : Codec.splitFront n bytes with
  | none =>
      rw [hSplit] at h
      cases h
  | some pair =>
      obtain ⟨hBytes, hFront⟩ := Codec.splitFront_eq_some hSplit
      have hLength := congrArg List.length hBytes
      rw [List.length_append] at hLength
      simp only
      omega

/-- Reading a number takes as many bytes as it has. -/
theorem available_of_read {order : ByteOrder} {n : Nat} {v : BitVec (8 * n)} {input later : InputChannel}
    (h : (read (.number order n)).outcome input = (.ok v, later)) :
    input.available = later.available + n := by
  simp only [Action.outcome, read] at h
  cases hStop : ((Codec.number order n).decode (Codec.number order n).blank input.rest).stop with
  | some stop =>
      rw [hStop] at h
      cases h
  | none =>
      rw [hStop] at h
      obtain ⟨-, rfl⟩ := Prod.mk.inj h
      exact length_of_decode_number hStop

/-- Reading a number into a target takes as many bytes as it has. -/
theorem available_of_readInto {order : ByteOrder} {n : Nat} {before after : BitVec (8 * n) × InputChannel}
    (h : (readInto (.number order n)).outcome before = (.ok (), after)) :
    before.2.available = after.2.available + n := by
  simp only [Action.outcome, readInto] at h
  cases hStop : ((Codec.number order n).decode before.1 before.2.rest).stop with
  | some stop =>
      rw [hStop] at h
      cases h
  | none =>
      rw [hStop] at h
      obtain ⟨-, rfl⟩ := Prod.mk.inj h
      exact length_of_decode_number hStop

theorem available_of_rest {input : InputChannel} (h : input.rest = []) : input.available = 0 := by
  rw [available, h, List.length_nil]

/-- A value is read from its bytes, and what is behind them is left. -/
theorem read_succeeds {codec : Codec α} {v : α} {bytes suffix : Bytes} {input : InputChannel}
    (hTrips : codec.Trips v bytes) (h : input.rest = bytes ++ suffix)
    (hLength : input.rest.length ≤ Bytes.longest) :
    (read codec).Succeeds input fun w last => w = v ∧ last.rest = suffix := by
  refine ⟨v, input.advanceTo suffix, ?_, rfl, rfl⟩
  simp only [Action.outcome, read, h, hTrips.decode codec.blank suffix (h ▸ hLength)]

/-- Reading a value to the end moves the cursor over its bytes. -/
theorem readInto_of_decode {codec : Codec α} {target v : α} {past front rest : Bytes}
    (h : codec.decode target (front ++ rest) = ⟨v, rest, none⟩) :
    (readInto codec).outcome (target, ⟨past, front ++ rest⟩) = (.ok (), (v, ⟨past ++ front, rest⟩)) := by
  simp [readInto, Action.outcome, h, advanceTo]

/-- A value is read from its bytes whatever the target holds. -/
theorem readInto_succeeds {codec : Codec α} {v : α} {bytes suffix : Bytes} {input : InputChannel}
    (hTrips : codec.Trips v bytes) (h : input.rest = bytes ++ suffix)
    (hLength : input.rest.length ≤ Bytes.longest) (target : α) :
    (readInto codec).Succeeds (target, input) fun _ last => last.1 = v ∧ last.2.rest = suffix := by
  obtain ⟨past, rest⟩ := input
  obtain rfl : rest = bytes ++ suffix := h
  exact ⟨(), _, readInto_of_decode (hTrips.decode target suffix hLength), rfl, rfl⟩

/-- Taking a front leaves what is behind it. -/
theorem readRaw_succeeds {n : Nat} {front suffix : Bytes} {input : InputChannel}
    (hLength : front.length = n) (h : input.rest = front ++ suffix) :
    (readRaw n).Succeeds input fun bytes last => bytes = front ∧ last.rest = suffix := by
  refine ⟨front, ⟨input.past ++ front, suffix⟩, ?_, rfl, rfl⟩
  simp only [Action.outcome, readRaw, h, Codec.splitFront_append hLength]

/-- Passing over a front leaves what is behind it. -/
theorem skip_succeeds {n : Nat} {front suffix : Bytes} {input : InputChannel} (hLength : front.length = n)
    (h : input.rest = front ++ suffix) :
    (skip n).Succeeds input fun _ last => last.rest = suffix :=
  (readRaw_succeeds hLength h).bind fun _ _ hRead => Action.pure_succeeds hRead.2

end InputChannel

/-! ## Words and texts -/

/-- The bytes of a number of 32 bits. -/
def wordBytes (v : BitVec 32) : Bytes := ByteOrder.network.toBytes 4 v.toNat

theorem length_wordBytes (v : BitVec 32) : (wordBytes v).length = 4 :=
  ByteOrder.length_toBytes _ 4 _

/-- Every number of 32 bits makes the round trip. -/
theorem wordCodec_trips (v : BitVec 32) : wordCodec.Trips v (wordBytes v) :=
  (Codec.number_reads .network 4).trips (Codec.number_writes .network 4) trivial rfl

/-- The bytes of a text: its length and the text. -/
def textBytes (text : Bytes) : Bytes := ByteOrder.network.toBytes 4 text.length ++ text

theorem length_textBytes (text : Bytes) : (textBytes text).length = 4 + text.length := by
  rw [textBytes, List.length_append, ByteOrder.length_toBytes]

/-- A text is written as it is. -/
theorem encodeAll_byte (text : Bytes) : Codec.encodeAll Codec.byte text = .done text := by
  induction text with
  | nil => rfl
  | cons first rest ih =>
      rw [Codec.encodeAll, ih]
      rfl

/-- A text that is not too long for its length field is written whole. -/
theorem stringCodec_encode {text : Bytes} (h : text.length ≤ Width.w32.maximum) :
    stringCodec.encode text = .done (textBytes text) := by
  have hField : Codec.encodeLength .network text.length =
      .done (ByteOrder.network.toBytes 4 text.length) := if_pos h
  change (Codec.encodeLength .network text.length).andThen (Codec.encodeAll Codec.byte text) = _
  rw [hField, encodeAll_byte]
  rfl

/-- A text is written as its length and its bytes. -/
theorem stringCodec_writes :
    stringCodec.Writes (.counted .network .byte id) fun _ => True :=
  fun _ _ hComplete =>
    Codec.encodeLength_andThen_encodeAll Codec.byte_writes (fun _ _ => trivial) rfl hComplete

/-- A text whose length fits its field makes the round trip. -/
theorem stringCodec_trips {text : Bytes} (h : text.length ≤ Width.w32.maximum) :
    stringCodec.Trips text (textBytes text) :=
  (Codec.contiguous_reads .network Codec.byte_reads Nat.one_pos).trips stringCodec_writes trivial
    (stringCodec_encode h)

end SerializerContract
