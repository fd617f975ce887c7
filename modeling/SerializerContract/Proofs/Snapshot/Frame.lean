import SerializerContract.Proofs.Codec.Locality
import SerializerContract.Proofs.Codec.Rewriting
import SerializerContract.Proofs.Reading.Operations
import SerializerContract.Proofs.Snapshot

/-! The frame of a snapshot: its id, its version and the bytes of its payload. All of it is read before a registry
is asked for anything, and what can be read as a frame is spelled as that frame is written. -/
namespace SerializerContract

/-- A snapshot in bytes, before anything is known of its type. -/
structure Frame where
  id : Bytes
  version : BitVec 32
  payload : Bytes
deriving DecidableEq, Repr

namespace Frame

/-- The id and the payload with their lengths, and the version between them. -/
def bytes (frame : Frame) : Bytes :=
  textBytes frame.id ++ (wordBytes frame.version ++
    (wordBytes (BitVec.ofNat 32 frame.payload.length) ++ frame.payload))

/-- Both lengths fit their fields. -/
structure Fits (frame : Frame) : Prop where
  id : frame.id.length ≤ Width.w32.maximum
  payload : frame.payload.length ≤ Width.w32.maximum

/-- A frame takes twelve bytes for its two lengths and its version. -/
theorem length_bytes (frame : Frame) :
    frame.bytes.length = frame.id.length + frame.payload.length + 12 := by
  simp only [bytes, List.length_append, length_textBytes, length_wordBytes]
  omega

/-- The length field of a payload that fits says how long it is. -/
theorem Fits.toNat_length {frame : Frame} (h : frame.Fits) :
    frame.payload.length = (BitVec.ofNat 32 frame.payload.length).toNat := by
  rw [BitVec.toNat_ofNat, Nat.mod_eq_of_lt (Nat.lt_of_le_of_lt h.payload (by decide))]

end Frame

/-! ## Codecs -/

namespace Codec

variable {α : Type} {codec : Codec α}

/-- What is decoded from the whole of some bytes is what they spell, if a decoding looks no further. -/
theorem Trips.spells {v : α} {bytes : Bytes} (h : codec.Trips v bytes) (hLocal : codec.Local)
    (hLength : bytes.length ≤ Bytes.longest) : codec.Spells bytes v := by
  have hWhole := h.decode codec.blank [] (by rwa [List.append_nil])
  rw [List.append_nil] at hWhole
  obtain ⟨front, hBytes, hFront⟩ := hLocal.spells codec.blank bytes (congrArg Taken.stop hWhole)
  rw [hWhole, List.append_nil] at hBytes
  rw [hWhole] at hFront
  exact hBytes ▸ hFront

end Codec

theorem wordBytes_spells (v : BitVec 32) : wordCodec.Spells (wordBytes v) v := by
  refine (wordCodec_trips v).spells (Codec.number_local .network 4) ?_
  rw [length_wordBytes]
  decide

theorem textBytes_spells {text : Bytes} (h : text.length ≤ Width.w32.maximum) :
    stringCodec.Spells (textBytes text) text := by
  refine (stringCodec_trips h).spells (Codec.contiguous_local .network Codec.byte_reads Codec.byte_local) ?_
  have hRoom : 4 + Width.w32.maximum ≤ Bytes.longest := by decide
  rw [length_textBytes]
  omega

/-- A word can only fail for want of bytes. -/
theorem wordCodec_stop (target : BitVec 32) (bytes : Bytes) :
    (wordCodec.decode target bytes).stop = none ∨ (wordCodec.decode target bytes).stop = some .shortage := by
  cases hSplit : Codec.splitFront 4 bytes with
  | none => exact .inr (by simp [wordCodec, Codec.number, hSplit])
  | some pair => exact .inl (by simp [wordCodec, Codec.number, hSplit])

/-- A text is never too long for a container, since its length field has only 32 bits. -/
theorem stringCodec_stop (target bytes : Bytes) :
    (stringCodec.decode target bytes).stop = none ∨
      (stringCodec.decode target bytes).stop = some .shortage := by
  have hSmall : Codec.byte.minSize ≤ 0x80000000 := by decide
  cases Codec.counted Codec.byte.minSize bytes with
  | noField hShort =>
      have hLength : Codec.decodeLength .network Codec.byte.minSize bytes = .rejected bytes :=
        Codec.decodeLength_cut Codec.byte.minSize hShort
      exact .inr (by simp only [stringCodec, Codec.contiguous, hLength])
  | @cut field rest hField hShort =>
      have hLength := Codec.decodeLength_of_count hSmall hField rest
      rw [if_pos hShort] at hLength
      exact .inr (by simp only [stringCodec, Codec.contiguous, hLength])
  | @whole field body suffix hField hBody =>
      obtain ⟨text, -, hSpells⟩ := Codec.contiguous_spells Codec.byte_sized Nat.one_pos hSmall hField hBody
      exact .inl (congrArg Taken.stop (hSpells target suffix))

/-- The bytes that a text was read from are those that are written for it. -/
theorem textBytes_of_layout {front text : Bytes} (h : Layout.counted .network .byte id front text) :
    text.length ≤ Width.w32.maximum ∧ front = textBytes text := by
  have hEncode : stringCodec.encode text = .done front := Codec.encode_of_counted Codec.byte_rewrites h
  have hFits : text.length ≤ Width.w32.maximum := by
    obtain ⟨field, body, xs, -, hField, -, rfl⟩ := h
    exact hField.le_maximum
  exact ⟨hFits, congrArg Emitted.bytes (hEncode.symm.trans (stringCodec_encode hFits))⟩

/-- The bytes of a word are determined by its value. -/
theorem wordBytes_of_layout {front : Bytes} {v : BitVec 32} (h : Layout.number .network 4 front v) :
    front = wordBytes v :=
  congrArg Emitted.bytes (Codec.number_rewrites .network 4 front v h).symm

namespace InputChannel

variable {α β : Type} {codec : Codec α} {layout : Layout α}

/-- From any input the action takes the bytes of a value, or it runs short. -/
def Parses (action : Action InputChannel α) (layout : Layout α) : Prop :=
  ∀ input : InputChannel,
    (∃ front v after, input.Passes front after ∧ layout front v ∧ action.outcome input = (.ok v, after)) ∨
    ∃ later, action.outcome input = (.error .shortage, later)

theorem Parses.mono {action : Action InputChannel α} {other : Layout α} (h : Parses action layout)
    (hLayout : ∀ front v, layout front v → other front v) : Parses action other := by
  intro input
  obtain ⟨front, v, after, hPasses, hFront, hOutcome⟩ | hShort := h input
  · exact .inl ⟨front, v, after, hPasses, hLayout front v hFront, hOutcome⟩
  · exact .inr hShort

/-- What reads nothing parses the empty prefix. -/
theorem parses_pure (v : α) : Parses (pure v) fun front w => front = [] ∧ w = v :=
  fun input => .inl ⟨[], v, input, .refl input, ⟨rfl, rfl⟩, rfl⟩

/-- One part after the other; how the second one is spelled can depend on what the first one was. -/
theorem Parses.bind {action : Action InputChannel α} {next : α → Action InputChannel β}
    {following : α → Layout β} (hFirst : Parses action layout)
    (hNext : ∀ v, Parses (next v) (following v)) :
    Parses (action >>= next) fun bytes w => ∃ front back v, bytes = front ++ back ∧ layout front v ∧
      following v back w := by
  intro input
  obtain ⟨front, v, middle, hFront, hLayout, hOutcome⟩ | ⟨later, hShort⟩ := hFirst input
  · obtain ⟨back, w, after, hBack, hFollowing, hRest⟩ | ⟨later, hShort⟩ := hNext v middle
    · refine .inl ⟨front ++ back, w, after, hFront.trans hBack, ⟨front, back, v, rfl, hLayout, hFollowing⟩, ?_⟩
      exact Action.bind_ok_iff.mpr ⟨v, middle, hOutcome, hRest⟩
    · exact .inr ⟨later, by rw [Action.outcome_bind, hOutcome]; exact hShort⟩
  · exact .inr ⟨later, by rw [Action.outcome_bind, hShort]⟩

/-- A codec that fails for want of bytes alone is a parser of its layout. -/
theorem read_parses (hReads : codec.Reads layout)
    (hStop : ∀ bytes, (codec.decode codec.blank bytes).stop = none ∨
      (codec.decode codec.blank bytes).stop = some .shortage) : Parses (read codec) layout := by
  intro input
  obtain hRead | ⟨failure, hFailed⟩ := read_cases hReads input
  · exact .inl hRead
  · obtain hNone | hShort := hStop input.rest
    · simp only [Action.outcome, read, hNone] at hFailed
      cases hFailed
    · exact .inr ⟨input, by simp only [Action.outcome, read, hShort, failureOf]⟩

/-- The text of a frame is its length and its bytes. -/
theorem read_text_parses : Parses (read stringCodec) fun front text =>
    text.length ≤ Width.w32.maximum ∧ front = textBytes text :=
  (read_parses (Codec.contiguous_reads .network Codec.byte_reads Nat.one_pos)
    (stringCodec_stop stringCodec.blank)).mono fun _ _ => textBytes_of_layout

theorem read_word_parses : Parses (read wordCodec) fun front v => front = wordBytes v :=
  (read_parses (Codec.number_reads .network 4) (wordCodec_stop wordCodec.blank)).mono
    fun _ _ => wordBytes_of_layout

theorem readRaw_parses (n : Nat) : Parses (readRaw n) fun front bytes => front.length = n ∧ bytes = front := by
  intro input
  obtain ⟨front, after, hPasses, hFront, hOutcome⟩ | hShort := readRaw_cases n input
  · exact .inl ⟨front, front, after, hPasses, ⟨hFront, rfl⟩, hOutcome⟩
  · exact .inr ⟨input, hShort⟩

/-- Reads a frame, with no registry at hand. -/
def readFrame : Action InputChannel Frame := do
  let id ← read stringCodec
  let version ← read wordCodec
  let length ← read wordCodec
  let payload ← readRaw length.toNat
  return ⟨id, version, payload⟩

/-- A frame is read from the bytes that are written for it, in front of anything. -/
theorem Passes.readFrame_outcome {before after : InputChannel} {frame : Frame} (hFits : frame.Fits)
    (h : before.Passes frame.bytes after) : readFrame.outcome before = (.ok frame, after) := by
  obtain ⟨past, rest⟩ := before
  obtain rfl : rest = frame.bytes ++ after.rest := h.rest
  have hText := fun past rest => read_of_spells (textBytes_spells hFits.id) past rest
  have hWord := fun v past rest => read_of_spells (wordBytes_spells v) past rest
  have hRaw := fun past => (passes_append past frame.payload after.rest).readRaw_outcome hFits.toNat_length
  rw [h.after_eq]
  simp only [Frame.bytes, List.append_assoc]
  simp only [readFrame, Action.outcome_bind, hText, hWord, hRaw, Action.outcome_pure, List.append_assoc]

/-- Whatever is read as a frame is what is written for that frame. -/
theorem readFrame_parses : Parses readFrame fun front frame => front = frame.bytes ∧ frame.Fits := by
  refine Parses.mono (read_text_parses.bind fun id => read_word_parses.bind fun version =>
    read_word_parses.bind fun length => (readRaw_parses length.toNat).bind fun payload => parses_pure _) ?_
  rintro front frame ⟨_, _, id, rfl, ⟨hId, rfl⟩, _, _, version, rfl, rfl, _, _, length, rfl, rfl, _, _, payload,
    rfl, ⟨hPayload, rfl⟩, rfl, rfl⟩
  have hLength : BitVec.ofNat 32 payload.length = length := by
    rw [hPayload, BitVec.ofNat_toNat, BitVec.setWidth_eq]
  refine ⟨?_, hId, hPayload ▸ Nat.le_of_lt_succ length.isLt⟩
  rw [Frame.bytes, hLength, List.append_nil]

end InputChannel

/-! ## Snapshots -/

namespace Contract

variable {σ A S N : Type} {t : ValueType} (C : Contract σ A t S N)

def frame (n : N) (payload : Bytes) : Frame :=
  ⟨C.snapshotId n, BitVec.ofInt 32 (C.snapshotVersion n), payload⟩

theorem frame_bytes (n : N) (payload : Bytes) : (C.frame n payload).bytes = C.framed n payload := rfl

variable (registry : Registry σ A) {input later : InputChannel}

/-- What becomes of the bytes of a payload: an empty snapshot of the registered type reads them, all of them. -/
def takeOver (id : Bytes) (version : Int) (bytes : Bytes) : Action σ N := do
  let empty ← C.instantiate registry id
  let ((), (snapshot, payload)) ←
    Action.withLocal (empty, InputChannel.ofBytes bytes) (C.readPayload version registry)
  if payload.available ≠ 0 then
    throw (.deserialization ("Snapshot " ++ Registry.quoted id ++ " left " ++
      payload.available.repr ++ " bytes of its payload unread"))
  return snapshot

/-- First there is a frame, and only then is the registry asked for a snapshot. -/
theorem readSnapshot_eq_readFrame : C.readSnapshot registry =
    Action.onFirst InputChannel.readFrame >>= fun frame =>
      Action.onSecond (C.takeOver registry frame.id frame.version.toInt frame.payload) := by
  simp only [InputChannel.readFrame, Action.onFirst_bind, bind_assoc]
  rfl

theorem readSnapshot_of_frame {frame : Frame}
    (h : InputChannel.readFrame.outcome input = (.ok frame, later)) (state : σ) :
    (C.readSnapshot registry).outcome (input, state) =
      (Action.onSecond (C.takeOver registry frame.id frame.version.toInt frame.payload)).outcome
        (later, state) := by
  rw [readSnapshot_eq_readFrame, Action.outcome_bind, Action.onFirst_outcome, h]

theorem readSnapshot_of_no_frame {failure : Failure}
    (h : InputChannel.readFrame.outcome input = (.error failure, later)) (state : σ) :
    (C.readSnapshot registry).outcome (input, state) = (.error failure, (later, state)) := by
  rw [readSnapshot_eq_readFrame, Action.outcome_bind, Action.onFirst_outcome, h]

end Contract

end SerializerContract
