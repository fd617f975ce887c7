import SerializerContract.Proofs.Channel.Cursor
import SerializerContract.Proofs.Codec.Extent
import SerializerContract.Sample.Building

/-! The three ways to read a value: to copy its bytes to another channel, to decode it, and to decode it into a
reuse target. Copying bytes looks at as little of them as it can, and still it takes the same bytes as the
other two from any source, and refuses the same sources. -/
namespace SerializerContract

/-! ## Channels -/

namespace InputChannel

variable {α : Type} {codec : Codec α} {front bytes : Bytes} {v : α} {n : Nat}

/-- Advancing to the suffix moves what stands in front of it to the part already read. -/
theorem advanceTo_append (past front suffix : Bytes) :
    (⟨past, front ++ suffix⟩ : InputChannel).advanceTo suffix = ⟨past ++ front, suffix⟩ := by
  simp [advanceTo]

/-- A read consumes exactly the bytes that spell the value. -/
theorem read_of_spells (h : codec.Spells front v) (past suffix : Bytes) :
    (read codec).outcome ⟨past, front ++ suffix⟩ = (.ok v, ⟨past ++ front, suffix⟩) := by
  simp only [Action.outcome, read, h codec.blank suffix, advanceTo_append]

/-- What the decoder rejects fails as a read, wherever the input stands. -/
theorem read_fails (h : codec.Rejects bytes) (past : Bytes) : (read codec).Fails ⟨past, bytes⟩ := by
  cases hStop : (codec.decode codec.blank bytes).stop with
  | none => exact absurd hStop (h codec.blank)
  | some stop => exact ⟨failureOf stop, ⟨past, bytes⟩, by simp only [Action.outcome, read, hStop]⟩

theorem readInto_fails (h : codec.Rejects bytes) (target : α) (past : Bytes) :
    (readInto codec).Fails (target, ⟨past, bytes⟩) := by
  cases hStop : (codec.decode target bytes).stop with
  | none => exact absurd hStop (h target)
  | some stop => exact ⟨failureOf stop, _, by simp only [Action.outcome, readInto, hStop]; rfl⟩

theorem skip_outcome (h : front.length = n) (past suffix : Bytes) :
    (skip n).outcome ⟨past, front ++ suffix⟩ = (.ok (), ⟨past ++ front, suffix⟩) :=
  (passes_append past front suffix).skip_outcome h

theorem skip_fails (h : bytes.length < n) (past : Bytes) : (skip n).Fails ⟨past, bytes⟩ := by
  refine Action.Fails.bind ⟨.shortage, ⟨past, bytes⟩, ?_⟩ _
  simp only [Action.outcome, readRaw, Codec.splitFront_of_lt h]

end InputChannel

namespace OutputChannel

variable {front bytes : Bytes} {n : Nat}

/-- A move of the right size hands the front over to the output whole. -/
theorem move_outcome (h : front.length = n) (past suffix : Bytes) (out : OutputChannel) :
    (move n).outcome (⟨past, front ++ suffix⟩, out) =
      (.ok (), (⟨past ++ front, suffix⟩, out.appended front)) :=
  (InputChannel.passes_append past front suffix).move_outcome h out

/-- A move past the end of the input fails before anything is written. -/
theorem move_fails (h : bytes.length < n) (past : Bytes) (out : OutputChannel) :
    (move n).Fails (⟨past, bytes⟩, out) :=
  ⟨.shortage, (⟨past, bytes⟩, out), by simp only [Action.outcome, move, Codec.splitFront_of_lt h]⟩

end OutputChannel

/-! ## Operations -/

namespace Operations

variable {σ α : Type}

/-- These bytes are taken in all three ways to read a value, in front of anything. They are copied as they
are; the value is what is decoded, and one as good as it is left in any reuse target. -/
structure Accepts (operations : Operations σ α) (like : α → α → Prop) (front : Bytes) (v : α) : Prop where
  like_self : like v v
  rawCopy : ∀ past suffix out state,
    operations.rawCopy.outcome ((⟨past, front ++ suffix⟩, out), state) =
      (.ok (), ((⟨past ++ front, suffix⟩, out.appended front), state))
  deserialize : ∀ past suffix state,
    operations.deserialize.outcome (⟨past, front ++ suffix⟩, state) = (.ok v, (⟨past ++ front, suffix⟩, state))
  deserializeInto : ∀ past suffix reuse state, ∃ held, like v held ∧
    operations.deserializeInto.outcome ((reuse, ⟨past, front ++ suffix⟩), state) =
      (.ok .target, ((held, ⟨past ++ front, suffix⟩), state))

/-- No value can be read from the bytes in any of the three ways. -/
structure Refuses (operations : Operations σ α) (bytes : Bytes) : Prop where
  rawCopy : ∀ past out state, operations.rawCopy.Fails ((⟨past, bytes⟩, out), state)
  deserialize : ∀ past state, operations.deserialize.Fails (⟨past, bytes⟩, state)
  deserializeInto : ∀ past reuse state, operations.deserializeInto.Fails ((reuse, ⟨past, bytes⟩), state)

/-- The three ways to read a value agree on what to do with a source. -/
inductive Agrees (operations : Operations σ α) (like : α → α → Prop) : Bytes → Prop where
  | refused {bytes : Bytes} (h : operations.Refuses bytes) : Agrees operations like bytes
  | accepted {front : Bytes} {v : α} (h : operations.Accepts like front v) (suffix : Bytes) :
      Agrees operations like (front ++ suffix)

namespace Agrees

variable {operations other : Operations σ α} {like : α → α → Prop} {bytes : Bytes}

/-- Nothing but the three ways to read a value counts. -/
theorem congr (h : operations.Agrees like bytes) (hCopy : other.rawCopy = operations.rawCopy)
    (hRead : other.deserialize = operations.deserialize)
    (hInto : other.deserializeInto = operations.deserializeInto) : other.Agrees like bytes := by
  cases h with
  | refused h => exact .refused ⟨hCopy ▸ h.rawCopy, hRead ▸ h.deserialize, hInto ▸ h.deserializeInto⟩
  | accepted h suffix =>
      exact .accepted ⟨h.like_self, hCopy ▸ h.rawCopy, hRead ▸ h.deserialize, hInto ▸ h.deserializeInto⟩ suffix

end Agrees

/-! ## Codecs -/

section

variable {codec : Codec α} {front bytes : Bytes} {v : α}

/-- Reading into a target leaves the value there and the rest on the input. -/
theorem readIntoTarget_outcome (h : codec.Spells front v) (past suffix : Bytes) (reuse : α) (state : σ) :
    (readIntoTarget codec).outcome ((reuse, ⟨past, front ++ suffix⟩), state) =
      (.ok .target, ((v, ⟨past ++ front, suffix⟩), state)) :=
  Action.bind_ok_iff.mpr ⟨(), _,
    Action.onFirst_ok_iff.mpr ⟨InputChannel.readInto_of_decode (h reuse suffix), rfl⟩, rfl⟩

theorem readIntoTarget_fails (h : codec.Rejects bytes) (past : Bytes) (reuse : α) (state : σ) :
    (readIntoTarget codec).Fails ((reuse, ⟨past, bytes⟩), state) :=
  (InputChannel.readInto_fails h reuse past).onFirst.bind _

variable {initial : α} {length : Int} {rawCopy : Action (InputChannel × OutputChannel) Unit}

/-- A value that is copied as its bytes is read as itself, if the codec reads it from them. -/
theorem ofCodec_accepts (h : codec.Spells front v)
    (hCopies : ∀ past suffix out, rawCopy.outcome (⟨past, front ++ suffix⟩, out) =
      (.ok (), (⟨past ++ front, suffix⟩, out.appended front))) :
    (ofCodec (σ := σ) codec initial length rawCopy).Accepts Eq front v where
  like_self := rfl
  rawCopy past suffix out _ := Action.onFirst_ok_iff.mpr ⟨hCopies past suffix out, rfl⟩
  deserialize past suffix _ :=
    Action.onFirst_ok_iff.mpr ⟨InputChannel.read_of_spells h past suffix, rfl⟩
  deserializeInto past suffix reuse state := ⟨v, rfl, readIntoTarget_outcome h past suffix reuse state⟩

/-- The operations of a codec refuse bytes in all three readings if the raw copy does. -/
theorem ofCodec_refuses (h : codec.Rejects bytes) (hFails : ∀ past out, rawCopy.Fails (⟨past, bytes⟩, out)) :
    (ofCodec (σ := σ) codec initial length rawCopy).Refuses bytes where
  rawCopy past out _ := (hFails past out).onFirst
  deserialize past _ := (InputChannel.read_fails h past).onFirst
  deserializeInto past reuse state := readIntoTarget_fails h past reuse state

/-- Moving so many bytes agrees with decoding values of this size. -/
theorem ofCodec_agrees {n : Nat} (h : codec.Sized n) (bytes : Bytes) :
    (ofCodec (σ := σ) codec initial length (OutputChannel.move n)).Agrees Eq bytes := by
  by_cases hShort : bytes.length < n
  · exact .refused (ofCodec_refuses (h.rejects bytes hShort) fun past out =>
      OutputChannel.move_fails hShort past out)
  · obtain ⟨front, suffix, rfl, hFront⟩ := Codec.exists_front (Nat.not_lt.mp hShort)
    obtain ⟨v, hv⟩ := h.spells front hFront
    exact .accepted (ofCodec_accepts hv fun past suffix out =>
      OutputChannel.move_outcome hFront past suffix out) suffix

end

end Operations

end SerializerContract
