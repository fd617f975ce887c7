import SerializerContract.Proofs.Channel
import SerializerContract.Sample.Building

/-! Serializers made from a codec. What the codec writes is what they write, read and copy; a counted value
is copied whole, its length field and as many elements as it says. -/
namespace SerializerContract

namespace Operations

variable {σ α : Type} {codec : Codec α} {initial v : α} {length : Int} {bytes suffix : Bytes}
    {rawCopy : Action (InputChannel × OutputChannel) Unit} {input : InputChannel} {state : σ}

/-- A serializer made from a codec writes what the codec does. -/
theorem ofCodec_serialize_succeeds (hTrips : codec.Trips v bytes) (out : OutputChannel) :
    ((ofCodec codec initial length rawCopy).serialize v).Succeeds (out, state) fun _ last =>
      last.1 = out.appended bytes ∧ last.2 = state :=
  ⟨(), (out.appended bytes, state),
    Action.onFirst_ok_iff.mpr ⟨OutputChannel.write_outcome hTrips out, rfl⟩, rfl, rfl⟩

/-- A serializer made from a codec reads what the codec does. -/
theorem ofCodec_deserialize_succeeds (hTrips : codec.Trips v bytes) (hInput : input.rest = bytes ++ suffix)
    (hLength : input.rest.length ≤ Bytes.longest) :
    (ofCodec codec initial length rawCopy).deserialize.Succeeds (input, state) fun w last =>
      (w = v ∧ last.1.rest = suffix) ∧ last.2 = state :=
  (InputChannel.read_succeeds hTrips hInput hLength).onFirst

/-- A value is read into the target, and the target is handed back. -/
theorem readIntoTarget_succeeds (hTrips : codec.Trips v bytes) (hInput : input.rest = bytes ++ suffix)
    (hLength : input.rest.length ≤ Bytes.longest) (target : α) :
    (readIntoTarget codec).Succeeds ((target, input), state) fun returned last =>
      returned = .target ∧ last.1.1 = v ∧ last.1.2.rest = suffix ∧ last.2 = state := by
  apply (InputChannel.readInto_succeeds hTrips hInput hLength target).onFirst.bind
  intro _ last hRead
  obtain ⟨⟨hValue, hRest⟩, hState⟩ := hRead
  exact Action.pure_succeeds ⟨rfl, hValue, hRest, hState⟩

/-! ## Counted values -/

/-- The field that a counted value starts with. -/
def countField (n : Nat) : Bytes := ByteOrder.network.toBytes 4 n

theorem length_countField (n : Nat) : (countField n).length = 4 := ByteOrder.length_toBytes _ 4 n

/-- A count that fits is written like any number of 32 bits. -/
theorem wordBytes_ofNat {n : Nat} (h : n ≤ Width.w32.maximum) :
    wordBytes (BitVec.ofNat 32 n) = countField n := by
  have hFits : n < 2 ^ 32 := Nat.lt_of_le_of_lt h (by decide)
  rw [wordBytes, BitVec.toNat_ofNat, Nat.mod_eq_of_lt hFits, countField]

/-- The length field and exactly as many elements are copied, if the length passes the check. -/
theorem rawCopyCounted_succeeds {elementSize n : Nat} {check : Nat → Except Failure Unit} {body : Bytes}
    (hCheck : check n = .ok ()) (hCount : n ≤ Width.w32.maximum) (hBody : body.length = n * elementSize)
    (hInput : input.rest = (countField n ++ body) ++ suffix) (hLength : input.rest.length ≤ Bytes.longest)
    (out : OutputChannel) :
    (rawCopyCounted elementSize check).Succeeds (input, out) fun _ last =>
      last.1.rest = suffix ∧ last.2 = out.appended (countField n ++ body) := by
  have hField := wordBytes_ofNat hCount
  have hToNat : (BitVec.ofNat 32 n).toNat = n := by
    rw [BitVec.toNat_ofNat]
    exact Nat.mod_eq_of_lt (Nat.lt_of_le_of_lt hCount (by decide))
  rw [List.append_assoc, ← hField] at hInput
  apply (InputChannel.read_succeeds (wordCodec_trips _) hInput hLength).onFirst.bind
  intro length middle hRead
  obtain ⟨input', out⟩ := middle
  obtain ⟨⟨rfl, hRest⟩, rfl⟩ := hRead
  have hAccepted : check (BitVec.ofNat 32 n).toNat = .ok () := by rw [hToNat, hCheck]
  apply (Action.ofExcept_succeeds hAccepted).bind
  intro _ _ hSame
  obtain ⟨-, rfl⟩ := hSame
  apply (OutputChannel.write_succeeds (wordCodec_trips (BitVec.ofNat 32 n)) out).onSecond.bind
  intro _ middle hWritten
  obtain ⟨input'', written⟩ := middle
  obtain ⟨rfl, rfl⟩ := hWritten
  rw [hToNat, hField]
  apply (OutputChannel.move_succeeds _ hBody hRest).mono
  intro _ last hMoved
  rw [OutputChannel.appended_appended] at hMoved
  exact hMoved

end Operations

end SerializerContract
