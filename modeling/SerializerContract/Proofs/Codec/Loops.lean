import SerializerContract.Proofs.Codec.Layout

/-! The loops of decoders. A container is read by a loop over as many elements as its length field claims. Every
element takes some bytes, so the bytes run out, and the loop ends, long before a large claim is met. -/
namespace SerializerContract

namespace Codec

variable {ε : Type}

/-- How many of `n` elements a loop begins to read: all of them, or those up to the first that cannot be read. -/
def begun (codec : Codec ε) : (n : Nat) → Bytes → Nat
  | 0, _ => 0
  | n + 1, bytes =>
    let one := codec.decode codec.blank bytes
    match one.stop with
    | some _ => 1
    | none => begun codec n one.rest + 1

/-- A loop begins with an element exactly if there is one more to read, and all before it have been read. -/
theorem lt_begun_iff (codec : Codec ε) (insert : List ε → ε → List ε) (n k : Nat) (held : List ε)
    (bytes : Bytes) :
    k < codec.begun n bytes ↔ k < n ∧ (decodeInto codec insert k held bytes).stop = none := by
  induction n generalizing k held bytes with
  | zero => simp [begun]
  | succ n ih =>
      cases hOne : (codec.decode codec.blank bytes).stop with
      | some stop => cases k with
        | zero => simp [begun, hOne, decodeInto]
        | succ k => simp [begun, hOne, decodeInto]
      | none => cases k with
        | zero => simp [begun, hOne, decodeInto]
        | succ k =>
            simp only [begun, hOne, decodeInto, Nat.add_lt_add_iff_right]
            exact ih k _ _

/-- So many elements take at least so many times their least size. -/
theorem length_of_decodeInto {codec : Codec ε} {layout : Layout ε} (h : codec.Reads layout)
    (insert : List ε → ε → List ε) (n : Nat) (held : List ε) (bytes : Bytes)
    (hStop : (decodeInto codec insert n held bytes).stop = none) :
    n * codec.minSize + (decodeInto codec insert n held bytes).rest.length ≤ bytes.length := by
  obtain ⟨body, xs, hBytes, hEach, rfl, -⟩ := decodeInto_sound h.sound insert n held bytes hStop
  have hBody := hEach.length_le h.least
  have hLength := congrArg List.length hBytes
  rw [List.length_append] at hLength
  omega

/-- All but the last element that a loop begins with have been read, from bytes that were there. -/
theorem begun_mul_le {codec : Codec ε} {layout : Layout ε} (h : codec.Reads layout) (n : Nat) (bytes : Bytes) :
    (codec.begun n bytes - 1) * codec.minSize ≤ bytes.length := by
  by_cases hNone : codec.begun n bytes = 0
  · simp [hNone]
  · have hLast : codec.begun n bytes - 1 < codec.begun n bytes := Nat.sub_one_lt hNone
    obtain ⟨-, hStop⟩ := (codec.lt_begun_iff (fun xs x => xs ++ [x]) n _ [] bytes).mp hLast
    exact Nat.le_trans (Nat.le_add_right _ _) (length_of_decodeInto h _ _ [] bytes hStop)

/-- If no element is empty, a loop begins with at most one element more than there are bytes. -/
theorem begun_le {codec : Codec ε} {layout : Layout ε} (h : codec.Reads layout) (hPos : 0 < codec.minSize)
    (n : Nat) (bytes : Bytes) : codec.begun n bytes ≤ bytes.length + 1 := by
  have hRead := begun_mul_le h n bytes
  have hEach : codec.begun n bytes - 1 ≤ (codec.begun n bytes - 1) * codec.minSize :=
    Nat.le_mul_of_pos_right _ hPos
  omega

/-- A container, contiguous or not, that is read by a loop over elements of the codec. -/
inductive LoopsOver (format : Format) (element : Codec ε) : {α : Type} → Codec α → Prop where
  | container (insert : List ε → ε → List ε) : LoopsOver format element (container format element insert)
  | contiguous : LoopsOver format element (contiguous format element)

end Codec

end SerializerContract
