import SerializerContract.Proofs.Codec.Stall

/-! The decodings inside a decoding. A composite is decoded by decoding its parts one after the other, and
the first part that cannot be read ends it: nothing behind that part is looked at. -/
namespace SerializerContract

namespace Codec

/-- On its way, a decoding comes to decode a part into what `held` holds, from the front of `behind`. -/
inductive ComesTo {β : Type} (part : Codec β) (held : β) (behind : Bytes) :
    {α : Type} → Codec α → α → Bytes → Prop where
  | here : ComesTo part held behind part held behind
  | first {α γ : Type} {one : Codec α} {two : Codec γ} {target : α × γ} {bytes : Bytes}
      (inside : ComesTo part held behind one target.1 bytes) :
      ComesTo part held behind (both one two) target bytes
  | second {α γ : Type} {one : Codec α} {two : Codec γ} {target : α × γ} {bytes : Bytes}
      (read : (one.decode target.1 bytes).stop = none)
      (inside : ComesTo part held behind two target.2 (one.decode target.1 bytes).rest) :
      ComesTo part held behind (both one two) target bytes
  | element {ε : Type} {format : Format} {codec : Codec ε} {insert : List ε → ε → List ε}
      {target : List ε} {bytes body : Bytes} {k n : Nat}
      (accepted : decodeLength format codec.minSize bytes = .accepted n body) (more : k < n)
      (read : (decodeInto codec insert k [] body).stop = none)
      (inside : ComesTo part held behind codec codec.blank (decodeInto codec insert k [] body).rest) :
      ComesTo part held behind (container format codec insert) target bytes

variable {α β ε : Type}

/-- A loop over elements goes on where its first part ended. -/
theorem decodeInto_add (codec : Codec ε) (insert : List ε → ε → List ε) (k m : Nat) (held : List ε)
    (bytes : Bytes) (h : (decodeInto codec insert k held bytes).stop = none) :
    decodeInto codec insert (k + m) held bytes =
      decodeInto codec insert m (decodeInto codec insert k held bytes).value
        (decodeInto codec insert k held bytes).rest := by
  induction k generalizing held bytes with
  | zero => simp [decodeInto]
  | succ k ih =>
      cases hOne : (codec.decode codec.blank bytes).stop with
      | some stop => simp [decodeInto, hOne] at h
      | none =>
          simp only [decodeInto, hOne] at h
          rw [Nat.add_right_comm]
          simp only [decodeInto, hOne]
          exact ih _ _ h

/-- Where a part stops, the whole decoding stops, for the same reason. -/
theorem ComesTo.stops {part : Codec β} {held : β} {behind : Bytes} {codec : Codec α} {target : α}
    {bytes : Bytes} (h : ComesTo part held behind codec target bytes) {stop : Stop}
    (hStop : (part.decode held behind).stop = some stop) :
    (codec.decode target bytes).stop = some stop ∧
      (codec.decode target bytes).rest = (part.decode held behind).rest := by
  induction h with
  | here => exact ⟨hStop, rfl⟩
  | first _ ih => simp [both, ih.1, ih.2]
  | second read _ ih => simp [both, read, ih.1, ih.2]
  | @element ε format codec insert target bytes body k n accepted more read _ ih =>
      obtain ⟨m, rfl⟩ := Nat.exists_eq_add_of_lt more
      rw [Nat.add_assoc] at accepted
      simp only [container, accepted]
      rw [decodeInto_add codec insert k (m + 1) [] body read]
      simp [decodeInto, ih.1, ih.2]

/-! ## Length fields -/

/-- A container or contiguous container of elements with at least `least` bytes each, which begins with a
length field. -/
inductive Counts (format : Format) (least : Nat) : {α : Type} → Codec α → Prop where
  | container {ε : Type} (codec : Codec ε) (insert : List ε → ε → List ε) (size : codec.minSize = least) :
      Counts format least (container format codec insert)
  | contiguous {ε : Type} (codec : Codec ε) (size : codec.minSize = least) :
      Counts format least (contiguous format codec)

/-- A length field that claims too much, as a number of 64 bits, is all that is consumed. -/
theorem Counts.rejects {format : Format} {least n : Nat} {field rest : Bytes} {codec : Codec α}
    (h : Counts format least codec) (hField : Layout.lengthField format n field)
    (hClaims : rest.length < n * least % 0x10000000000000000) (target : α) :
    codec.decode target (field ++ rest) = ⟨target, rest, some .shortage⟩ := by
  have hLength := decodeLength_append hField least rest
  rw [if_pos hClaims] at hLength
  cases h with
  | container codec insert size =>
      subst size
      simp only [Codec.container, hLength]
  | contiguous codec size =>
      subst size
      simp only [Codec.contiguous, hLength]

end Codec

end SerializerContract
