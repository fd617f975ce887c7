import SerializerContract.Proofs.Codec.Layout

/-! Length fields that claim more than there is. A decoder compares a length field with the remaining
bytes in 64-bit arithmetic, and a product that wraps around can pass. Whatever passes, a claim of more
elements than the remaining bytes can hold never ends in a successful decoding, at any depth. -/
namespace SerializerContract

/-- What a length field claims: a number of elements, of some least size each, in the bytes that
follow the field. -/
structure LengthClaim where
  count : Nat
  least : Nat
  rest : Bytes

/-- The elements cannot fit into the bytes that are left. The product is exact. -/
def LengthClaim.Excessive (claim : LengthClaim) : Prop :=
  claim.rest.length < claim.count * claim.least

instance (claim : LengthClaim) : Decidable claim.Excessive :=
  inferInstanceAs (Decidable (_ < _))

/-- Which length fields a reader of some bytes comes to. -/
abbrev Claims := Bytes → LengthClaim → Prop

namespace Claims

variable {α ε : Type}

/-- Numbers have no length field. -/
def never : Claims := fun _ _ => False

/-- The length fields of the second part are reached behind a first part. -/
def both (layout : Layout α) (first second : Claims) : Claims := fun bytes claim =>
  first bytes claim ∨
    ∃ front back v, bytes = front ++ back ∧ layout front v ∧ second back claim

def row (layout : Layout α) (claims : Claims) : (n : Nat) → Claims
  | 0 => never
  | n + 1 => both layout claims (row layout claims n)

/-- The container's own length field comes first. The length fields of an element are reached behind
the elements before it, as long as fewer than the claimed number were read. -/
def counted (format : Format) (least : Nat) (layout : Layout ε) (claims : Claims) : Claims :=
  fun bytes claim =>
    (∃ field, bytes = field ++ claim.rest ∧ Layout.lengthField format claim.count field ∧
      claim.least = least) ∨
    ∃ field front back xs n, bytes = field ++ (front ++ back) ∧ Layout.lengthField format n field ∧
      Layout.Each layout front xs ∧ xs.length < n ∧ claims back claim

end Claims

namespace Codec

variable {α β ε : Type}

/-- A decoder that comes to an excessive claim does not succeed. -/
def Refuses (codec : Codec α) (claims : Claims) : Prop :=
  ∀ target bytes claim, bytes.length ≤ Bytes.longest → claims bytes claim → claim.Excessive →
    (codec.decode target bytes).stop ≠ none

theorem refuses_never (codec : Codec α) : codec.Refuses .never :=
  fun _ _ _ _ hClaim => hClaim.elim

/-- A length that claims too much is refused in either part. -/
theorem both_refuses {first : Codec α} {second : Codec β} {layout : Layout α} {one two : Claims}
    (hReads : first.Reads layout) (hFirst : first.Refuses one) (hSecond : second.Refuses two) :
    (both first second).Refuses (.both layout one two) := by
  intro target bytes claim hLength hClaim hExcessive
  rcases hClaim with hClaim | ⟨front, back, v, rfl, hFront, hClaim⟩
  · cases hOne : (first.decode target.1 bytes).stop with
    | none => exact absurd hOne (hFirst target.1 bytes claim hLength hClaim hExcessive)
    | some stop => simp [both, hOne]
  · have hTwo := hSecond target.2 back claim (length_le_of_append hLength) hClaim hExcessive
    simpa [both, hReads.complete target.1 front back v hFront hLength] using hTwo

/-- A length that claims too much is refused in every element of a row. -/
theorem row_refuses {codec : Codec α} {layout : Layout α} {claims : Claims}
    (hReads : codec.Reads layout) (h : codec.Refuses claims) (n : Nat) :
    (row codec n).Refuses (.row layout claims n) := by
  induction n with
  | zero => exact refuses_never _
  | succ n ih => exact both_refuses hReads h ih

/-- An accepted container holds at least the bytes that its own length field claims. -/
theorem counted_not_excessive {format : Format} {least : Nat} {layout : Layout ε}
    {collect : List ε → List ε} (hLeast : ∀ bytes x, layout bytes x → least ≤ bytes.length)
    {front rest field : Bytes} {v : List ε} {claim : LengthClaim}
    (hFront : Layout.counted format layout collect front v)
    (hBytes : front ++ rest = field ++ claim.rest)
    (hField : Layout.lengthField format claim.count field) (hClaim : claim.least = least) :
    ¬ claim.Excessive := by
  obtain ⟨field', body, xs, rfl, hField', hEach, _⟩ := hFront
  rw [List.append_assoc] at hBytes
  obtain ⟨rfl, hRest⟩ := List.append_inj hBytes (hField'.1.trans hField.1.symm)
  have hCount : claim.count = xs.length := hField.2.symm.trans hField'.2
  have hBody := hEach.length_le hLeast
  rw [LengthClaim.Excessive, ← hRest, hCount, hClaim, List.length_append]
  omega

/-- A failing element fails the container. -/
theorem decodeInto_stop_of_element {codec : Codec ε} {layout : Layout ε} (h : codec.Reads layout)
    (insert : List ε → ε → List ε) {front back : Bytes} {xs : List ε} {n : Nat}
    (each : Layout.Each layout front xs) (hCount : xs.length < n)
    (hLength : (front ++ back).length ≤ Bytes.longest)
    (hStop : (codec.decode codec.blank back).stop ≠ none) :
    (decodeInto codec insert n [] (front ++ back)).stop ≠ none := by
  obtain ⟨k, rfl⟩ := Nat.exists_eq_add_of_lt hCount
  rw [Nat.add_assoc, decodeInto_of_each h insert each _ _ _ hLength, decodeInto]
  cases hElement : (codec.decode codec.blank back).stop with
  | none => exact absurd hElement hStop
  | some stop => simp

/-- A container refuses what its elements refuse, and excessive claims of its own. -/
theorem container_refuses (format : Format) {codec : Codec ε} {layout : Layout ε} {claims : Claims}
    (hReads : codec.Reads layout) (h : codec.Refuses claims) (insert : List ε → ε → List ε) :
    (container format codec insert).Refuses (.counted format codec.minSize layout claims) := by
  intro target bytes claim hLength hClaim hExcessive hStop
  obtain ⟨front, hBytes, hFront⟩ :=
    (container_reads format hReads (fun _ => rfl)).sound target bytes hStop
  rcases hClaim with ⟨field, hOwn, hField, hLeast⟩ | ⟨field, body, back, xs, n, rfl, hField, hEach,
    hCount, hClaim⟩
  · exact counted_not_excessive hReads.least hFront (hBytes.symm.trans hOwn) hField hLeast hExcessive
  · have hTail := length_le_of_append hLength
    have hElement := h codec.blank back claim (length_le_of_append hTail) hClaim hExcessive
    have hInto := decodeInto_stop_of_element hReads insert hEach hCount hTail hElement
    cases hAccepted : decodeLength format codec.minSize (field ++ (body ++ back)) with
    | rejected rest => simp [container, hAccepted] at hStop
    | accepted m rest =>
        obtain ⟨field', hBytes', hField', -⟩ := decodeLength_eq_accepted hAccepted
        obtain ⟨rfl, rfl⟩ := List.append_inj hBytes' (hField.1.trans hField'.1.symm)
        rw [← hField.2, hField'.2] at hInto
        simp only [container, hAccepted] at hStop
        exact hInto hStop

/-- A contiguous container stops wherever the container that appends its elements stops. -/
theorem contiguous_refuses (format : Format) {codec : Codec ε} {layout : Layout ε} {claims : Claims}
    (hReads : codec.Reads layout) (h : codec.Refuses claims) (hPos : 0 < codec.minSize) :
    (contiguous format codec).Refuses (.counted format codec.minSize layout claims) := by
  intro target bytes claim hLength hClaim hExcessive hStop
  obtain ⟨front, hBytes, hFront⟩ := (contiguous_reads format hReads hPos).sound target bytes hStop
  generalize (contiguous format codec).decode target bytes = taken at hBytes hFront
  subst hBytes
  have hContainer := (container_reads format hReads fun xs =>
    (foldl_append_singleton xs []).symm).complete [] front _ _ hFront hLength
  exact container_refuses format hReads h (fun xs x => xs ++ [x]) [] _ claim hLength hClaim
    hExcessive (congrArg Taken.stop hContainer)

end Codec

end SerializerContract
