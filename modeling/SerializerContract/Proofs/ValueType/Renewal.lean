import SerializerContract.Proofs.ValueType.Comparison
import SerializerContract.Proofs.ValueType.SortedLayout
import SerializerContract.Proofs.ValueType.Truncation

/-! Values that were read are written in a normal form. It is never longer than what was read, it is read as the
same value, and it is what was read exactly if that was sorted. -/
namespace SerializerContract

mutual
/-- A value whose associative containers, at any depth, have an order: the keys of ordered ones are ordered among
themselves, and hashed ones have at most one element. -/
def ValueType.Orderly : (t : ValueType) → t.Val → Prop
  | .scalar _, _ => True
  | .enumeration _ _, _ => True
  | .text _, _ => True
  | .record _ _, _ => True
  | .optional _, _ => True
  | .pointer _ _, _ => True
  | .pair a b, v => a.Orderly v.1 ∧ b.Orderly v.2
  | .entry k t, v => k.Orderly v.1 ∧ t.Orderly v.2
  | .tuple t rest, v => t.Orderly v.1 ∧ rest.Orderly v.2
  | .array _ t, v => ∀ x ∈ v.toList, t.Orderly x
  | .sequence _ t, (xs : List t.Val) => ∀ x ∈ xs, t.Orderly x
  | .set lookup _ t, (xs : List t.Val) => (∀ x ∈ xs, t.Orderly x) ∧ lookup.Orders t id xs
  | .map lookup _ k t, (xs : List (k.Val × t.Val)) =>
    (∀ x ∈ xs, k.Orderly x.1 ∧ t.Orderly x.2) ∧ lookup.Orders k Prod.fst xs

def FieldTypes.Orderly : (ts : FieldTypes) → ts.Val → Prop
  | .nil, _ => True
  | .cons t rest, v => t.Orderly v.1 ∧ rest.Orderly v.2
end

mutual
/-- Whatever order the elements of its containers were listed in, an orderly value has them arranged. -/
theorem ValueType.wellFormed_of_layout {format : Format} : (t : ValueType) → {front : Bytes} → {v : t.Val} →
    t.layout format front v → t.Orderly v → t.WellFormed v
  | .scalar _, _, _, _, _ => trivial
  | .enumeration _ _, _, _, _, _ => trivial
  | .text _, _, _, _, _ => trivial
  | .record _ _, _, _, _, _ => trivial
  | .optional _, _, _, _, _ => trivial
  | .pointer _ _, _, _, _, _ => trivial
  | .pair a b, _, _, ⟨_, _, _, hFirst, hSecond⟩, h =>
    ⟨a.wellFormed_of_layout hFirst h.1, b.wellFormed_of_layout hSecond h.2⟩
  | .entry k t, _, _, ⟨_, _, _, hFirst, hSecond⟩, h =>
    ⟨k.wellFormed_of_layout hFirst h.1, t.wellFormed_of_layout hSecond h.2⟩
  | .tuple t rest, _, _, ⟨_, _, _, hFirst, hSecond⟩, h =>
    ⟨t.wellFormed_of_layout hFirst h.1, rest.wellFormed_of_layout hSecond h.2⟩
  | .array _ t, _, _, hRow, h => fun x hx => by
      obtain ⟨piece, hPiece⟩ := Layout.row_exists_mem hRow hx
      exact t.wellFormed_of_layout hPiece (h x hx)
  | .sequence _ t, _, _, ⟨_, _, xs, _, _, hEach, hValue⟩, h => fun x hx => by
      subst hValue
      obtain ⟨piece, hPiece⟩ := hEach.exists_mem hx
      exact t.wellFormed_of_layout hPiece (h x hx)
  | .set lookup multi t, _, _, ⟨_, _, xs, _, _, hEach, hValue⟩, h => by
      subst hValue
      refine ⟨fun x hx => ?_, Lookup.ofList_arranged h.2⟩
      obtain ⟨piece, hPiece⟩ := hEach.exists_mem ((lookup.ofList_subperm multi t id xs).subset hx)
      exact t.wellFormed_of_layout hPiece (h.1 x hx)
  | .map lookup multi k t, _, _, ⟨_, _, xs, _, _, hEach, hValue⟩, h => by
      subst hValue
      refine ⟨fun x hx => ?_, Lookup.ofList_arranged h.2⟩
      obtain ⟨_, front, back, -, hFirst, hSecond⟩ :=
        hEach.exists_mem ((lookup.ofList_subperm multi k Prod.fst xs).subset hx)
      exact ⟨k.wellFormed_of_layout hFirst (h.1 x hx).1, t.wellFormed_of_layout hSecond (h.1 x hx).2⟩

theorem FieldTypes.wellFormed_of_layout {format : Format} : (ts : FieldTypes) → {front : Bytes} → {v : ts.Val} →
    ts.layout format front v → ts.Orderly v → ts.WellFormed v
  | .nil, _, _, _, _ => trivial
  | .cons t rest, _, _, ⟨_, _, _, hFirst, hSecond⟩, h =>
    ⟨t.wellFormed_of_layout hFirst h.1, rest.wellFormed_of_layout hSecond h.2⟩
end

mutual
/-- What was read as a proper value can be written again, and is read as the same value. -/
theorem ValueType.codec_renews (format : Format) :
    (t : ValueType) → (h : t.Serializable) → (t.codec format h).Renews t.Proper
  | .scalar s, _ => Codec.number_renews format.order s.size
  | .enumeration _ s, _ => Codec.number_renews format.order s.size
  | .text .owned, _ => (Codec.contiguous_renews format Codec.byte_reads Codec.byte_local Codec.byte_renews).mono
      fun _ _ _ _ => trivial
  | .pair a b, h => Codec.both_renews (a.codec_local format h.1) (b.codec_local format h.2)
      (a.codec_renews format h.1) (b.codec_renews format h.2)
  | .entry k t, h => Codec.both_renews (k.codec_local format h.1) (t.codec_local format h.2)
      (k.codec_renews format h.1) (t.codec_renews format h.2)
  | .tuple t rest, h => Codec.both_renews (t.codec_local format h.1) (rest.codec_local format h.2)
      (t.codec_renews format h.1) (rest.codec_renews format h.2)
  | .array n t, h => Codec.row_renews (t.codec_local format h.2) (t.codec_renews format h.2) n
  | .sequence _ t, h => by
      have hReads := t.codec_reads format h.2
      have hLocal := t.codec_local format h.2
      have hElement := t.codec_renews format h.2
      refine ValueType.codec_sequence_cases (motive := fun codec => codec.Renews _) h (fun _ => ?_) ?_
      · exact Codec.contiguous_renews format hReads hLocal hElement
      · have hAppending := Codec.container_renews format hReads hLocal hElement
          (fun xs => (Codec.foldl_append_singleton xs []).symm) List.Subperm.refl
        exact hAppending.mono fun _ hValid => ⟨hValid, rfl⟩
  | .set lookup multi t, h =>
    (Codec.container_renews format (t.codec_reads format h) (t.codec_local format h) (t.codec_renews format h)
      (fun _ => rfl) (lookup.ofList_subperm multi t id)).mono
      fun _ hValid => ⟨hValid.1, Lookup.ofList_of_holds hValid.2⟩
  | .map lookup multi k t, h =>
    (Codec.container_renews format (Codec.both_reads (k.codec_reads format h.1) (t.codec_reads format h.2))
      (Codec.both_local (k.codec_local format h.1) (t.codec_local format h.2))
      (Codec.both_renews (k.codec_local format h.1) (t.codec_local format h.2) (k.codec_renews format h.1)
        (t.codec_renews format h.2))
      (fun _ => rfl) (lookup.ofList_subperm multi k Prod.fst)).mono
      fun _ hValid => ⟨hValid.1, Lookup.ofList_of_holds hValid.2⟩

theorem FieldTypes.codec_renews (format : Format) :
    (ts : FieldTypes) → (h : ts.Serializable) → (ts.codec format h).Renews ts.Proper
  | .nil, _ => Codec.nothing_renews
  | .cons t rest, h => Codec.both_renews (t.codec_local format h.1) (rest.codec_local format h.2)
      (t.codec_renews format h.1) (rest.codec_renews format h.2)
end

namespace ValueType

/-- A value that was read can be written behind anything, in at most as many bytes as it was read from. These are
read as the same value, in front of anything. They are the same bytes exactly if every set and every map listed its
elements sorted, and always if there are none. -/
theorem write_decoded (format : Format) (t : ValueType) (h : t.Serializable) {target v : t.Val}
    {bytes rest : Bytes} (hDecode : (t.codec format h).decode target bytes = ⟨v, rest, none⟩)
    (hOrderly : t.Orderly v) :
    ∃ written : Bytes,
      (∀ prior, (OutputChannel.write (t.codec format h) v).outcome prior = (.ok (), prior.appended written)) ∧
      written.length + rest.length ≤ bytes.length ∧
      (∀ target' suffix, (t.codec format h).decode target' (written ++ suffix) = ⟨v, suffix, none⟩) ∧
      (t.Unkeyed → bytes = written ++ rest) ∧
      (bytes = written ++ rest ↔ ∃ front, bytes = front ++ rest ∧ t.sortedLayout format front v) := by
  obtain ⟨front, rfl, hSpells⟩ := spells_of_decode hDecode
  have hRenews := t.codec_renews format h
  have hComplete := hRenews.complete front v hSpells
  have hShrinks := hRenews.shrinks front v hSpells
  have hFront := hSpells.layout (t.codec_reads format h).sound
  have hValid := t.wellFormed_of_layout hFront hOrderly
  refine ⟨((t.codec format h).encode v).bytes, OutputChannel.write_of_complete hComplete, ?_,
    hRenews.spells front v hSpells (t.proper_of_wellFormed v hValid), fun hUnkeyed => ?_, ?_⟩
  · rw [List.length_append]
    omega
  · rw [← t.sortedLayout_of_unkeyed format hUnkeyed] at hFront
    rw [t.codec_rewrites format h front v hFront]
    rfl
  · constructor
    · intro hSame
      exact ⟨_, hSame, t.codec_writes_sorted format h v hValid hComplete⟩
    · rintro ⟨front', hSame, hSorted⟩
      rw [hSame, t.codec_rewrites format h front' v hSorted]
      rfl

abbrev uint8Sets : ValueType := set .ordered false (set .ordered false (.scalar .uint8))

/-- Two sets that are the same one, once listed backwards and once with a number repeated. -/
def listedTwice : Bytes := [2, 2, 2, 1, 3, 1, 2, 2]

def setOfOneTwo : uint8Sets.Val :=
  show List (List (BitVec 8)) from [[1, 2]]

/-- Of the two sets one is kept, and four bytes are written for it. -/
theorem write_decoded_collapsed :
    (uint8Sets.codec ⟨.little, .w8⟩ (by decide)).decode [] listedTwice = ⟨setOfOneTwo, [], none⟩ ∧
    uint8Sets.Orderly setOfOneTwo ∧
    (OutputChannel.write (uint8Sets.codec ⟨.little, .w8⟩ (by decide)) setOfOneTwo).outcome ⟨[9]⟩ =
      (.ok (), ⟨[9, 1, 2, 1, 2]⟩) ∧
    ¬ ∃ front, listedTwice = front ++ [] ∧ uint8Sets.sortedLayout ⟨.little, .w8⟩ front setOfOneTwo := by
  have hDecode : (uint8Sets.codec ⟨.little, .w8⟩ (by decide)).decode [] listedTwice =
      ⟨setOfOneTwo, [], none⟩ := rfl
  have hNumbers := less_strictOrder (.scalar .uint8) (by decide)
  have hSets := less_strictOrder (set .ordered false (.scalar .uint8)) (by decide)
  have hOrderly : uint8Sets.Orderly setOfOneTwo :=
    ⟨fun _ _ => ⟨fun _ _ => trivial, hNumbers.mono fun _ _ => rfl⟩, hSets.mono fun _ _ _ _ => rfl⟩
  obtain ⟨written, hWrite, -, -, -, hSame⟩ :=
    write_decoded ⟨.little, .w8⟩ uint8Sets (by decide) hDecode hOrderly
  have hWritten : written = [1, 2, 1, 2] :=
    (congrArg (fun result => result.2.data) (hWrite {})).symm
  subst hWritten
  exact ⟨hDecode, hOrderly, hWrite ⟨[9]⟩, fun hSorted => absurd (hSame.mpr hSorted) (by decide)⟩

end ValueType

end SerializerContract
