import SerializerContract.Proofs.Codec.Extent
import SerializerContract.Proofs.Codec.Field

/-! Decodings that stop early. Stalls say where a decoding can stop and what it leaves behind: which fields it
has read by then, which bytes it has not touched, and what the target holds. A decoder stops exactly as the
stalls of its type say. -/
namespace SerializerContract

/-- How the decoding of one type can stop: from what the target held, the fields that were read and the bytes
behind them, to the reason and what the target holds then. -/
abbrev Stall (α : Type) := α → List Field → Bytes → Stop → α → Prop

namespace Stall

variable {α β ε : Type}

/-- Too few bytes for a number. Nothing was read and the target is kept. -/
def number (n : Nat) : Stall (BitVec (8 * n)) := fun target fields rest stop left =>
  fields = [] ∧ rest.length < n ∧ stop = .shortage ∧ left = target

def never : Stall α := fun _ _ _ _ _ => False

/-- The part that cannot be read is left as it stopped, parts before it have been read, and parts after it
keep what they held. -/
inductive both (one : Spelling α) (first : Stall α) (second : Stall β) : Stall (α × β) where
  | inFirst {target : α × β} {fields : List Field} {rest : Bytes} {stop : Stop} {left : α}
      (stall : first target.1 fields rest stop left) :
      both one first second target fields rest stop (left, target.2)
  | inSecond {target : α × β} {front back : List Field} {rest : Bytes} {stop : Stop} {v : α} {left : β}
      (read : one front v) (stall : second target.2 back rest stop left) :
      both one first second target (front ++ back) rest stop (v, left)

def row (spelling : Spelling α) (stall : Stall α) : (n : Nat) → Stall (Row α n)
  | 0 => never
  | n + 1 => both spelling stall (row spelling stall n)

/-- A length field stops a decoding if it is cut off, or if it was read and claims too much. The claim is
compared as a number of 64 bits. -/
inductive AtLength (format : Format) (least : Nat) : List Field → Bytes → Prop where
  | cut {rest : Bytes} (short : rest.length < format.length.bytes) : AtLength format least [] rest
  | rejected {field rest : Bytes} {n : Nat} (spelled : Layout.lengthField format n field)
      (tooMany : rest.length < n * least % 0x10000000000000000) :
      AtLength format least [.length field] rest

/-- A container is kept as long as its length field was not accepted. From then on it holds the elements that
were read, collected in their order, and nothing of the one that was not. -/
inductive container (format : Format) (least : Nat) (blank : ε) (spelling : Spelling ε) (element : Stall ε)
    (collect : List ε → List ε) : Stall (List ε) where
  | atLength {target : List ε} {fields : List Field} {rest : Bytes} (stall : AtLength format least fields rest) :
      container format least blank spelling element collect target fields rest .shortage target
  | atElement {target xs : List ε} {field rest : Bytes} {front back : List Field} {n : Nat} {stop : Stop}
      {left : ε} (spelled : Layout.lengthField format n field)
      (accepted : n * least % 0x10000000000000000 ≤ (Field.wire (front ++ back) ++ rest).length)
      (read : Spelling.Each spelling front xs) (more : xs.length < n) (stall : element blank back rest stop left) :
      container format least blank spelling element collect target (.length field :: (front ++ back)) rest stop
        (collect xs)

/-- A contiguous container is kept. Nothing but its length field can stop it. -/
inductive contiguous (format : Format) (size : Nat) : Stall (List ε) where
  | atLength {target : List ε} {fields : List Field} {rest : Bytes} (stall : AtLength format size fields rest) :
      contiguous format size target fields rest .shortage target
  | tooLong {target : List ε} {field rest : Bytes} {n : Nat} (spelled : Layout.lengthField format n field)
      (accepted : n * size % 0x10000000000000000 ≤ rest.length) (tooMany : Codec.mostElements size < n) :
      contiguous format size target [.length field] rest .tooLong target

end Stall

namespace Codec

variable {α β ε : Type}

/-- A decoder stops exactly as the stalls say. It has then consumed just the fields that were read. -/
structure Stalls (codec : Codec α) (stall : Stall α) : Prop where
  sound : ∀ target bytes stop, (codec.decode target bytes).stop = some stop →
    ∃ fields, bytes = Field.wire fields ++ (codec.decode target bytes).rest ∧
      stall target fields (codec.decode target bytes).rest stop (codec.decode target bytes).value
  complete : ∀ target fields rest stop left, stall target fields rest stop left →
    (Field.wire fields ++ rest).length ≤ Bytes.longest →
    codec.decode target (Field.wire fields ++ rest) = ⟨left, rest, some stop⟩

/-- A number stalls where bytes are missing, and then leaves the target alone. -/
theorem number_stalls (order : ByteOrder) (n : Nat) : (number order n).Stalls (.number n) where
  sound target bytes stop hStop := by
    cases hSplit : splitFront n bytes with
    | some pair => simp [number, hSplit] at hStop
    | none =>
        have hShort : bytes.length < n := by simpa [splitFront] using hSplit
        simp only [number, hSplit, Option.some.injEq] at hStop ⊢
        exact ⟨[], rfl, rfl, hShort, hStop.symm, rfl⟩
  complete target fields rest stop left hStall _ := by
    obtain ⟨rfl, hShort, rfl, rfl⟩ := hStall
    simp [number, splitFront_of_lt hShort]

theorem nothing_stalls : nothing.Stalls .never where
  sound _ _ _ hStop := by simp [nothing] at hStop
  complete _ _ _ _ _ hStall := hStall.elim

/-- A pair stalls in its first part, or behind a first part that was read whole. -/
theorem both_stalls {first : Codec α} {second : Codec β} {layout : Layout α} {spelling : Spelling α}
    {one : Stall α} {two : Stall β} (hReads : first.Reads layout) (hSpelled : layout.SpelledBy spelling)
    (hFirst : first.Stalls one) (hSecond : second.Stalls two) :
    (both first second).Stalls (.both spelling one two) where
  sound target bytes stop hStop := by
    cases hOne : (first.decode target.1 bytes).stop with
    | some reason =>
        simp only [both, hOne, Option.some.injEq] at hStop ⊢
        obtain ⟨fields, hBytes, hStall⟩ := hFirst.sound target.1 bytes reason hOne
        exact ⟨fields, hBytes, hStop ▸ .inFirst hStall⟩
    | none =>
        simp only [both, hOne] at hStop ⊢
        obtain ⟨front, hBytes, hFront⟩ := hReads.sound target.1 bytes hOne
        obtain ⟨fields, rfl, hFields⟩ := (hSpelled front _).mp hFront
        obtain ⟨others, hRest, hStall⟩ := hSecond.sound target.2 _ stop hStop
        refine ⟨fields ++ others, ?_, .inSecond hFields hStall⟩
        rw [Field.wire_append, List.append_assoc, ← hRest, ← hBytes]
  complete target fields rest stop left hStall hLength := by
    cases hStall with
    | inFirst hStall => simp [both, hFirst.complete _ _ _ _ _ hStall hLength]
    | inSecond hFields hStall =>
        rw [Field.wire_append, List.append_assoc] at hLength ⊢
        have hOne := hReads.complete target.1 _ _ _ (hSpelled.wire hFields) hLength
        have hTwo := hSecond.complete _ _ _ _ _ hStall (length_le_of_append hLength)
        simp [both, hOne, hTwo]

/-- A row stalls in one of its elements, behind others that were read whole. -/
theorem row_stalls {codec : Codec α} {layout : Layout α} {spelling : Spelling α} {stall : Stall α}
    (hReads : codec.Reads layout) (hSpelled : layout.SpelledBy spelling) (h : codec.Stalls stall) (n : Nat) :
    (row codec n).Stalls (.row spelling stall n) := by
  induction n with
  | zero => exact nothing_stalls
  | succ n ih => exact both_stalls hReads hSpelled h ih

/-! ## Length fields -/

section LengthFields

variable {format : Format} {least n : Nat} {bytes field rest : Bytes}

/-- A length is refused where its field is cut, or behind a field that claims too much. -/
theorem decodeLength_rejected (h : decodeLength format least bytes = .rejected rest) :
    ∃ fields, bytes = Field.wire fields ++ rest ∧ Stall.AtLength format least fields rest := by
  rcases short_or_lengthField format bytes with hShort | ⟨n, field, behind, rfl, hField⟩
  · rw [decodeLength_cut least hShort, LengthField.rejected.injEq] at h
    exact ⟨[], h, .cut (h ▸ hShort)⟩
  · rw [decodeLength_append hField] at h
    split at h
    · next hMany =>
        rw [LengthField.rejected.injEq] at h
        subst h
        exact ⟨[.length field], by simp [Field.bytes], .rejected hField hMany⟩
    · cases h

/-- Where a length stalls, it is refused. -/
theorem decodeLength_of_stall {fields : List Field} (h : Stall.AtLength format least fields rest) :
    decodeLength format least (Field.wire fields ++ rest) = .rejected rest := by
  cases h with
  | cut hShort => exact decodeLength_cut least hShort
  | rejected hField hMany =>
      have hLength := decodeLength_append hField least rest
      rw [if_pos hMany] at hLength
      simpa [Field.bytes] using hLength

end LengthFields

/-! ## Containers -/

/-- A loop over elements stops at the first that cannot be read. -/
theorem decodeInto_stops {codec : Codec ε} {layout : Layout ε} {spelling : Spelling ε} {stall : Stall ε}
    (hReads : codec.Reads layout) (hSpelled : layout.SpelledBy spelling) (h : codec.Stalls stall)
    (insert : List ε → ε → List ε) (n : Nat) (held : List ε) (bytes : Bytes) {stop : Stop}
    (hStop : (decodeInto codec insert n held bytes).stop = some stop) :
    ∃ front back xs left,
      bytes = Field.wire (front ++ back) ++ (decodeInto codec insert n held bytes).rest ∧
      Spelling.Each spelling front xs ∧ xs.length < n ∧
      stall codec.blank back (decodeInto codec insert n held bytes).rest stop left ∧
      (decodeInto codec insert n held bytes).value = xs.foldl insert held := by
  induction n generalizing held bytes with
  | zero => simp [decodeInto] at hStop
  | succ n ih =>
      cases hOne : (codec.decode codec.blank bytes).stop with
      | some reason =>
          simp only [decodeInto, hOne, Option.some.injEq] at hStop ⊢
          obtain ⟨fields, hBytes, hStall⟩ := h.sound codec.blank bytes reason hOne
          exact ⟨[], fields, [], _, hBytes, .nil, Nat.succ_pos n, hStop ▸ hStall, rfl⟩
      | none =>
          simp only [decodeInto, hOne] at hStop ⊢
          obtain ⟨front, hBytes, hFront⟩ := hReads.sound codec.blank bytes hOne
          obtain ⟨fields, rfl, hFields⟩ := (hSpelled front _).mp hFront
          obtain ⟨others, back, xs, left, hRest, hEach, hCount, hStall, hValue⟩ := ih _ _ hStop
          refine ⟨fields ++ others, back, _ :: xs, left, ?_, .cons hFields hEach, ?_, hStall, hValue⟩
          · rw [List.append_assoc, Field.wire_append, List.append_assoc, ← hRest, ← hBytes]
          · simpa using hCount

/-- A container stalls at its length, or in one of its elements; then it holds those that were read before
it. -/
theorem container_stalls (format : Format) {codec : Codec ε} {layout : Layout ε} {spelling : Spelling ε}
    {stall : Stall ε} (hReads : codec.Reads layout) (hSpelled : layout.SpelledBy spelling)
    (h : codec.Stalls stall) {insert : List ε → ε → List ε} {collect : List ε → List ε}
    (hCollect : ∀ xs, collect xs = xs.foldl insert []) :
    (container format codec insert).Stalls
      (.container format codec.minSize codec.blank spelling stall collect) where
  sound target bytes stop hStop := by
    cases hLength : decodeLength format codec.minSize bytes with
    | rejected rest =>
        simp only [container, hLength, Option.some.injEq] at hStop ⊢
        obtain ⟨fields, hBytes, hStall⟩ := decodeLength_rejected hLength
        exact ⟨fields, hBytes, hStop ▸ .atLength hStall⟩
    | accepted n rest =>
        simp only [container, hLength] at hStop ⊢
        obtain ⟨field, rfl, hField, hAccepted⟩ := decodeLength_eq_accepted hLength
        obtain ⟨front, back, xs, left, hRest, hEach, hCount, hStall, hValue⟩ :=
          decodeInto_stops hReads hSpelled h insert n [] rest hStop
        rw [hRest] at hAccepted
        refine ⟨.length field :: (front ++ back), ?_, ?_⟩
        · rw [Field.wire_cons, List.append_assoc, ← hRest]
          rfl
        · rw [hValue, ← hCollect]
          exact .atElement hField hAccepted hEach hCount hStall
  complete target fields rest stop left hStall hLength := by
    cases hStall with
    | atLength hStall => simp only [container, decodeLength_of_stall hStall]
    | @atElement _ xs field _ front back n _ left hField hAccepted hEach hCount hStall =>
        rw [Field.wire_cons, List.append_assoc] at hLength ⊢
        have hTail := length_le_of_append hLength
        obtain ⟨k, rfl⟩ := Nat.exists_eq_add_of_lt hCount
        simp only [container, Field.bytes, decodeLength_of_accepted hField hAccepted]
        rw [Field.wire_append, List.append_assoc] at hTail ⊢
        have hElement := h.complete _ _ _ _ _ hStall (length_le_of_append hTail)
        have hFront := (Layout.each_spelledBy hSpelled).wire hEach
        rw [Nat.add_assoc, decodeInto_of_each hReads insert hFront _ _ _ hTail, decodeInto]
        simp only [hElement, hCollect]

/-- Once there is room for so many elements, and bytes for all of them, each can be read. -/
theorem decodeMany_of_accepted {codec : Codec ε} {rest : Bytes} {n : Nat} (h : codec.Sized codec.minSize)
    (hPos : 0 < codec.minSize) (hAccepted : n * codec.minSize % 0x10000000000000000 ≤ rest.length)
    (hRoom : n ≤ mostElements codec.minSize) : (decodeMany codec n rest).stop = none := by
  have hLongest : n * codec.minSize ≤ Bytes.longest := (Nat.le_div_iff_mul_le hPos).mp hRoom
  have hBound : Bytes.longest < 0x10000000000000000 := by decide
  rw [Nat.mod_eq_of_lt (Nat.lt_of_le_of_lt hLongest hBound)] at hAccepted
  obtain ⟨body, suffix, rfl, hBody⟩ := exists_front hAccepted
  obtain ⟨xs, -, hMany⟩ := h.decodeMany n hBody
  rw [hMany suffix]

/-- A contiguous container stalls at its length only: what is accepted is too long to be held, or all there. -/
theorem contiguous_stalls (format : Format) {codec : Codec ε} (h : codec.Sized codec.minSize)
    (hPos : 0 < codec.minSize) : (contiguous format codec).Stalls (.contiguous format codec.minSize) where
  sound target bytes stop hStop := by
    cases hLength : decodeLength format codec.minSize bytes with
    | rejected rest =>
        simp only [contiguous, hLength, Option.some.injEq] at hStop ⊢
        obtain ⟨fields, hBytes, hStall⟩ := decodeLength_rejected hLength
        exact ⟨fields, hBytes, hStop ▸ .atLength hStall⟩
    | accepted n rest =>
        obtain ⟨field, rfl, hField, hAccepted⟩ := decodeLength_eq_accepted hLength
        by_cases hMost : mostElements codec.minSize < n
        · simp only [contiguous, hLength, hMost, if_true, Option.some.injEq] at hStop ⊢
          exact ⟨[.length field], by simp [Field.bytes], hStop ▸ .tooLong hField hAccepted hMost⟩
        · -- No element is left to stop at: the bytes for all of them were counted before.
          have hMany := decodeMany_of_accepted h hPos hAccepted (Nat.not_lt.mp hMost)
          simp [contiguous, hLength, hMost, hMany] at hStop
  complete target fields rest stop left hStall _ := by
    cases hStall with
    | atLength hStall => simp only [contiguous, decodeLength_of_stall hStall]
    | tooLong hField hAccepted hMost =>
        simp [contiguous, Field.bytes, decodeLength_of_accepted hField hAccepted, hMost]

end Codec

end SerializerContract
