import SerializerContract.Proofs.Codec.Extent

/-! Decoders are local. A length field is compared with everything behind it, so what a decoder does with some
bytes could depend on what follows them. It does not: the bytes that were once consumed for a value are read as
that value in front of anything, and bytes that are cut off inside a value are never read as a value. -/
namespace SerializerContract

namespace Codec

variable {α β ε : Type}

/-- What is consumed for a value is read as that value in front of anything, and a length beyond any
container's is found too long whatever is behind it. -/
structure Local (codec : Codec α) : Prop where
  spells : codec.Sound codec.Spells
  stays : ∀ target target' bytes suffix, (codec.decode target bytes).stop = some .tooLong →
    (codec.decode target' (bytes ++ suffix)).stop = some .tooLong

/-- What spells a value is laid out as it. -/
theorem Spells.layout {codec : Codec α} {layout : Layout α} (hSound : codec.Sound layout) {front : Bytes}
    {v : α} (h : codec.Spells front v) : layout front v := by
  have hDecode := h codec.blank []
  obtain ⟨front', hBytes, hFront⟩ := hSound codec.blank (front ++ []) (congrArg Taken.stop hDecode)
  rw [hDecode] at hBytes hFront
  rwa [List.append_cancel_right hBytes]

/-- No value is spelled by fewer bytes than the least size. -/
theorem Spells.least {codec : Codec α} {layout : Layout α} (hReads : codec.Reads layout) {front : Bytes}
    {v : α} (h : codec.Spells front v) : codec.minSize ≤ front.length :=
  hReads.least front v (h.layout hReads.sound)

/-- Bytes that are cut off inside a value are too few. -/
theorem Local.shortage_of_cut {codec : Codec α} (h : codec.Local) {front cut : Bytes} {v : α}
    (hSpells : codec.Spells (front ++ cut) v) (hCut : cut ≠ []) (target : α) :
    (codec.decode target front).stop = some .shortage := by
  have hWhole := hSpells target []
  rw [List.append_nil] at hWhole
  cases hStop : (codec.decode target front).stop with
  | none =>
      obtain ⟨read, hFront, hRead⟩ := h.spells target front hStop
      have hAgain := hRead target ((codec.decode target front).rest ++ cut)
      rw [← List.append_assoc, ← hFront, hWhole, Taken.mk.injEq] at hAgain
      exact absurd (List.append_eq_nil_iff.mp hAgain.2.1.symm).2 hCut
  | some stop =>
      cases stop with
      | shortage => rfl
      | tooLong =>
          have hStays := h.stays target target front cut hStop
          rw [hWhole] at hStays
          cases hStays

theorem number_local (order : ByteOrder) (n : Nat) : (number order n).Local where
  spells target bytes hStop := by
    cases hSplit : splitFront n bytes with
    | none => simp [number, hSplit] at hStop
    | some pair =>
        obtain ⟨front, rest⟩ := pair
        obtain ⟨rfl, hFront⟩ := splitFront_eq_some hSplit
        have hSpells := number_spells order hFront
        rw [hSpells target rest]
        exact ⟨front, rfl, hSpells⟩
  stays target target' bytes suffix hStop := by
    cases hSplit : splitFront n bytes with
    | none => simp [number, hSplit] at hStop
    | some pair => simp [number, hSplit] at hStop

theorem byte_local : byte.Local where
  spells target bytes hStop := by
    cases bytes with
    | nil => simp [byte] at hStop
    | cons first rest => exact ⟨[first], rfl, fun _ _ => rfl⟩
  stays target target' bytes suffix hStop := by
    cases bytes with
    | nil => simp [byte] at hStop
    | cons first rest => simp [byte] at hStop

theorem nothing_local : nothing.Local where
  spells _ _ _ := ⟨[], rfl, fun _ _ => rfl⟩
  stays _ _ _ _ hStop := by simp [nothing] at hStop

/-- Two spellings spell the pair. -/
theorem Spells.both {first : Codec α} {second : Codec β} {front back : Bytes} {v : α} {w : β}
    (hFirst : first.Spells front v) (hSecond : second.Spells back w) :
    (both first second).Spells (front ++ back) (v, w) := by
  intro target suffix
  simp only [Codec.both, List.append_assoc, hFirst target.1, hSecond target.2]

/-- A pair looks no further than its parts do. -/
theorem both_local {first : Codec α} {second : Codec β} (hFirst : first.Local) (hSecond : second.Local) :
    (both first second).Local where
  spells target bytes hStop := by
    obtain ⟨_, hBytes, front, back, rfl, hFront, hBack⟩ :=
      both_sound hFirst.spells hSecond.spells target bytes hStop
    exact ⟨front ++ back, hBytes, hFront.both hBack⟩
  stays target target' bytes suffix hStop := by
    cases hOne : (first.decode target.1 bytes).stop with
    | some stop =>
        simp only [both, hOne, Option.some.injEq] at hStop
        subst hStop
        simp [both, hFirst.stays target.1 target'.1 bytes suffix hOne]
    | none =>
        simp only [both, hOne] at hStop
        obtain ⟨front, hBytes, hFront⟩ := hFirst.spells target.1 bytes hOne
        have hAgain := hFront target'.1 ((first.decode target.1 bytes).rest ++ suffix)
        rw [← List.append_assoc, ← hBytes] at hAgain
        simp [both, hAgain, hSecond.stays target.2 target'.2 _ suffix hStop]

/-- A row looks no further than its elements do. -/
theorem row_local {codec : Codec α} (h : codec.Local) (n : Nat) : (row codec n).Local := by
  induction n with
  | zero => exact nothing_local
  | succ n ih => exact both_local h ih

/-! ## Containers -/

/-- An accepted length field is accepted in front of more. -/
theorem decodeLength_extend {format : Format} {least n : Nat} {bytes rest : Bytes}
    (h : decodeLength format least bytes = .accepted n rest) (suffix : Bytes) :
    decodeLength format least (bytes ++ suffix) = .accepted n (rest ++ suffix) := by
  obtain ⟨field, rfl, hField, hAccepted⟩ := decodeLength_eq_accepted h
  rw [List.append_assoc]
  refine decodeLength_of_accepted hField (Nat.le_trans hAccepted ?_)
  rw [List.length_append]
  exact Nat.le_add_right _ _

/-- Elements that are spelled are decoded and inserted whatever follows, and whatever is held already. -/
theorem decodeInto_spells {codec : Codec ε} (insert : List ε → ε → List ε) {body : Bytes} {xs : List ε}
    (each : Layout.Each codec.Spells body xs) (held : List ε) (suffix : Bytes) :
    decodeInto codec insert xs.length held (body ++ suffix) = ⟨xs.foldl insert held, suffix, none⟩ := by
  induction each generalizing held with
  | nil => rfl
  | @cons front back x xs first _ ih =>
      simp only [List.length_cons, decodeInto, List.append_assoc, first codec.blank, ih]
      rfl

/-- Elements that are too many stay so when more bytes follow. -/
theorem decodeInto_stays {codec : Codec ε} (h : codec.Local) (insert : List ε → ε → List ε) (n : Nat)
    (held held' : List ε) (bytes suffix : Bytes)
    (hStop : (decodeInto codec insert n held bytes).stop = some .tooLong) :
    (decodeInto codec insert n held' (bytes ++ suffix)).stop = some .tooLong := by
  induction n generalizing held held' bytes with
  | zero => simp [decodeInto] at hStop
  | succ n ih =>
      cases hOne : (codec.decode codec.blank bytes).stop with
      | some stop =>
          simp only [decodeInto, hOne, Option.some.injEq] at hStop
          subst hStop
          simp [decodeInto, h.stays codec.blank codec.blank bytes suffix hOne]
      | none =>
          simp only [decodeInto, hOne] at hStop
          obtain ⟨front, hBytes, hFront⟩ := h.spells codec.blank bytes hOne
          have hAgain := hFront codec.blank ((codec.decode codec.blank bytes).rest ++ suffix)
          rw [← List.append_assoc, ← hBytes] at hAgain
          simp only [decodeInto, hAgain]
          exact ih _ _ _ hStop

/-- The length in front of elements that are there is accepted, whatever follows them. -/
theorem decodeLength_of_spells {format : Format} {codec : Codec ε} {layout : Layout ε}
    (hReads : codec.Reads layout) {field body : Bytes} {xs : List ε}
    (hField : Layout.lengthField format xs.length field) (each : Layout.Each codec.Spells body xs)
    (suffix : Bytes) : decodeLength format codec.minSize (field ++ (body ++ suffix)) =
      .accepted xs.length (body ++ suffix) := by
  have hBody := each.length_le fun _ _ hSpells => hSpells.least hReads
  apply decodeLength_of_accepted hField
  rw [List.length_append]
  exact Nat.le_trans (Nat.mod_le _ _) (Nat.le_trans hBody (Nat.le_add_right _ _))

/-- A length field and the spellings of as many elements spell a container. -/
theorem Spells.container (format : Format) {codec : Codec ε} {layout : Layout ε} (hReads : codec.Reads layout)
    {insert : List ε → ε → List ε} {collect : List ε → List ε}
    (hCollect : ∀ xs, collect xs = xs.foldl insert []) {front : Bytes} {v : List ε}
    (h : Layout.counted format codec.Spells collect front v) :
    (container format codec insert).Spells front v := by
  obtain ⟨field, body, xs, rfl, hField, hEach, rfl⟩ := h
  intro target suffix
  simp only [Codec.container, List.append_assoc, decodeLength_of_spells hReads hField hEach,
    decodeInto_spells insert hEach, hCollect]

/-- A container looks no further than its elements do: a length that is accepted stays accepted when more bytes
follow. -/
theorem container_local (format : Format) {codec : Codec ε} {layout : Layout ε} (hReads : codec.Reads layout)
    (h : codec.Local) (insert : List ε → ε → List ε) : (container format codec insert).Local where
  spells target bytes hStop := by
    obtain ⟨front, hBytes, hFront⟩ := container_sound format h.spells (fun _ => rfl) target bytes hStop
    exact ⟨front, hBytes, Spells.container format hReads (fun _ => rfl) hFront⟩
  stays target target' bytes suffix hStop := by
    cases hLength : decodeLength format codec.minSize bytes with
    | rejected rest => simp [container, hLength] at hStop
    | accepted n rest =>
        simp only [container, hLength] at hStop
        simp only [container, decodeLength_extend hLength]
        exact decodeInto_stays h insert n _ _ rest suffix hStop

/-- A length field and the spellings of as many elements spell a contiguous container that can be that long. -/
theorem Spells.contiguous (format : Format) {codec : Codec ε} {layout : Layout ε} (hReads : codec.Reads layout)
    {front : Bytes} {v : List ε} (h : Layout.counted format codec.Spells id front v)
    (hRoom : v.length ≤ mostElements codec.minSize) : (contiguous format codec).Spells front v := by
  obtain ⟨field, body, xs, rfl, hField, hEach, rfl⟩ := h
  intro target suffix
  have hMany : decodeMany codec v.length (body ++ suffix) = ⟨v, suffix, none⟩ := by
    rw [decodeMany_eq_decodeInto, decodeInto_spells _ hEach, foldl_append_singleton, List.nil_append]
  simp only [Codec.contiguous, List.append_assoc, decodeLength_of_spells hReads hField hEach,
    Nat.not_lt.mpr hRoom, if_false, hMany]

/-- A contiguous container looks no further than its length field says. -/
theorem contiguous_local (format : Format) {codec : Codec ε} {layout : Layout ε} (hReads : codec.Reads layout)
    (h : codec.Local) : (contiguous format codec).Local where
  spells target bytes hStop := by
    obtain ⟨front, hBytes, hFront, hRoom⟩ := contiguous_sound format h.spells target bytes hStop
    exact ⟨front, hBytes, Spells.contiguous format hReads hFront hRoom⟩
  stays target target' bytes suffix hStop := by
    cases hLength : decodeLength format codec.minSize bytes with
    | rejected rest => simp [contiguous, hLength] at hStop
    | accepted n rest =>
        by_cases hMost : mostElements codec.minSize < n
        · simp [contiguous, decodeLength_extend hLength, hMost]
        · cases hAll : (decodeMany codec n rest).stop with
          | none => simp [contiguous, hLength, hMost, hAll] at hStop
          | some stop =>
              obtain rfl : stop = .tooLong := by simpa [contiguous, hLength, hMost, hAll] using hStop
              rw [decodeMany_eq_decodeInto] at hAll
              have hStays := decodeInto_stays h _ n _ [] rest suffix hAll
              rw [← decodeMany_eq_decodeInto] at hStays
              simp [contiguous, decodeLength_extend hLength, hMost, hStays]

end Codec

end SerializerContract
