import SerializerContract.Codec.Basic

/-! Layouts: which bytes stand for which values, said without any decoder. A codec reads a layout
if its decoder accepts exactly the byte strings that start with bytes of the layout. Every codec
combinator reads the layout that is put together in the same way, so nothing that a decoder looks at
on the way, such as the plausibility of a length field, can change what is accepted. -/
namespace SerializerContract

/-- Which bytes stand for which values of one type. -/
abbrev Layout (α : Type) := Bytes → α → Prop

namespace Layout

variable {α β ε : Type}

/-- A number is any bytes of its size; they are its base-256 digits. -/
def number (order : ByteOrder) (n : Nat) : Layout (BitVec (8 * n)) := fun bytes v =>
  bytes.length = n ∧ v.toNat = order.ofBytes bytes

/-- A byte stands for itself. -/
def byte : Layout UInt8 := fun bytes v => bytes = [v]

/-- No bytes. -/
def nothing : Layout Unit := fun bytes _ => bytes = []

/-- One part directly after the other. -/
def both (first : Layout α) (second : Layout β) : Layout (α × β) := fun bytes v =>
  ∃ front back, bytes = front ++ back ∧ first front v.1 ∧ second back v.2

/-- `n` values, one directly after the other. -/
def row (layout : Layout α) : (n : Nat) → Layout (Row α n)
  | 0 => nothing
  | n + 1 => both layout (row layout n)

/-- Some elements, one directly after the other. -/
inductive Each (layout : Layout ε) : Layout (List ε) where
  | nil : Each layout [] []
  | cons {front back : Bytes} {x : ε} {xs : List ε} (first : layout front x)
      (rest : Each layout back xs) : Each layout (front ++ back) (x :: xs)

/-- A field of the width for lengths that spells `n`. -/
def lengthField (format : Format) (n : Nat) (field : Bytes) : Prop :=
  field.length = format.length.bytes ∧ format.order.ofBytes field = n

/-- A length field, and as many elements. The value is what they are collected to, in their order. -/
def counted (format : Format) (layout : Layout ε) (collect : List ε → α) : Layout α := fun bytes v =>
  ∃ field body xs, bytes = field ++ body ∧ lengthField format xs.length field ∧
    Each layout body xs ∧ v = collect xs

/-- Elements that take at least `least` bytes each take at least that many times their number. -/
theorem Each.length_le {layout : Layout ε} {least : Nat}
    (h : ∀ bytes x, layout bytes x → least ≤ bytes.length) {bytes : Bytes} {xs : List ε}
    (each : Each layout bytes xs) : xs.length * least ≤ bytes.length := by
  induction each with
  | nil => simp
  | cons first _ ih =>
      have hFirst := h _ _ first
      simp only [List.length_cons, List.length_append, Nat.succ_mul]
      omega

end Layout

namespace Bytes

/-- Bytes are digits of base 256. -/
theorem ofLittleEndian_lt (bytes : Bytes) : ofLittleEndian bytes < Nat.pow 256 bytes.length := by
  induction bytes with
  | nil => decide
  | cons byte bytes ih =>
      have hByte := byte.toNat_lt
      have hStep : Nat.pow 256 (byte :: bytes).length = 256 * Nat.pow 256 bytes.length :=
        Nat.mul_comm _ _
      rw [ofLittleEndian, hStep]
      omega

end Bytes

/-- So many bytes spell a number below that power of 256. -/
theorem ByteOrder.ofBytes_lt (order : ByteOrder) (bytes : Bytes) :
    order.ofBytes bytes < Nat.pow 256 bytes.length := by
  cases order with
  | little => exact Bytes.ofLittleEndian_lt bytes
  | big => simpa [ByteOrder.ofBytes] using Bytes.ofLittleEndian_lt bytes.reverse

theorem pow_256_eq_two_pow (n : Nat) : Nat.pow 256 n = Nat.pow 2 (8 * n) := by
  rw [show (256 : Nat) = Nat.pow 2 8 from rfl]
  exact (Nat.pow_mul 2 8 n).symm

/-- The bytes of a number spell it again, when they are enough. -/
theorem ByteOrder.ofBytes_toBytes_of_lt (order : ByteOrder) {n value : Nat}
    (h : value < Nat.pow 256 n) : order.ofBytes (order.toBytes n value) = value := by
  rw [order.ofBytes_toBytes, Nat.mod_eq_of_lt h]

namespace Codec

variable {α β ε : Type}

/-- Whatever a decoder reads as a value starts with bytes of the layout that stand for the value, and
these are what it consumes. -/
def Sound (codec : Codec α) (layout : Layout α) : Prop :=
  ∀ target bytes, (codec.decode target bytes).stop = none →
    ∃ front, bytes = front ++ (codec.decode target bytes).rest ∧
      layout front (codec.decode target bytes).value

/-- A decoder accepts exactly what starts with bytes of the layout; it then consumes these, and
yields the value that they stand for, whatever the target held. No value takes fewer bytes than the
codec says. -/
structure Reads (codec : Codec α) (layout : Layout α) : Prop where
  sound : codec.Sound layout
  complete : ∀ target front rest v, layout front v → (front ++ rest).length ≤ Bytes.longest →
    codec.decode target (front ++ rest) = ⟨v, rest, none⟩
  least : ∀ front v, layout front v → codec.minSize ≤ front.length

@[simp] theorem splitFront_append {n : Nat} {front : Bytes} (h : front.length = n) (rest : Bytes) :
    splitFront n (front ++ rest) = some (front, rest) := by
  simp [splitFront, ← h]

/-- What is split off the front has the length that was asked for. -/
theorem splitFront_eq_some {n : Nat} {bytes front rest : Bytes}
    (h : splitFront n bytes = some (front, rest)) : bytes = front ++ rest ∧ front.length = n := by
  unfold splitFront at h
  split at h
  · next hn =>
      simp only [Option.some.injEq, Prod.mk.injEq] at h
      obtain ⟨rfl, rfl⟩ := h
      exact ⟨(List.take_append_drop n bytes).symm, by simp [hn]⟩
  · cases h

/-- Nothing is split off bytes that are too few. -/
theorem splitFront_of_lt {n : Nat} {bytes : Bytes} (h : bytes.length < n) : splitFront n bytes = none :=
  if_neg (Nat.not_le.mpr h)

/-- Bytes that are long enough can be taken apart. -/
theorem exists_front {n : Nat} {bytes : Bytes} (h : n ≤ bytes.length) :
    ∃ front rest, bytes = front ++ rest ∧ front.length = n :=
  ⟨bytes.take n, bytes.drop n, (List.take_append_drop n bytes).symm, List.length_take_of_le h⟩

/-- Numbers are read from all their bytes, and from nothing else. -/
theorem number_reads (order : ByteOrder) (n : Nat) : (number order n).Reads (.number order n) where
  sound target bytes h := by
    cases hSplit : splitFront n bytes with
    | none => simp [number, hSplit] at h
    | some pair =>
        obtain ⟨front, rest⟩ := pair
        obtain ⟨rfl, hFront⟩ := splitFront_eq_some hSplit
        refine ⟨front, by simp [number, hFront], hFront, ?_⟩
        have hLt := order.ofBytes_lt front
        rw [hFront, pow_256_eq_two_pow] at hLt
        simp only [number, hSplit, BitVec.toNat_ofNat]
        exact Nat.mod_eq_of_lt hLt
  complete target front rest v h _ := by
    obtain ⟨hFront, hValue⟩ := h
    have hBits : BitVec.ofNat (8 * n) (order.ofBytes front) = v := by
      rw [← hValue, BitVec.ofNat_toNat, BitVec.setWidth_eq]
    simp [number, hFront, hBits]
  least front v h := Nat.le_of_eq h.1.symm

theorem byte_reads : byte.Reads .byte where
  sound target bytes h := by
    cases bytes with
    | nil => simp [byte] at h
    | cons first rest => exact ⟨[first], rfl, rfl⟩
  complete target front rest v h _ := by
    cases (show front = [v] from h)
    rfl
  least front v h := by
    cases (show front = [v] from h)
    exact Nat.le_refl _

theorem nothing_reads : nothing.Reads .nothing where
  sound _ bytes _ := ⟨[], rfl, rfl⟩
  complete _ front rest _ h _ := by
    cases (show front = [] from h)
    rfl
  least _ _ _ := Nat.zero_le _

theorem length_le_of_append {front rest : Bytes} {n : Nat} (h : (front ++ rest).length ≤ n) :
    rest.length ≤ n := by
  rw [List.length_append] at h
  omega

/-- What two codecs read after each other is laid out as both. -/
theorem both_sound {first : Codec α} {second : Codec β} {one : Layout α} {two : Layout β}
    (hFirst : first.Sound one) (hSecond : second.Sound two) : (both first second).Sound (.both one two) := by
  intro target bytes h
  cases hOne : (first.decode target.1 bytes).stop with
  | some stop => simp [both, hOne] at h
  | none =>
      simp only [both, hOne] at h ⊢
      obtain ⟨front, hBytes, hFront⟩ := hFirst target.1 bytes hOne
      obtain ⟨back, hRest, hBack⟩ := hSecond target.2 _ h
      refine ⟨front ++ back, ?_, front, back, rfl, hFront, hBack⟩
      rw [List.append_assoc, ← hRest, ← hBytes]

/-- Two codecs read after each other what is laid out as both. -/
theorem both_reads {first : Codec α} {second : Codec β} {one : Layout α} {two : Layout β}
    (hFirst : first.Reads one) (hSecond : second.Reads two) :
    (both first second).Reads (.both one two) where
  sound := both_sound hFirst.sound hSecond.sound
  complete target front rest v h hLength := by
    obtain ⟨front, back, rfl, hFront, hBack⟩ := h
    rw [List.append_assoc] at hLength ⊢
    have hTail := length_le_of_append hLength
    simp [both, hFirst.complete target.1 front _ v.1 hFront hLength,
      hSecond.complete target.2 back rest v.2 hBack hTail]
  least front v h := by
    obtain ⟨front, back, rfl, hFront, hBack⟩ := h
    have hOne := hFirst.least front v.1 hFront
    have hTwo := hSecond.least back v.2 hBack
    simp only [both, List.length_append]
    omega

/-- A row of values is read exactly where they are laid out one after the other. -/
theorem row_reads {codec : Codec α} {layout : Layout α} (h : codec.Reads layout) (n : Nat) :
    (row codec n).Reads (.row layout n) := by
  induction n with
  | zero => exact nothing_reads
  | succ n ih => exact both_reads h ih

/-! ## Length fields -/

section LengthFields

variable {format : Format} {least n : Nat} {bytes field rest : Bytes}

/-- A length field is compared, as a number of 64 bits, with what is behind it. -/
theorem decodeLength_append (hField : Layout.lengthField format n field) (least : Nat) (rest : Bytes) :
    decodeLength format least (field ++ rest) =
      if rest.length < n * least % 0x10000000000000000 then .rejected rest else .accepted n rest := by
  obtain ⟨hWidth, rfl⟩ := hField
  simp only [decodeLength, splitFront_append hWidth]

/-- A length field that is cut short is not accepted. -/
theorem decodeLength_cut (least : Nat) (h : bytes.length < format.length.bytes) :
    decodeLength format least bytes = .rejected bytes := by
  simp only [decodeLength, splitFront_of_lt h]

/-- Bytes are too few for a length field, or start with one. -/
theorem short_or_lengthField (format : Format) (bytes : Bytes) :
    bytes.length < format.length.bytes ∨
      ∃ n field rest, bytes = field ++ rest ∧ Layout.lengthField format n field := by
  by_cases hShort : bytes.length < format.length.bytes
  · exact .inl hShort
  · obtain ⟨field, rest, rfl, hField⟩ := exists_front (Nat.not_lt.mp hShort)
    exact .inr ⟨_, field, rest, rfl, hField, rfl⟩

/-- A length field that was accepted spells the length, and the rest follows it. -/
theorem decodeLength_eq_accepted (h : decodeLength format least bytes = .accepted n rest) :
    ∃ field, bytes = field ++ rest ∧ Layout.lengthField format n field ∧
      n * least % 0x10000000000000000 ≤ rest.length := by
  rcases short_or_lengthField format bytes with hShort | ⟨m, field, behind, rfl, hField⟩
  · rw [decodeLength_cut least hShort] at h
    cases h
  · rw [decodeLength_append hField] at h
    split at h
    · cases h
    · next hFew =>
        obtain ⟨rfl, rfl⟩ := LengthField.accepted.inj h
        exact ⟨field, rfl, hField, Nat.not_lt.mp hFew⟩

/-- A length that claims no more than is there is accepted. The claim is computed modulo 2 ^ 64. -/
theorem decodeLength_of_accepted (hField : Layout.lengthField format n field)
    (h : n * least % 0x10000000000000000 ≤ rest.length) :
    decodeLength format least (field ++ rest) = .accepted n rest := by
  rw [decodeLength_append hField, if_neg (Nat.not_lt.mpr h)]

end LengthFields

/-- The length in front of elements that are there is accepted. The least size of so many elements
is at most the size of what is left, so reducing it to 64 bits does no harm. -/
theorem decodeLength_of_each {format : Format} {codec : Codec ε} {layout : Layout ε}
    (h : codec.Reads layout) {field body : Bytes} {xs : List ε}
    (spelled : Layout.lengthField format xs.length field) (each : Layout.Each layout body xs)
    (rest : Bytes) :
    decodeLength format codec.minSize (field ++ (body ++ rest)) =
      .accepted xs.length (body ++ rest) := by
  apply decodeLength_of_accepted spelled
  have hBody := each.length_le h.least
  rw [List.length_append]
  exact Nat.le_trans (Nat.mod_le _ _) (Nat.le_trans hBody (Nat.le_add_right _ _))

/-! ## Containers -/

/-- Elements that are decoded are laid out one after the other, and inserted in that order. -/
theorem decodeInto_sound {codec : Codec ε} {layout : Layout ε} (h : codec.Sound layout)
    (insert : List ε → ε → List ε) (n : Nat) (held : List ε) (bytes : Bytes)
    (hStop : (decodeInto codec insert n held bytes).stop = none) :
    ∃ body xs, bytes = body ++ (decodeInto codec insert n held bytes).rest ∧
      Layout.Each layout body xs ∧ xs.length = n ∧
      (decodeInto codec insert n held bytes).value = xs.foldl insert held := by
  induction n generalizing held bytes with
  | zero => exact ⟨[], [], rfl, .nil, rfl, rfl⟩
  | succ n ih =>
      cases hOne : (codec.decode codec.blank bytes).stop with
      | some stop => simp [decodeInto, hOne] at hStop
      | none =>
          simp only [decodeInto, hOne] at hStop ⊢
          obtain ⟨front, hBytes, hFront⟩ := h codec.blank bytes hOne
          obtain ⟨body, xs, hRest, hEach, hCount, hValue⟩ := ih _ _ hStop
          refine ⟨front ++ body, _ :: xs, ?_, .cons hFront hEach, by simp [hCount], hValue⟩
          rw [List.append_assoc, ← hRest, ← hBytes]

/-- Elements that are there are read one after the other, whatever is still to be read after them. -/
theorem decodeInto_of_each {codec : Codec ε} {layout : Layout ε} (h : codec.Reads layout)
    (insert : List ε → ε → List ε) {body : Bytes} {xs : List ε} (each : Layout.Each layout body xs)
    (n : Nat) (held : List ε) (rest : Bytes) (hLength : (body ++ rest).length ≤ Bytes.longest) :
    decodeInto codec insert (xs.length + n) held (body ++ rest) =
      decodeInto codec insert n (xs.foldl insert held) rest := by
  induction each generalizing held with
  | nil => simp
  | @cons front back x xs first each ih =>
      rw [List.append_assoc] at hLength ⊢
      rw [List.length_cons, Nat.add_right_comm, decodeInto]
      simp only [h.complete codec.blank front _ x first hLength]
      exact ih _ (length_le_of_append hLength)

/-- Elements that are laid out one after the other are all decoded and inserted. -/
theorem decodeInto_complete {codec : Codec ε} {layout : Layout ε} (h : codec.Reads layout)
    (insert : List ε → ε → List ε) {body : Bytes} {xs : List ε} (each : Layout.Each layout body xs)
    (rest : Bytes) (hLength : (body ++ rest).length ≤ Bytes.longest) :
    decodeInto codec insert xs.length [] (body ++ rest) = ⟨xs.foldl insert [], rest, none⟩ :=
  decodeInto_of_each h insert each 0 [] rest hLength

theorem decodeInto_append (codec : Codec ε) (n : Nat) (held : List ε) (bytes : Bytes) :
    decodeInto codec (fun xs x => xs ++ [x]) n held bytes =
      { decodeMany codec n bytes with value := held ++ (decodeMany codec n bytes).value } := by
  induction n generalizing held bytes with
  | zero => simp [decodeInto, decodeMany]
  | succ n ih =>
      cases hOne : (codec.decode codec.blank bytes).stop with
      | some stop => simp [decodeInto, decodeMany, hOne]
      | none => simp [decodeInto, decodeMany, hOne, ih]

/-- Numbers in a row are read as if each were appended to a container. -/
theorem decodeMany_eq_decodeInto (codec : Codec ε) (n : Nat) (bytes : Bytes) :
    decodeMany codec n bytes = decodeInto codec (fun xs x => xs ++ [x]) n [] bytes := by
  simp [decodeInto_append]

theorem foldl_append_singleton (xs held : List ε) :
    xs.foldl (fun xs x => xs ++ [x]) held = held ++ xs := by
  induction xs generalizing held with
  | nil => simp
  | cons x xs ih => simp [ih]

/-- What a container is decoded from is a length field and as many elements. -/
theorem container_sound (format : Format) {codec : Codec ε} {layout : Layout ε}
    (h : codec.Sound layout) {insert : List ε → ε → List ε} {collect : List ε → List ε}
    (hCollect : ∀ xs, collect xs = xs.foldl insert []) :
    (container format codec insert).Sound (.counted format layout collect) := by
  intro target bytes hStop
  cases hField : decodeLength format codec.minSize bytes with
  | rejected rest => simp [container, hField] at hStop
  | accepted n rest =>
      simp only [container, hField] at hStop ⊢
      obtain ⟨field, hBytes, hSpelled, -⟩ := decodeLength_eq_accepted hField
      obtain ⟨body, xs, hRest, hEach, rfl, hValue⟩ := decodeInto_sound h insert n [] rest hStop
      refine ⟨field ++ body, ?_, field, body, xs, rfl, hSpelled, hEach, ?_⟩
      · rw [List.append_assoc, ← hRest, hBytes]
      · rw [hValue, hCollect]

/-- A container is decoded from a length field and as many elements, and from nothing else. -/
theorem container_reads (format : Format) {codec : Codec ε} {layout : Layout ε}
    (h : codec.Reads layout) {insert : List ε → ε → List ε} {collect : List ε → List ε}
    (hCollect : ∀ xs, collect xs = xs.foldl insert []) :
    (container format codec insert).Reads (.counted format layout collect) where
  sound := container_sound format h.sound hCollect
  complete target front rest v hFront hLength := by
    obtain ⟨field, body, xs, rfl, hSpelled, hEach, rfl⟩ := hFront
    rw [List.append_assoc] at hLength ⊢
    simp only [container, decodeLength_of_each h hSpelled hEach rest, hCollect]
    exact decodeInto_complete h insert hEach rest (length_le_of_append hLength)
  least front v hFront := by
    obtain ⟨field, body, xs, rfl, ⟨hField, _⟩, _⟩ := hFront
    simp only [container, List.length_append]
    omega

/-- What is read into a contiguous container has room in it. -/
theorem contiguous_sound (format : Format) {codec : Codec ε} {layout : Layout ε}
    (h : codec.Sound layout) :
    (contiguous format codec).Sound fun front v =>
      Layout.counted format layout id front v ∧ v.length ≤ mostElements codec.minSize := by
  intro target bytes hStop
  cases hField : decodeLength format codec.minSize bytes with
  | rejected rest => simp [contiguous, hField] at hStop
  | accepted n rest =>
      by_cases hMost : mostElements codec.minSize < n
      · simp [contiguous, hField, hMost] at hStop
      · cases hAll : (decodeMany codec n rest).stop with
        | some stop => simp [contiguous, hField, hMost, hAll] at hStop
        | none =>
            simp only [contiguous, hField, hMost, hAll, if_false]
            rw [decodeMany_eq_decodeInto] at hAll ⊢
            obtain ⟨field, hBytes, hSpelled, -⟩ := decodeLength_eq_accepted hField
            obtain ⟨body, xs, hRest, hEach, rfl, hValue⟩ := decodeInto_sound h _ n [] rest hAll
            rw [foldl_append_singleton] at hValue
            refine ⟨field ++ body, ?_, ⟨field, body, xs, rfl, hSpelled, hEach, hValue⟩, ?_⟩
            · rw [List.append_assoc, ← hRest, hBytes]
            · rw [hValue]
              exact Nat.not_lt.mp hMost

/-- A contiguous container reads what the container that appends its elements reads. The bound on
the number of its elements is never reached by bytes that are there. -/
theorem contiguous_reads (format : Format) {codec : Codec ε} {layout : Layout ε}
    (h : codec.Reads layout) (hPos : 0 < codec.minSize) :
    (contiguous format codec).Reads (.counted format layout id) where
  sound target bytes hStop := by
    obtain ⟨front, hBytes, hFront, -⟩ := contiguous_sound format h.sound target bytes hStop
    exact ⟨front, hBytes, hFront⟩
  complete target front rest v hFront hLength := by
    obtain ⟨field, body, xs, rfl, hSpelled, hEach, hValue⟩ := hFront
    cases (show v = xs from hValue)
    rw [List.append_assoc] at hLength ⊢
    have hTail := length_le_of_append hLength
    have hMost : ¬ mostElements codec.minSize < v.length := by
      rw [Nat.not_lt, mostElements, Nat.le_div_iff_mul_le hPos]
      have hBody := hEach.length_le h.least
      simp only [List.length_append] at hTail
      omega
    have hAll : decodeMany codec v.length (body ++ rest) = ⟨v, rest, none⟩ := by
      rw [decodeMany_eq_decodeInto, decodeInto_complete h _ hEach rest hTail,
        foldl_append_singleton, List.nil_append]
    simp [contiguous, decodeLength_of_each h hSpelled hEach rest, hMost, hAll]
  least front v hFront := by
    obtain ⟨field, body, xs, rfl, ⟨hField, _⟩, _⟩ := hFront
    simp only [contiguous, List.length_append]
    omega

end Codec

end SerializerContract
