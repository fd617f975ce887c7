import SerializerContract.Proofs.Channel
import SerializerContract.Proofs.Codec.Items
import SerializerContract.Proofs.ValueType.Layout

/-! What the values of every type are written as, item by item. A value cannot be written if some container in
it is too long, and then everything in front of the length of the first such container has been written. -/
namespace SerializerContract

mutual
/-- The numbers and lengths of a value, depth first: the length of a container is in front of its elements. -/
def ValueType.items : (t : ValueType) → t.Val → List Item
  | .scalar s, v => [.number s.size (BitVec.toNat v)]
  | .enumeration _ s, v => [.number s.size (BitVec.toNat v)]
  | .text kind, v =>
    .length (kind.bytes v).length :: (kind.bytes v).flatMap fun byte => [.number 1 byte.toNat]
  | .record _ _, _ => []
  | .optional _, _ => []
  | .pointer _ _, _ => []
  | .pair a b, v => a.items v.1 ++ b.items v.2
  | .entry k t, v => k.items v.1 ++ t.items v.2
  | .tuple t rest, v => t.items v.1 ++ rest.items v.2
  | .array _ t, v => v.toList.flatMap t.items
  | .sequence _ t, (xs : List t.Val) => .length xs.length :: xs.flatMap t.items
  | .set _ _ t, (xs : List t.Val) => .length xs.length :: xs.flatMap t.items
  | .map _ _ k t, (xs : List (k.Val × t.Val)) =>
    .length xs.length :: xs.flatMap fun x => k.items x.1 ++ t.items x.2

def FieldTypes.items : (ts : FieldTypes) → ts.Val → List Item
  | .nil, _ => []
  | .cons t rest, v => t.items v.1 ++ rest.items v.2
end

mutual
/-- Some container in the value, at any depth, has more elements than `limit`. -/
def ValueType.Overlong (limit : Nat) : (t : ValueType) → t.Val → Prop
  | .scalar _, _ => False
  | .enumeration _ _, _ => False
  | .text kind, v => limit < (kind.bytes v).length
  | .record _ _, _ => False
  | .optional _, _ => False
  | .pointer _ _, _ => False
  | .pair a b, v => a.Overlong limit v.1 ∨ b.Overlong limit v.2
  | .entry k t, v => k.Overlong limit v.1 ∨ t.Overlong limit v.2
  | .tuple t rest, v => t.Overlong limit v.1 ∨ rest.Overlong limit v.2
  | .array _ t, v => ∃ x ∈ v.toList, t.Overlong limit x
  | .sequence _ t, (xs : List t.Val) => limit < xs.length ∨ ∃ x ∈ xs, t.Overlong limit x
  | .set _ _ t, (xs : List t.Val) => limit < xs.length ∨ ∃ x ∈ xs, t.Overlong limit x
  | .map _ _ k t, (xs : List (k.Val × t.Val)) =>
    limit < xs.length ∨ ∃ x ∈ xs, k.Overlong limit x.1 ∨ t.Overlong limit x.2

def FieldTypes.Overlong (limit : Nat) : (ts : FieldTypes) → ts.Val → Prop
  | .nil, _ => False
  | .cons t rest, v => t.Overlong limit v.1 ∨ rest.Overlong limit v.2
end

mutual
/-- The encoding of a value is the wire form of its items up to the first one that does not fit. -/
theorem ValueType.codec_itemizes (format : Format) :
    (t : ValueType) → (h : t.Serializable) → (t.codec format h).Itemizes format t.items
  | .scalar s, _ => Codec.number_itemizes s.size
  | .enumeration _ s, _ => Codec.number_itemizes s.size
  | .text .owned, _ => fun v => Codec.counted_itemizes Codec.byte_itemizes v
  | .pair a b, h => Codec.both_itemizes (a.codec_itemizes format h.1) (b.codec_itemizes format h.2)
  | .entry k t, h => Codec.both_itemizes (k.codec_itemizes format h.1) (t.codec_itemizes format h.2)
  | .tuple t rest, h => Codec.both_itemizes (t.codec_itemizes format h.1) (rest.codec_itemizes format h.2)
  | .array n t, h => Codec.row_itemizes (t.codec_itemizes format h.2) n
  | .sequence _ t, h =>
    have hElement := t.codec_itemizes format h.2
    ValueType.codec_sequence_cases (motive := fun codec => codec.Itemizes format _) h
      (fun _ => Codec.counted_itemizes hElement) (Codec.counted_itemizes hElement)
  | .set _ _ t, h => fun xs => Codec.counted_itemizes (t.codec_itemizes format h) xs
  | .map _ _ k t, h => fun xs => Codec.counted_itemizes
      (Codec.both_itemizes (k.codec_itemizes format h.1) (t.codec_itemizes format h.2)) xs

theorem FieldTypes.codec_itemizes (format : Format) :
    (ts : FieldTypes) → (h : ts.Serializable) → (ts.codec format h).Itemizes format ts.items
  | .nil, _ => Codec.nothing_itemizes
  | .cons t rest, h => Codec.both_itemizes (t.codec_itemizes format h.1) (rest.codec_itemizes format h.2)
end

/-- Some item does not fit. -/
def Item.SomeUnfit (format : Format) (items : List Item) : Prop := ∃ item ∈ items, ¬ item.Fits format

namespace Item

variable {format : Format}

theorem someUnfit_append {front back : List Item} :
    SomeUnfit format (front ++ back) ↔ SomeUnfit format front ∨ SomeUnfit format back := by
  simp only [SomeUnfit, List.mem_append, or_and_right, exists_or]

theorem someUnfit_flatMap {ε : Type} {items : ε → List Item} {xs : List ε} :
    SomeUnfit format (xs.flatMap items) ↔ ∃ x ∈ xs, SomeUnfit format (items x) := by
  constructor
  · rintro ⟨item, hItem, hUnfit⟩
    obtain ⟨x, hx, hMem⟩ := List.mem_flatMap.mp hItem
    exact ⟨x, hx, item, hMem, hUnfit⟩
  · rintro ⟨x, hx, item, hMem, hUnfit⟩
    exact ⟨item, List.mem_flatMap.mpr ⟨x, hx, hMem⟩, hUnfit⟩

theorem someUnfit_length_cons {n : Nat} {items : List Item} :
    SomeUnfit format (.length n :: items) ↔ format.length.maximum < n ∨ SomeUnfit format items := by
  simp [SomeUnfit, Fits]

theorem not_someUnfit_number {size value : Nat} : ¬ SomeUnfit format [.number size value] := by
  simp [SomeUnfit, Fits]

end Item

mutual
/-- The lengths that do not fit are those of containers that are too long. -/
theorem ValueType.someUnfit_items (format : Format) : (t : ValueType) → (v : t.Val) →
    (Item.SomeUnfit format (t.items v) ↔ t.Overlong format.length.maximum v)
  | .scalar _, _ => iff_of_false Item.not_someUnfit_number not_false
  | .enumeration _ _, _ => iff_of_false Item.not_someUnfit_number not_false
  | .text _, _ => by
      rw [ValueType.items, Item.someUnfit_length_cons, Item.someUnfit_flatMap]
      simp [Item.not_someUnfit_number, ValueType.Overlong]
  | .record _ _, _ => by simp [ValueType.items, Item.SomeUnfit, ValueType.Overlong]
  | .optional _, _ => by simp [ValueType.items, Item.SomeUnfit, ValueType.Overlong]
  | .pointer _ _, _ => by simp [ValueType.items, Item.SomeUnfit, ValueType.Overlong]
  | .pair a b, v => Item.someUnfit_append.trans
      (or_congr (a.someUnfit_items format v.1) (b.someUnfit_items format v.2))
  | .entry k t, v => Item.someUnfit_append.trans
      (or_congr (k.someUnfit_items format v.1) (t.someUnfit_items format v.2))
  | .tuple t rest, v => Item.someUnfit_append.trans
      (or_congr (t.someUnfit_items format v.1) (rest.someUnfit_items format v.2))
  | .array _ t, _ => Item.someUnfit_flatMap.trans
      (exists_congr fun x => and_congr_right fun _ => t.someUnfit_items format x)
  | .sequence _ t, _ => Item.someUnfit_length_cons.trans (or_congr_right (Item.someUnfit_flatMap.trans
      (exists_congr fun x => and_congr_right fun _ => t.someUnfit_items format x)))
  | .set _ _ t, _ => Item.someUnfit_length_cons.trans (or_congr_right (Item.someUnfit_flatMap.trans
      (exists_congr fun x => and_congr_right fun _ => t.someUnfit_items format x)))
  | .map _ _ k t, _ => Item.someUnfit_length_cons.trans (or_congr_right (Item.someUnfit_flatMap.trans
      (exists_congr fun x => and_congr_right fun _ => Item.someUnfit_append.trans
        (or_congr (k.someUnfit_items format x.1) (t.someUnfit_items format x.2)))))

theorem FieldTypes.someUnfit_items (format : Format) : (ts : FieldTypes) → (v : ts.Val) →
    (Item.SomeUnfit format (ts.items v) ↔ ts.Overlong format.length.maximum v)
  | .nil, _ => by simp [FieldTypes.items, Item.SomeUnfit, FieldTypes.Overlong]
  | .cons t rest, v => Item.someUnfit_append.trans
      (or_congr (t.someUnfit_items format v.1) (rest.someUnfit_items format v.2))
end

namespace OutputChannel

variable {α : Type} {codec : Codec α} {v : α} {bytes : Bytes}

theorem write_of_encode {complete : Bool} (h : codec.encode v = ⟨bytes, complete⟩) (prior : OutputChannel) :
    (write codec v).outcome prior = (if complete then .ok () else .error tooLarge, prior.appended bytes) := by
  simp only [write, Action.outcome, h]

theorem byteSize_of_encode {complete : Bool} (h : codec.encode v = ⟨bytes, complete⟩) :
    byteSize codec v = if complete then .ok bytes.length else .error tooLarge := by
  rw [byteSize, write_of_encode h {}]
  cases complete with
  | true => simp [Except.map]
  | false => rfl

end OutputChannel

namespace ValueType

variable {format : Format} {t : ValueType} {v : t.Val}

/-- An overlong value is written up to the length that does not fit. -/
theorem encode_of_overlong (h : t.Serializable) (hOverlong : t.Overlong format.length.maximum v) :
    ∃ before n after, t.items v = before ++ .length n :: after ∧ format.length.maximum < n ∧
      (∀ item ∈ before, item.Fits format) ∧
      (t.codec format h).encode v = ⟨Item.wire format before, false⟩ := by
  obtain ⟨before, n, after, hItems, hLong, hBefore⟩ :=
    Item.exists_first ((t.someUnfit_items format v).mpr hOverlong)
  refine ⟨before, n, after, hItems, hLong, hBefore, ?_⟩
  rw [t.codec_itemizes format h, hItems]
  exact Item.emitAll_of_not_fits hBefore (Nat.not_le.mpr hLong)

/-- A value without an overlong part is written whole. -/
theorem encode_of_not_overlong (h : t.Serializable) (hFits : ¬ t.Overlong format.length.maximum v) :
    (t.codec format h).encode v = .done (Item.wire format (t.items v)) := by
  rw [t.codec_itemizes format h]
  refine Item.emitAll_of_fits fun item hItem => Decidable.byContradiction fun hUnfit => ?_
  exact hFits ((t.someUnfit_items format v).mp ⟨item, hItem, hUnfit⟩)

/-- A value is refused exactly if some container in it, at any depth, is too long for its length field, and then
it cannot be measured either. What has been written of it by then are the items in front of the first length that
does not fit. Any other value adds all its items, and they are as many bytes as it measures. -/
theorem write_stops_at_overlong (format : Format) (t : ValueType) (h : t.Serializable) (v : t.Val)
    (prior : OutputChannel) :
    (((OutputChannel.write (t.codec format h) v).outcome prior).1 = .error OutputChannel.tooLarge ↔
      t.Overlong format.length.maximum v) ∧
    (OutputChannel.byteSize (t.codec format h) v = .error OutputChannel.tooLarge ↔
      t.Overlong format.length.maximum v) ∧
    (t.Overlong format.length.maximum v →
      ∃ before n after, t.items v = before ++ .length n :: after ∧ format.length.maximum < n ∧
        (∀ item ∈ before, item.Fits format) ∧
        (OutputChannel.write (t.codec format h) v).outcome prior =
          (.error OutputChannel.tooLarge, prior.appended (Item.wire format before))) ∧
    (¬ t.Overlong format.length.maximum v →
      OutputChannel.byteSize (t.codec format h) v = .ok (Item.wire format (t.items v)).length ∧
      (OutputChannel.write (t.codec format h) v).outcome prior =
        (.ok (), prior.appended (Item.wire format (t.items v)))) := by
  by_cases hOverlong : t.Overlong format.length.maximum v
  · obtain ⟨before, n, after, hItems, hLong, hBefore, hEncode⟩ := encode_of_overlong h hOverlong
    have hWrite := OutputChannel.write_of_encode hEncode prior
    have hSize := OutputChannel.byteSize_of_encode hEncode
    refine ⟨iff_of_true (congrArg Prod.fst hWrite) hOverlong, iff_of_true hSize hOverlong, fun _ => ?_,
      absurd hOverlong⟩
    exact ⟨before, n, after, hItems, hLong, hBefore, hWrite⟩
  · have hEncode := encode_of_not_overlong h hOverlong
    have hWrite := OutputChannel.write_of_encode hEncode prior
    have hSize := OutputChannel.byteSize_of_encode hEncode
    refine ⟨iff_of_false ?_ hOverlong, iff_of_false ?_ hOverlong, fun h => absurd h hOverlong, fun _ => ?_⟩
    · simp [hWrite]
    · simp [hSize]
    · exact ⟨hSize, hWrite⟩

abbrev textList : ValueType := sequence .list string

/-- A short text, and one that is too long for a length field of one byte. -/
def oneTooLong : textList.Val :=
  show List Bytes from [[98], List.replicate 256 97]

/-- The length of the list and the first text have been written when the second text is refused. -/
theorem write_stops_at_overlong_second :
    textList.Overlong 255 oneTooLong ∧
    OutputChannel.byteSize (textList.codec ⟨.big, .w8⟩ (by decide)) oneTooLong = .error OutputChannel.tooLarge ∧
    (OutputChannel.write (textList.codec ⟨.big, .w8⟩ (by decide)) oneTooLong).outcome ⟨[7]⟩ =
      (.error OutputChannel.tooLarge, ⟨[7, 2, 1, 98]⟩) := by
  have hLong : 255 < (List.replicate 256 (97 : UInt8)).length :=
    Nat.lt_of_lt_of_eq (by decide) List.length_replicate.symm
  have hOverlong : textList.Overlong 255 oneTooLong :=
    .inr ⟨List.replicate 256 97, List.mem_cons_of_mem _ List.mem_cons_self, hLong⟩
  obtain ⟨-, hSize, -, -⟩ := write_stops_at_overlong ⟨.big, .w8⟩ textList (by decide) oneTooLong ⟨[7]⟩
  refine ⟨hOverlong, hSize.mpr hOverlong, ?_⟩
  have hBefore : ∀ item ∈ [.length 2, .length 1, .number 1 98], Item.Fits ⟨.big, .w8⟩ item := by decide
  have hEncode := textList.codec_itemizes ⟨.big, .w8⟩ (by decide) oneTooLong
  exact OutputChannel.write_of_encode
    (hEncode.trans (Item.emitAll_of_not_fits hBefore (Nat.not_le.mpr hLong))) ⟨[7]⟩

end ValueType

end SerializerContract
