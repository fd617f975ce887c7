import SerializerContract.Proofs.Channel
import SerializerContract.Proofs.ValueType.Proper

/-! The round trip of every type. What is appended for a value does not depend on what is before it, and
is read back as that value, whatever the target held and whatever follows. -/
namespace SerializerContract

mutual
/-- A value in which every associative container, at any depth, is arranged by its keys. -/
def ValueType.WellFormed : (t : ValueType) → t.Val → Prop
  | .scalar _, _ => True
  | .enumeration _ _, _ => True
  | .text _, _ => True
  | .record _ _, _ => True
  | .optional _, _ => True
  | .pointer _ _, _ => True
  | .pair a b, v => a.WellFormed v.1 ∧ b.WellFormed v.2
  | .entry k t, v => k.WellFormed v.1 ∧ t.WellFormed v.2
  | .tuple t rest, v => t.WellFormed v.1 ∧ rest.WellFormed v.2
  | .array _ t, v => ∀ x ∈ v.toList, t.WellFormed x
  | .sequence _ t, (xs : List t.Val) => ∀ x ∈ xs, t.WellFormed x
  | .set lookup multi t, (xs : List t.Val) =>
    (∀ x ∈ xs, t.WellFormed x) ∧ lookup.Arranged multi t id xs
  | .map lookup multi k t, (xs : List (k.Val × t.Val)) =>
    (∀ x ∈ xs, k.WellFormed x.1 ∧ t.WellFormed x.2) ∧
      lookup.Arranged multi k Prod.fst xs

def FieldTypes.WellFormed : (ts : FieldTypes) → ts.Val → Prop
  | .nil, _ => True
  | .cons t rest, v => t.WellFormed v.1 ∧ rest.WellFormed v.2
end

mutual
/-- Well-formed values are proper. -/
theorem ValueType.proper_of_wellFormed : (t : ValueType) → (v : t.Val) → t.WellFormed v → t.Proper v
  | .scalar _, _, _ => trivial
  | .enumeration _ _, _, _ => trivial
  | .text _, _, _ => trivial
  | .record _ _, _, _ => trivial
  | .optional _, _, _ => trivial
  | .pointer _ _, _, _ => trivial
  | .pair a b, v, h => ⟨a.proper_of_wellFormed v.1 h.1, b.proper_of_wellFormed v.2 h.2⟩
  | .entry k t, v, h => ⟨k.proper_of_wellFormed v.1 h.1, t.proper_of_wellFormed v.2 h.2⟩
  | .tuple t rest, v, h => ⟨t.proper_of_wellFormed v.1 h.1, rest.proper_of_wellFormed v.2 h.2⟩
  | .array _ t, _, h => fun x hx => t.proper_of_wellFormed x (h x hx)
  | .sequence _ t, _, h => fun x hx => t.proper_of_wellFormed x (h x hx)
  | .set _ _ t, _, h => ⟨fun x hx => t.proper_of_wellFormed x (h.1 x hx), Lookup.holds_of_arranged h.2⟩
  | .map _ _ k t, _, h =>
    ⟨fun x hx => ⟨k.proper_of_wellFormed x.1 (h.1 x hx).1, t.proper_of_wellFormed x.2 (h.1 x hx).2⟩,
      Lookup.holds_of_arranged h.2⟩

theorem FieldTypes.proper_of_wellFormed : (ts : FieldTypes) → (v : ts.Val) → ts.WellFormed v → ts.Proper v
  | .nil, _, _ => trivial
  | .cons t rest, v, h => ⟨t.proper_of_wellFormed v.1 h.1, rest.proper_of_wellFormed v.2 h.2⟩
end

/-- Well-formed values are written as their layout says. -/
theorem ValueType.codec_writes (format : Format) (t : ValueType) (h : t.Serializable) :
    (t.codec format h).Writes (t.layout format) t.WellFormed :=
  fun v hValid => t.proper_writes format h v (t.proper_of_wellFormed v hValid)

namespace ValueType

/-- Appending a value adds the same bytes behind everything. Decoding them, with anything behind them
and into any target, yields exactly the value and leaves exactly what is behind them; a channel that is
read so moves its cursor over just these bytes. -/
theorem decode_appended (format : Format) (t : ValueType) (h : t.Serializable) (v : t.Val)
    (hValid : t.WellFormed v) (prior : OutputChannel)
    (hAppend : ((OutputChannel.write (t.codec format h) v).outcome prior).1 = .ok ()) :
    ∃ bytes : Bytes,
      (∀ before, (OutputChannel.write (t.codec format h) v).outcome ⟨before⟩ =
        (.ok (), ⟨before ++ bytes⟩)) ∧
      ∀ (target : t.Val) (suffix past : Bytes), (bytes ++ suffix).length ≤ Bytes.longest →
        (t.codec format h).decode target (bytes ++ suffix) = ⟨v, suffix, none⟩ ∧
        (InputChannel.readInto (t.codec format h)).outcome (target, ⟨past, bytes ++ suffix⟩) =
          (.ok (), (v, ⟨past ++ bytes, suffix⟩)) := by
  have hComplete := OutputChannel.complete_of_write hAppend
  have hLayout := t.codec_writes format h v hValid hComplete
  refine ⟨_, fun before => OutputChannel.write_of_complete hComplete ⟨before⟩, ?_⟩
  intro target suffix past hLength
  have hDecode := (t.codec_reads format h).complete target _ suffix v hLayout hLength
  exact ⟨hDecode, InputChannel.readInto_of_decode hDecode⟩

/-- Names by the numbers they are kept under. -/
abbrev names : ValueType := map .ordered false (.scalar .uint8) string

def twoNames : names.Val :=
  show List (BitVec 8 × Bytes) from [(1, [98, 99]), (200, [])]

def oneName : names.Val :=
  show List (BitVec 8 × Bytes) from [(9, [9])]

def twoNamesBytes : Bytes := [0, 2, 1, 0, 2, 98, 99, 200, 0, 0]

/-- A map is read back into one that held something else, and the byte behind it is left. -/
theorem decode_appended_names :
    names.WellFormed twoNames ∧
    ((OutputChannel.write (names.codec ⟨.big, .w16⟩ (by decide)) twoNames).outcome ⟨[7]⟩).1 = .ok () ∧
    (names.codec ⟨.big, .w16⟩ (by decide)).decode oneName (twoNamesBytes ++ [5]) =
      ⟨twoNames, [5], none⟩ := by
  have hValid : names.WellFormed twoNames :=
    ⟨fun _ _ => ⟨trivial, trivial⟩, List.pairwise_pair.mpr ⟨by decide, .inr (by decide)⟩⟩
  have hAppend : ((OutputChannel.write (names.codec ⟨.big, .w16⟩ (by decide)) twoNames).outcome
    ⟨[7]⟩).1 = .ok () := rfl
  obtain ⟨bytes, hBytes, hDecode⟩ :=
    decode_appended ⟨.big, .w16⟩ names (by decide) twoNames hValid ⟨[7]⟩ hAppend
  have hWritten : bytes = twoNamesBytes :=
    (congrArg (fun result => result.2.data) (hBytes [])).symm
  rw [hWritten] at hDecode
  exact ⟨hValid, hAppend, (hDecode oneName [5] [] (by decide)).1⟩

end ValueType

end SerializerContract
