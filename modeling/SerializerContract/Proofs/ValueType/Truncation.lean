import SerializerContract.Channel
import SerializerContract.Proofs.Codec.Locality
import SerializerContract.Proofs.ValueType.Layout

/-! More bytes and fewer bytes. For every type, what follows the bytes of a value changes nothing about how they
are read, and no part of them from the front is enough, wherever it ends. -/
namespace SerializerContract

mutual
/-- What follows a value does not change how it is read. -/
theorem ValueType.codec_local (format : Format) :
    (t : ValueType) → (h : t.Serializable) → (t.codec format h).Local
  | .scalar s, _ => Codec.number_local format.order s.size
  | .enumeration _ s, _ => Codec.number_local format.order s.size
  | .text .owned, _ => Codec.contiguous_local format Codec.byte_reads Codec.byte_local
  | .pair a b, h => Codec.both_local (a.codec_local format h.1) (b.codec_local format h.2)
  | .entry k v, h => Codec.both_local (k.codec_local format h.1) (v.codec_local format h.2)
  | .tuple t rest, h => Codec.both_local (t.codec_local format h.1) (rest.codec_local format h.2)
  | .array n t, h => Codec.row_local (t.codec_local format h.2) n
  | .sequence _ t, h =>
    have hReads := t.codec_reads format h.2
    have hElement := t.codec_local format h.2
    ValueType.codec_sequence_cases (motive := fun codec => codec.Local) h
      (fun _ => Codec.contiguous_local format hReads hElement) (Codec.container_local format hReads hElement _)
  | .set _ _ t, h => Codec.container_local format (t.codec_reads format h) (t.codec_local format h) _
  | .map _ _ k v, h => Codec.container_local format
      (Codec.both_reads (k.codec_reads format h.1) (v.codec_reads format h.2))
      (Codec.both_local (k.codec_local format h.1) (v.codec_local format h.2)) _

theorem FieldTypes.codec_local (format : Format) :
    (ts : FieldTypes) → (h : ts.Serializable) → (ts.codec format h).Local
  | .nil, _ => Codec.nothing_local
  | .cons t rest, h => Codec.both_local (t.codec_local format h.1) (rest.codec_local format h.2)
end

namespace ValueType

/-- A decoding that succeeds has consumed bytes that spell the value. -/
theorem spells_of_decode {format : Format} {t : ValueType} {h : t.Serializable} {target v : t.Val}
    {bytes rest : Bytes} (hDecode : (t.codec format h).decode target bytes = ⟨v, rest, none⟩) :
    ∃ front, bytes = front ++ rest ∧ (t.codec format h).Spells front v := by
  have hSpells := (t.codec_local format h).spells target bytes
  rw [hDecode] at hSpells
  exact hSpells rfl

/-- Bytes that are a value to their end are the same value in front of anything, read into any target. Without
their end, wherever they are cut, they are too few: for a channel too, whose cursor is then kept. So no bytes of a
value are the beginning of others, in whichever order the elements of a container are listed. -/
theorem decode_extended_and_cut (format : Format) (t : ValueType) (h : t.Serializable) {target v : t.Val}
    {bytes : Bytes} (hDecode : (t.codec format h).decode target bytes = ⟨v, [], none⟩) :
    (∀ target' suffix, (t.codec format h).decode target' (bytes ++ suffix) = ⟨v, suffix, none⟩) ∧
    (∀ target' front cut, bytes = front ++ cut → cut ≠ [] →
      ((t.codec format h).decode target' front).stop = some .shortage ∧
      ∀ past, ∃ left, (InputChannel.readInto (t.codec format h)).outcome (target', ⟨past, front⟩) =
        (.error .shortage, (left, ⟨past, front⟩))) ∧
    (∀ target' w front cut, (t.codec format h).decode target' front = ⟨w, [], none⟩ →
      bytes = front ++ cut → cut = []) := by
  obtain ⟨front, hBytes, hSpells⟩ := spells_of_decode hDecode
  rw [List.append_nil] at hBytes
  subst hBytes
  have hShort : ∀ target' front cut, bytes = front ++ cut → cut ≠ [] →
      ((t.codec format h).decode target' front).stop = some .shortage := by
    rintro target' front cut rfl hCut
    exact (t.codec_local format h).shortage_of_cut hSpells hCut target'
  refine ⟨hSpells, fun target' front cut hBytes hCut => ?_, fun target' w front cut hFront hBytes => ?_⟩
  · have hStop := hShort target' front cut hBytes hCut
    refine ⟨hStop, fun past => ⟨((t.codec format h).decode target' front).value, ?_⟩⟩
    simp only [Action.outcome, InputChannel.readInto, hStop]
    rfl
  · refine Classical.byContradiction fun hCut => ?_
    have hStop := hShort target' front cut hBytes hCut
    rw [hFront] at hStop
    cases hStop

abbrev texts : ValueType := set .ordered false string

/-- Three texts that are not sorted, and one of them twice. -/
def repeatedTexts : Bytes := [3, 0, 1, 0, 98, 1, 0, 97, 1, 0, 98]

def textsAB : texts.Val :=
  show List Bytes from [[97], [98]]

/-- The three texts are the same two in front of one more byte, and nothing without their last byte. -/
theorem decode_extended_and_cut_repeated :
    (texts.codec ⟨.little, .w16⟩ (by decide)).decode [] repeatedTexts = ⟨textsAB, [], none⟩ ∧
    (texts.codec ⟨.little, .w16⟩ (by decide)).decode textsAB (repeatedTexts ++ [7]) = ⟨textsAB, [7], none⟩ ∧
    ((texts.codec ⟨.little, .w16⟩ (by decide)).decode textsAB [3, 0, 1, 0, 98, 1, 0, 97, 1, 0]).stop =
      some .shortage := by
  have hDecode : (texts.codec ⟨.little, .w16⟩ (by decide)).decode [] repeatedTexts =
      ⟨textsAB, [], none⟩ := rfl
  obtain ⟨hExtended, hCut, -⟩ := decode_extended_and_cut ⟨.little, .w16⟩ texts (by decide) hDecode
  exact ⟨hDecode, hExtended textsAB [7], (hCut textsAB _ [98] rfl (by decide)).1⟩

end ValueType

end SerializerContract
