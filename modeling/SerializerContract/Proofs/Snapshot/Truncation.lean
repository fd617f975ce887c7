import SerializerContract.Family
import SerializerContract.Proofs.Snapshot.ReadBack

/-! Snapshots that are cut off. No frame is the beginning of another one, so without its end a snapshot is found
too short wherever it ends, and before anything is made from it. -/
namespace SerializerContract

/-- Without its end a frame is no frame: what is left of it would be spelled as some other frame, and that one
would have to be read from the whole too. -/
theorem InputChannel.readFrame_of_cut {frame : Frame} (hFits : frame.Fits) {front back : Bytes}
    (hWhole : front ++ back = frame.bytes) (hBack : back ≠ []) (past : Bytes) :
    ∃ later, readFrame.outcome ⟨past, front⟩ = (.error .shortage, later) := by
  obtain ⟨_, other, after, hPasses, ⟨rfl, hOther⟩, -⟩ | hShort := readFrame_parses ⟨past, front⟩
  · have hFront : front = other.bytes ++ after.rest := hPasses.rest
    have hReadOther := (passes_append past other.bytes (after.rest ++ back)).readFrame_outcome hOther
    have hReadFrame := (passes_append past frame.bytes []).readFrame_outcome hFits
    rw [List.append_nil, ← hWhole, hFront, List.append_assoc, hReadOther, Prod.mk.injEq,
      InputChannel.mk.injEq] at hReadFrame
    exact absurd (List.append_eq_nil_iff.mp hReadFrame.2.2).2 hBack
  · exact hShort

namespace Contract

variable {σ A S N : Type} {t : ValueType} (C : Contract σ A t S N) {n : N}

/-- A truncated snapshot is refused, wherever it was cut: in the id, its length, the version, the length of the
payload or the payload, and however deep snapshots are nested in that. Whoever reads it, with whatever registry,
finds it too short, and nothing has been asked of the registry or of a snapshot by then. -/
theorem truncated_snapshot_refused {payload : Bytes} {state after last : σ} {out later : OutputChannel}
    (hPayload : (C.writePayload n).outcome ({}, state) = (.ok (), (⟨payload⟩, after)))
    (hShort : payload.length < 2 ^ 32)
    (hWritten : (C.writeSnapshot n).outcome (out, state) = (.ok (), (later, last))) :
    ∃ bytes, later = out.appended bytes ∧
      ∀ front back past, front ++ back = bytes → back ≠ [] → ∃ input,
        ∀ {σ' A' S' N' : Type} {t' : ValueType} (reader : Contract σ' A' t' S' N') (registry : Registry σ' A')
          (state' : σ'), (reader.readSnapshot registry).outcome (⟨past, front⟩, state') =
            (.error .shortage, (input, state')) := by
  rw [C.writeSnapshot_of_payload n hPayload out] at hWritten
  by_cases hId : (C.snapshotId n).length ≤ Width.w32.maximum
  · rw [if_pos hId] at hWritten
    obtain ⟨-, hLater⟩ := Prod.mk.inj hWritten
    obtain ⟨rfl, -⟩ := Prod.mk.inj hLater
    have hFits : (C.frame n payload).Fits := ⟨hId, Nat.le_of_lt_succ hShort⟩
    refine ⟨(C.frame n payload).bytes, rfl, fun front back past hWhole hBack => ?_⟩
    obtain ⟨input, hFailed⟩ := InputChannel.readFrame_of_cut hFits hWhole hBack past
    exact ⟨input, fun reader registry state' => reader.readSnapshot_of_no_frame registry hFailed state'⟩
  · rw [if_neg hId] at hWritten
    cases hWritten

/-- A wrapper around limited texts, whose snapshot lost its last byte: the nested snapshot ends too early. -/
theorem truncated_snapshot_refused_limited_texts :
    let contract := (Family.nullable .text).contract
    let snapshot : WrapperSnapshot TextConfig := ⟨some (.bounded 16), 4⟩
    let payload := ((contract.writePayload snapshot).outcome ({}, {})).2.1.data
    (contract.writePayload snapshot).outcome ({}, {}) = (.ok (), (⟨payload⟩, {})) ∧
      payload.length < 2 ^ 32 ∧
      ∃ bytes, (contract.writeSnapshot snapshot).outcome ({}, {}) = (.ok (), (⟨bytes⟩, {})) ∧ bytes ≠ [] ∧
        ∀ registry, ∃ input, (contract.readSnapshot registry).outcome (⟨[], bytes.dropLast⟩, {}) =
          (.error .shortage, (input, {})) := by
  intro contract snapshot payload
  have hPayload : (contract.writePayload snapshot).outcome ({}, {}) = (.ok (), (⟨payload⟩, {})) := rfl
  have hShort : payload.length < 2 ^ 32 := by decide +kernel
  obtain ⟨later, hWritten⟩ : ∃ later, (contract.writeSnapshot snapshot).outcome ({}, {}) =
      (.ok (), (later, {})) := ⟨_, rfl⟩
  obtain ⟨bytes, rfl, hRefused⟩ := contract.truncated_snapshot_refused hPayload hShort hWritten
  have hBytes : bytes ≠ [] := by
    rintro rfl
    have hSome : ((contract.writeSnapshot snapshot).outcome ({}, {})).2.1.data ≠ [] := by decide +kernel
    exact hSome (by rw [hWritten]; rfl)
  refine ⟨hPayload, hShort, bytes, hWritten, hBytes, fun registry => ?_⟩
  have hCut := List.dropLast_concat_getLast hBytes
  obtain ⟨input, hFailed⟩ := hRefused bytes.dropLast [bytes.getLast hBytes] [] hCut (by simp)
  exact ⟨input, hFailed contract registry {}⟩

end Contract

end SerializerContract
