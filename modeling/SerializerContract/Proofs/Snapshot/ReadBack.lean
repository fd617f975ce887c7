import Mathlib.Algebra.Group.Int.Defs
import Mathlib.Algebra.Group.Nat.Defs
import SerializerContract.Proofs.Snapshot.Frame
import SerializerContract.Blueprint

/-! What was written for a snapshot, read by anything that is registered under its id. The id, the version and the
length of the payload are read as they were written, in front of anything; what is handed over are the bytes that
the length field counts. -/
namespace SerializerContract

/-- A text that is too long for its length field is refused before anything is written. -/
theorem write_overlong_text {text : Bytes} (h : Width.w32.maximum < text.length) (out : OutputChannel) :
    (OutputChannel.write stringCodec text).outcome out = (.error OutputChannel.tooLarge, out) := by
  have hRefused : stringCodec.encode text = .refused := by
    have hField : Codec.encodeLength .network text.length = .refused := if_neg (Nat.not_le.mpr h)
    change (Codec.encodeLength .network text.length).andThen (Codec.encodeAll Codec.byte text) = _
    rw [hField]
    rfl
  simp only [Action.outcome, OutputChannel.write, hRefused]
  exact congrArg (Prod.mk _) (OutputChannel.appended_nil out)

namespace Contract

variable {σ A S N : Type} {t : ValueType} (C : Contract σ A t S N) (registry : Registry σ A) (n : N)
    {payload front back : Bytes} {state after : σ}

/-- What stands in front of a payload. -/
def header (payload : Bytes) : Bytes :=
  textBytes (C.snapshotId n) ++ (wordBytes (BitVec.ofInt 32 (C.snapshotVersion n)) ++
    wordBytes (BitVec.ofNat 32 payload.length))

theorem framed_eq (payload : Bytes) : C.framed n payload = C.header n payload ++ payload := by
  simp [framed, header]

section Cut

variable {C n} (hId : (C.snapshotId n).length ≤ Width.w32.maximum)
    (hFront : front.length = (front ++ back).length % 2 ^ 32)

include hFront

/-- The length field of a payload is that of the front which it counts. -/
theorem bytes_of_cut : (C.frame n front).bytes = C.header n (front ++ back) ++ front := by
  have hCut : BitVec.ofNat 32 front.length = BitVec.ofNat 32 (front ++ back).length := by
    rw [hFront]
    exact BitVec.eq_of_toNat_eq (by simp only [BitVec.toNat_ofNat, Nat.mod_mod])
  simp only [Frame.bytes, frame, header, hCut, List.append_assoc]

include hId

/-- A frame is read up to where the length field says that it ends. -/
theorem readFrame_of_cut (past suffix : Bytes) :
    InputChannel.readFrame.outcome ⟨past, C.framed n (front ++ back) ++ suffix⟩ =
      (.ok (C.frame n front), ⟨past ++ (C.header n (front ++ back) ++ front), back ++ suffix⟩) := by
  have hFits : (C.frame n front).Fits := ⟨hId, hFront ▸ Nat.le_of_lt_succ (Nat.mod_lt _ (by decide))⟩
  have hInput : C.framed n (front ++ back) ++ suffix = (C.frame n front).bytes ++ (back ++ suffix) := by
    simp only [bytes_of_cut hFront, framed_eq, List.append_assoc]
  have hPasses := InputChannel.passes_append past (C.frame n front).bytes (back ++ suffix)
  rw [hInput, hPasses.readFrame_outcome hFits, bytes_of_cut hFront]

end Cut

/-- A snapshot is read up to where the length field says that it ends. That is the end of the payload, unless the
length of the payload was cut. -/
theorem readSnapshot_framed (hId : (C.snapshotId n).length ≤ Width.w32.maximum)
    (hVersion : -2 ^ 31 ≤ C.snapshotVersion n ∧ C.snapshotVersion n < 2 ^ 31)
    (hFront : front.length = (front ++ back).length % 2 ^ 32) (past suffix : Bytes) (state : σ) :
    (C.readSnapshot registry).outcome (⟨past, C.framed n (front ++ back) ++ suffix⟩, state) =
      (Action.onSecond (C.takeOver registry (C.snapshotId n) (C.snapshotVersion n) front)).outcome
        (⟨past ++ (C.header n (front ++ back) ++ front), back ++ suffix⟩, state) := by
  rw [C.readSnapshot_of_frame registry (readFrame_of_cut hId hFront past suffix), frame,
    BitVec.toInt_ofInt_eq_self (by decide) hVersion.1 hVersion.2]

/-- An empty snapshot takes over a payload that it accepts to the end. -/
theorem takeOver_of_accepts {id left : Bytes} {version : Int} {middle last : σ} {empty read : N}
    (hEmpty : (C.instantiate registry id).outcome state = (.ok empty, middle))
    (hRead : (C.readPayload version registry).outcome ((empty, .ofBytes payload), middle) =
      (.ok (), ((read, ⟨left, []⟩), last))) :
    (C.takeOver registry id version payload).outcome state = (.ok read, last) := by
  refine Action.bind_ok_iff.mpr ⟨empty, middle, hEmpty, ?_⟩
  refine Action.bind_ok_iff.mpr ⟨_, last, Action.withLocal_ok_iff.mpr hRead, ?_⟩
  exact Action.throw_if_ok_iff.mpr ⟨not_not_intro rfl, rfl⟩

/-! ## Writing -/

/-- A failure of the snapshot itself is let through, and nothing is written. -/
theorem writeSnapshot_of_payload_fails {failure : Failure} {written : OutputChannel}
    (h : (C.writePayload n).outcome ({}, state) = (.error failure, (written, after))) (out : OutputChannel) :
    (C.writeSnapshot n).outcome (out, state) = (.error failure, (out, after)) := by
  have hLost : (Action.withLocal ({} : OutputChannel) (C.writePayload n)).outcome state =
      (.error failure, after) := by
    rw [Action.withLocal_outcome, h]
    rfl
  rw [writeSnapshot, Action.outcome_bind, Action.onSecond_outcome, hLost]

/-- With its payload at hand a snapshot is written, or its id is too long. -/
theorem writeSnapshot_of_payload {written : OutputChannel}
    (h : (C.writePayload n).outcome ({}, state) = (.ok (), (written, after))) (out : OutputChannel) :
    (C.writeSnapshot n).outcome (out, state) =
      if (C.snapshotId n).length ≤ Width.w32.maximum then
        (.ok (), (out.appended (C.framed n written.data), after))
      else (.error OutputChannel.tooLarge, (out, after)) := by
  by_cases hId : (C.snapshotId n).length ≤ Width.w32.maximum
  · rw [if_pos hId]
    have hPayload : (C.writePayload n).Succeeds ({}, state) fun _ last =>
        last.1.data = written.data ∧ last.2 = after := ⟨(), (written, after), h, rfl, rfl⟩
    have hWritten : (C.writeSnapshot n).Succeeds (out, state) fun _ last =>
        last.1 = out.appended (C.framed n written.data) ∧ last.2 = after :=
      C.writeSnapshot_succeeds (· = after) hId hPayload
    obtain ⟨_, ⟨later, last⟩, hOutcome, hOut, hAfter⟩ := hWritten
    obtain rfl : later = _ := hOut
    obtain rfl : last = after := hAfter
    exact hOutcome
  · rw [if_neg hId]
    have hKept : (Action.withLocal ({} : OutputChannel) (C.writePayload n)).outcome state =
        (.ok ((), written), after) := Action.withLocal_ok_iff.mpr h
    have hRefused := write_overlong_text (Nat.lt_of_not_le hId) out
    rw [writeSnapshot, Action.outcome_bind, Action.onSecond_outcome, hKept]
    simp only [Action.onFirst_outcome, Action.outcome_bind, hRefused]

/-- Where the length of a payload does not fit its field, it is cut there, and the payload with it: what was
registered is handed less than was written, and the rest is left in front of what follows. -/
theorem overlong_payload_cut (hId : (C.snapshotId n).length ≤ Width.w32.maximum)
    (hVersion : -2 ^ 31 ≤ C.snapshotVersion n ∧ C.snapshotVersion n < 2 ^ 31) (hLong : 2 ^ 32 ≤ payload.length) :
    ∃ taken front back, C.framed n payload = taken ++ back ∧ payload = front ++ back ∧
      front.length = payload.length % 2 ^ 32 ∧ back ≠ [] ∧
      ∀ past suffix later, (C.readSnapshot registry).outcome (⟨past, C.framed n payload ++ suffix⟩, later) =
        (Action.onSecond (C.takeOver registry (C.snapshotId n) (C.snapshotVersion n) front)).outcome
          (⟨past ++ taken, back ++ suffix⟩, later) := by
  have hCut : payload.length % 2 ^ 32 < payload.length :=
    Nat.lt_of_lt_of_le (Nat.mod_lt _ (by decide)) hLong
  obtain ⟨front, back, rfl, hFront⟩ := Codec.exists_front (Nat.le_of_lt hCut)
  refine ⟨C.header n (front ++ back) ++ front, front, back, ?_, rfl, hFront, ?_, ?_⟩
  · rw [framed_eq, List.append_assoc]
  · rintro rfl
    rw [List.append_nil] at hCut hFront
    omega
  · exact fun past suffix later => C.readSnapshot_framed registry n hId hVersion hFront past suffix later

/-- What is read of what was written for a snapshot. A snapshot whose own writing fails writes nothing, and neither
does one with an id that is too long. Any other is written; and whatever follows, what is registered under its id is
handed the version and the payload as they were, if the length of the payload fits its field. A longer payload is
written as well, but only its front is handed over, and the rest is left as if it was something else. -/
theorem snapshot_written_reads_back {result : Except Failure Unit}
    (hVersion : -2 ^ 31 ≤ C.snapshotVersion n ∧ C.snapshotVersion n < 2 ^ 31)
    (hPayload : (C.writePayload n).outcome ({}, state) = (result, (⟨payload⟩, after))) (out : OutputChannel) :
    (∃ failure, result = .error failure ∧
      (C.writeSnapshot n).outcome (out, state) = (.error failure, (out, after))) ∨
    (result = .ok () ∧ 2 ^ 32 ≤ (C.snapshotId n).length ∧
      (C.writeSnapshot n).outcome (out, state) = (.error OutputChannel.tooLarge, (out, after))) ∨
    (result = .ok () ∧ (C.snapshotId n).length < 2 ^ 32 ∧ ∃ bytes,
      (C.writeSnapshot n).outcome (out, state) = (.ok (), (out.appended bytes, after)) ∧
      (payload.length < 2 ^ 32 → ∀ (past suffix left : Bytes) (later middle last : σ) (empty read : N),
        (C.instantiate registry (C.snapshotId n)).outcome later = (.ok empty, middle) →
        (C.readPayload (C.snapshotVersion n) registry).outcome ((empty, .ofBytes payload), middle) =
          (.ok (), ((read, ⟨left, []⟩), last)) →
        (C.readSnapshot registry).outcome (⟨past, bytes ++ suffix⟩, later) =
          (.ok read, (⟨past ++ bytes, suffix⟩, last))) ∧
      (2 ^ 32 ≤ payload.length → ∃ taken front back, bytes = taken ++ back ∧ payload = front ++ back ∧
        front.length = payload.length % 2 ^ 32 ∧ back ≠ [] ∧
        ∀ past suffix later, (C.readSnapshot registry).outcome (⟨past, bytes ++ suffix⟩, later) =
          (Action.onSecond (C.takeOver registry (C.snapshotId n) (C.snapshotVersion n) front)).outcome
            (⟨past ++ taken, back ++ suffix⟩, later))) := by
  have hMaximum : Width.w32.maximum = 2 ^ 32 - 1 := rfl
  cases result with
  | error failure => exact .inl ⟨failure, rfl, C.writeSnapshot_of_payload_fails n hPayload out⟩
  | ok _ =>
    right
    have hWritten := C.writeSnapshot_of_payload n hPayload out
    by_cases hId : (C.snapshotId n).length ≤ Width.w32.maximum
    · rw [if_pos hId] at hWritten
      refine .inr ⟨rfl, by omega, C.framed n payload, hWritten, ?_, C.overlong_payload_cut registry n hId hVersion⟩
      intro hShort past suffix left later middle last empty read hEmpty hRead
      have hWhole : payload.length = (payload ++ []).length % 2 ^ 32 := by
        rw [List.append_nil, Nat.mod_eq_of_lt hShort]
      have hFramed := C.readSnapshot_framed registry n hId hVersion hWhole past suffix later
      rw [List.append_nil, ← framed_eq, List.nil_append] at hFramed
      rw [hFramed, Action.onSecond_outcome, C.takeOver_of_accepts registry hEmpty hRead]
    · rw [if_neg hId] at hWritten
      exact .inl ⟨rfl, by omega, hWritten⟩

/-- A payload of two bytes is read back whole, in front of anything. -/
theorem snapshot_written_reads_back_scripted :
    let contract := Family.number.contract
    let snapshot : NumberSnapshot := .scripted { snapshot := some { id := [115], written := [1, 2] } } 0
    let registry := Registry.register {} [115] (RegistryEntry.always (some ⟨.number, snapshot⟩))
    (-2 ^ 31 ≤ contract.snapshotVersion snapshot ∧ contract.snapshotVersion snapshot < 2 ^ 31) ∧
      (contract.writePayload snapshot).outcome ({}, {}) = (.ok (), (⟨[1, 2]⟩, {})) ∧
      ∃ bytes, (contract.writeSnapshot snapshot).outcome ({}, {}) = (.ok (), (⟨bytes⟩, {})) ∧
        ∀ past suffix, (contract.readSnapshot registry).outcome (⟨past, bytes ++ suffix⟩, {}) =
          (.ok snapshot, (⟨past ++ bytes, suffix⟩, {})) := by
  intro contract snapshot registry
  have hVersion : -2 ^ 31 ≤ contract.snapshotVersion snapshot ∧ contract.snapshotVersion snapshot < 2 ^ 31 :=
    ⟨by decide, by decide⟩
  have hPayload : (contract.writePayload snapshot).outcome ({}, {}) = (.ok (), (⟨[1, 2]⟩, {})) := rfl
  refine ⟨hVersion, hPayload, ?_⟩
  obtain ⟨failure, hFailure, -⟩ | ⟨-, hId, -⟩ | ⟨-, -, bytes, hWritten, hRead, -⟩ :=
    contract.snapshot_written_reads_back registry snapshot hVersion hPayload {}
  · cases hFailure
  · exact absurd hId (by decide)
  · exact ⟨bytes, hWritten, fun past suffix => hRead (by decide) past suffix [1, 2] {} {} {} snapshot snapshot rfl rfl⟩

end Contract

/-! ## A payload that is too long -/

namespace NumberSnapshot

variable (payload : Bytes)

/-- A snapshot that writes a payload, and reads as many bytes back. -/
def writing : NumberSnapshot := .scripted { snapshot := some { id := [115], written := payload } } 0

/-- What holds nothing but this snapshot. -/
def onlyWriting : Registry Store Family.AnySnapshot :=
  Registry.register {} [115] (RegistryEntry.always (some ⟨.number, writing payload⟩))

variable {payload}

theorem instantiate_writing (store : Store) :
    (Family.number.contract.instantiate (onlyWriting payload) [115]).outcome store = (.ok (writing payload), store) :=
  rfl

theorem writing_readPayload (input : InputChannel) (store : Store) :
    (Family.number.contract.readPayload 1 (onlyWriting payload)).outcome ((writing payload, input), store) =
      (Action.onFirst (Action.onSecond (InputChannel.skip payload.length))).outcome
        ((writing payload, input), store) := rfl

/-- The snapshot accepts its payload to the end. -/
theorem writing_readPayload_self (store : Store) :
    (Family.number.contract.readPayload 1 (onlyWriting payload)).outcome ((writing payload, .ofBytes payload), store) =
      (.ok (), ((writing payload, ⟨payload, []⟩), store)) := by
  have hWhole := InputChannel.passes_append [] payload []
  rw [List.append_nil, List.nil_append] at hWhole
  rw [writing_readPayload, Action.onFirst_outcome, Action.onSecond_outcome, InputChannel.ofBytes,
    hWhole.skip_outcome rfl]

/-- What is handed nothing fails as soon as it wants a byte. -/
theorem takeOver_writing_throws (h : 0 < payload.length) (store : Store) :
    (Family.number.contract.takeOver (onlyWriting payload) [115] 1 []).Throws store .shortage := by
  have hMade : (Family.number.contract.instantiate (onlyWriting payload) [115]).Succeeds store
      fun made last => made = writing payload ∧ last = store := ⟨_, _, instantiate_writing store, rfl, rfl⟩
  have hShort : (InputChannel.skip payload.length).outcome (.ofBytes []) = (.error .shortage, .ofBytes []) := by
    rcases InputChannel.skip_cases payload.length (.ofBytes []) with ⟨front, after, hPasses, hFront, -⟩ | hShort
    · obtain ⟨rfl, -⟩ := List.append_eq_nil_iff.mp hPasses.rest.symm
      exact absurd hFront (Nat.ne_of_lt h)
    · exact hShort
  have hRead : (Family.number.contract.readPayload 1 (onlyWriting payload)).Throws
      ((writing payload, .ofBytes []), store) .shortage := by
    rw [Action.Throws, writing_readPayload, Action.onFirst_outcome, Action.onSecond_outcome, hShort]
    exact ⟨_, rfl⟩
  refine hMade.bind_throws ?_
  rintro _ _ ⟨rfl, rfl⟩
  exact hRead.withLocal.bind _

/-- A payload of just one byte more than the length field can count is written all the same, behind a length of zero.
What is registered under the id of the snapshot is handed nothing then. -/
theorem writing_unread (hLength : payload.length = 2 ^ 32) :
    ∃ bytes, (Family.number.contract.writeSnapshot (writing payload)).outcome ({}, {}) = (.ok (), (⟨bytes⟩, {})) ∧
      (Family.number.contract.readSnapshot (onlyWriting payload)).Throws (.ofBytes bytes, {}) .shortage := by
  have hId : (Family.number.contract.snapshotId (writing payload)).length ≤ Width.w32.maximum :=
    (by decide : ([115] : Bytes).length ≤ Width.w32.maximum)
  have hWritten := Family.number.contract.writeSnapshot_of_payload (writing payload)
    (rfl : (Family.number.contract.writePayload (writing payload)).outcome ({}, {}) = (.ok (), (⟨payload⟩, {}))) {}
  rw [if_pos hId] at hWritten
  obtain ⟨taken, front, back, -, -, hFront, -, hRead⟩ :=
    Family.number.contract.overlong_payload_cut (onlyWriting payload) (writing payload) hId
      (by decide : -2 ^ 31 ≤ (1 : Int) ∧ (1 : Int) < 2 ^ 31) (Nat.le_of_eq hLength.symm)
  rw [hLength, Nat.mod_self] at hFront
  obtain rfl := List.eq_nil_of_length_eq_zero hFront
  refine ⟨Family.number.contract.framed (writing payload) payload, hWritten, ?_⟩
  have hHanded := hRead [] [] {}
  rw [List.append_nil] at hHanded
  rw [InputChannel.ofBytes, Action.Throws, hHanded]
  exact (takeOver_writing_throws (by omega) {}).onSecond

/-- A snapshot that accepts its payload of 2 ^ 32 bytes is written, and not read back. -/
theorem overlong_snapshot_unread :
    let contract := Family.number.contract
    let payload := Bytes.zeros (2 ^ 32)
    let registry := onlyWriting payload
    (contract.instantiate registry (contract.snapshotId (writing payload))).outcome {} = (.ok (writing payload), {}) ∧
      (contract.readPayload (contract.snapshotVersion (writing payload)) registry).outcome
        ((writing payload, .ofBytes payload), {}) = (.ok (), ((writing payload, ⟨payload, []⟩), {})) ∧
      ∃ bytes, (contract.writeSnapshot (writing payload)).outcome ({}, {}) = (.ok (), (⟨bytes⟩, {})) ∧
        (contract.readSnapshot registry).Throws (.ofBytes bytes, {}) .shortage :=
  ⟨instantiate_writing {}, writing_readPayload_self {}, writing_unread List.length_replicate⟩

end NumberSnapshot

end SerializerContract
