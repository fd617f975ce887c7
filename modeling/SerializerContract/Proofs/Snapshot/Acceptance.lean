import SerializerContract.Nullable.Contract
import SerializerContract.Proofs.Snapshot.ReadBack

/-! What is accepted as a snapshot. A frame that is not refused is taken over as a snapshot that can be written
again: in as many bytes, so that these are not too long either, and so that it is read back from them. This holds
of snapshots without a payload, and a wrapper hands it on. -/
namespace SerializerContract

namespace Contract

variable {σ A S N : Type} {t : ValueType} (C : Contract σ A t S N) (registry : Registry σ A)

/-- A registry makes one of some empty snapshots, under its own id, or there is none; nothing else happens. -/
inductive Offers (empty : N → Prop) (id : Bytes) : Prop where
  | nothing (message : String)
      (h : ∀ state, (C.instantiate registry id).outcome state = (.error (.deserialization message), state))
  | snapshot (made : N) (hEmpty : empty made) (hId : C.snapshotId made = id)
      (h : ∀ state, (C.instantiate registry id).outcome state = (.ok made, state))

/-- A snapshot that is written with this payload, and taken over from it. -/
structure Rereadable (n : N) (payload : Bytes) : Prop where
  fits : (C.frame n payload).Fits
  version : -2 ^ 31 ≤ C.snapshotVersion n ∧ C.snapshotVersion n < 2 ^ 31
  writes : ∀ out state, (C.writePayload n).outcome (out, state) = (.ok (), (out.appended payload, state))
  takesOver : ∀ state, (C.takeOver registry (C.snapshotId n) (C.snapshotVersion n) payload).outcome state =
    (.ok n, state)

/-- What becomes of a frame: it is refused for what is in it, or taken over as a snapshot that can be written in
as many bytes. -/
inductive Settles (good : N → Prop) (frame : Frame) : Prop where
  | refused (message : String)
      (h : ∀ state, (C.takeOver registry frame.id frame.version.toInt frame.payload).outcome state =
        (.error (.deserialization message), state))
  | taken (n : N) (payload : Bytes) (hGood : good n) (hId : C.snapshotId n = frame.id)
      (hLength : payload.length = frame.payload.length) (hRereadable : C.Rereadable registry n payload)
      (h : ∀ state, (C.takeOver registry frame.id frame.version.toInt frame.payload).outcome state =
        (.ok n, state))

/-- What is in front of a cursor is refused, or read as a snapshot that can be written in as many bytes. -/
inductive Decides (good : N → Prop) (input : InputChannel) : Prop where
  | refused (message : String) (later : InputChannel)
      (h : ∀ state, (C.readSnapshot registry).outcome (input, state) =
        (.error (.deserialization message), (later, state)))
  | read (n : N) (payload front : Bytes) (later : InputChannel) (hGood : good n)
      (hPasses : input.Passes front later) (hLength : front.length = (C.framed n payload).length)
      (hRereadable : C.Rereadable registry n payload)
      (h : ∀ state, (C.readSnapshot registry).outcome (input, state) = (.ok n, (later, state)))

variable {C registry} {n made : N} {payload : Bytes} {good : N → Prop}

namespace Rereadable

variable (h : C.Rereadable registry n payload)

include h

/-- What is described writes the same frame in every state. -/
theorem writeSnapshot (out : OutputChannel) (state : σ) :
    (C.writeSnapshot n).outcome (out, state) = (.ok (), (out.appended (C.framed n payload), state)) := by
  have hId : (C.snapshotId n).length ≤ Width.w32.maximum := h.fits.id
  rw [C.writeSnapshot_of_payload n (h.writes {} state) out, if_pos hId]
  rfl

/-- What is described reads back from its frame, whatever stands around it. -/
theorem readSnapshot (past suffix : Bytes) (state : σ) :
    (C.readSnapshot registry).outcome (⟨past, C.framed n payload ++ suffix⟩, state) =
      (.ok n, (⟨past ++ C.framed n payload, suffix⟩, state)) := by
  have hPasses := InputChannel.passes_append past (C.framed n payload) suffix
  rw [C.readSnapshot_of_frame registry (hPasses.readFrame_outcome h.fits) state, Action.onSecond_outcome, frame,
    BitVec.toInt_ofInt_eq_self (by decide) h.version.1 h.version.2, h.takesOver state]

end Rereadable

/-- Every frame being settled, every input is: what is no frame is too short. -/
theorem decides_of_settles (h : ∀ frame : Frame, frame.Fits → C.Settles registry good frame)
    (input : InputChannel) : C.Decides registry good input := by
  obtain ⟨front, frame, later, hPasses, ⟨rfl, hFits⟩, hFrame⟩ | ⟨later, hShort⟩ :=
    InputChannel.readFrame_parses input
  · have hRead := C.readSnapshot_of_frame registry hFrame
    cases h frame hFits with
    | refused message hRefused =>
        exact .refused message later fun state => by rw [hRead, Action.onSecond_outcome, hRefused]
    | taken n payload hGood hId hLength hRereadable hTaken =>
        refine .read n payload frame.bytes later hGood hPasses ?_ hRereadable fun state => ?_
        · rw [← frame_bytes, Frame.length_bytes, Frame.length_bytes, Contract.frame, hId, hLength]
        · rw [hRead, Action.onSecond_outcome, hTaken]
  · exact .refused _ later fun state => C.readSnapshot_of_no_frame registry hShort state

/-- In as many bytes as a frame has, a snapshot fits too. -/
theorem frame_fits {frame : Frame} (hFits : frame.Fits) (hId : C.snapshotId n = frame.id)
    (hLength : payload.length = frame.payload.length) : (C.frame n payload).Fits where
  id := Nat.le_trans (Nat.le_of_eq (congrArg List.length hId)) hFits.id
  payload := Nat.le_trans (Nat.le_of_eq hLength) hFits.payload

/-! ## Taking over -/

section

variable {id : Bytes} {version : Int} {state middle last : σ}

/-- A snapshot that cannot be instantiated fails before its payload is looked at. -/
theorem takeOver_of_nothing {failure : Failure}
    (h : (C.instantiate registry id).outcome state = (.error failure, middle)) :
    (C.takeOver registry id version payload).outcome state = (.error failure, middle) := by
  rw [takeOver, Action.outcome_bind, h]

/-- A payload that is refused fails the snapshot with the same failure. -/
theorem takeOver_of_refused {failure : Failure} {left : N × InputChannel}
    (hMade : (C.instantiate registry id).outcome state = (.ok made, middle))
    (hRead : (C.readPayload version registry).outcome ((made, .ofBytes payload), middle) =
      (.error failure, (left, last))) :
    (C.takeOver registry id version payload).outcome state = (.error failure, last) := by
  rw [takeOver, Action.outcome_bind, hMade]
  dsimp only
  rw [Action.outcome_bind, Action.withLocal_outcome, hRead]
  rfl

/-- A payload that is read to its end is taken over. -/
theorem takeOver_of_consumed {read : N} {left : InputChannel}
    (hMade : (C.instantiate registry id).outcome state = (.ok made, middle))
    (hRead : (C.readPayload version registry).outcome ((made, .ofBytes payload), middle) =
      (.ok (), ((read, left), last))) (hLeft : left.available = 0) :
    (C.takeOver registry id version payload).outcome state = (.ok read, last) := by
  obtain ⟨past, rest⟩ := left
  obtain rfl : rest = [] := List.length_eq_zero_iff.mp hLeft
  exact C.takeOver_of_accepts registry hMade hRead

def leftover (id : Bytes) (left : Nat) : Failure :=
  .deserialization ("Snapshot " ++ Registry.quoted id ++ " left " ++ left.repr ++ " bytes of its payload unread")

/-- Whatever is left of a payload is a reason to refuse all of it. -/
theorem takeOver_of_leftover {read : N} {left : InputChannel}
    (hMade : (C.instantiate registry id).outcome state = (.ok made, middle))
    (hRead : (C.readPayload version registry).outcome ((made, .ofBytes payload), middle) =
      (.ok (), ((read, left), last))) (hLeft : left.available ≠ 0) :
    (C.takeOver registry id version payload).outcome state = (.error (leftover id left.available), last) := by
  rw [takeOver, Action.outcome_bind, hMade]
  dsimp only
  rw [Action.outcome_bind, Action.withLocal_outcome, hRead]
  simp only [Except.map, if_pos hLeft]
  rfl

end

/-- Without an empty snapshot a frame is refused, whatever is in it. -/
theorem settles_of_offers {empty : N → Prop} {frame : Frame} (hOffers : C.Offers registry empty frame.id)
    (h : ∀ made, empty made → C.snapshotId made = frame.id →
      (∀ state, (C.instantiate registry frame.id).outcome state = (.ok made, state)) →
      C.Settles registry good frame) : C.Settles registry good frame := by
  cases hOffers with
  | nothing message hNothing => exact .refused message fun state => takeOver_of_nothing (hNothing state)
  | snapshot made hEmpty hId hMade => exact h made hEmpty hId hMade

/-! ## Snapshots without a payload -/

/-- A snapshot without a payload refuses any payload. -/
theorem settles_of_bare {frame : Frame} (hFits : frame.Fits) (hGood : good made)
    (hId : C.snapshotId made = frame.id)
    (hMade : ∀ state, (C.instantiate registry frame.id).outcome state = (.ok made, state))
    (hVersion : -2 ^ 31 ≤ C.snapshotVersion made ∧ C.snapshotVersion made < 2 ^ 31)
    (hWrites : ∀ out state, (C.writePayload made).outcome (out, state) = (.ok (), (out, state)))
    (hReads : ∀ version input state, (C.readPayload version registry).outcome ((made, input), state) =
      (.ok (), ((made, input), state))) : C.Settles registry good frame := by
  have hTaken : ∀ version state, (C.takeOver registry frame.id version []).outcome state = (.ok made, state) :=
    fun version state => C.takeOver_of_accepts registry (hMade state) (hReads version (.ofBytes []) state)
  by_cases hPayload : frame.payload = []
  · refine .taken made [] hGood hId (by rw [hPayload]) ⟨?_, hVersion, ?_, ?_⟩ ?_
    · exact frame_fits hFits hId (by rw [hPayload])
    · intro out state
      rw [hWrites, OutputChannel.appended_nil]
    · rw [hId]
      exact hTaken _
    · rw [hPayload]
      exact hTaken _
  · refine .refused _ fun state => takeOver_of_leftover (hMade state) (hReads _ _ state) ?_
    exact fun hNone => hPayload (List.length_eq_zero_iff.mp hNone)

end Contract

/-! ## Wrappers -/

namespace Wrapper

section

variable {A S N : Type} {t : ValueType} {C : Contract Store A t S N} {ofAny : A → Option (WrapperSnapshot N)}
    {registry : Registry Store A} {n : WrapperSnapshot N} {m : N} {version : Int} {padding : BitVec 32}
    {input middle later : InputChannel} {store last : Store} {failure : Failure}

/-- A wrapper snapshot without a whole padding fails as the read of it does. -/
theorem readPayload_of_no_padding
    (h : (InputChannel.read wordCodec).outcome input = (.error failure, later)) :
    ((contract C ofAny).readPayload version registry).outcome ((n, input), store) =
      (.error failure, ((n, later), store)) := by
  simp only [Action.outcome, contract, WrapperSnapshot.readPayload] at h ⊢
  rw [h]

variable (hPadding : (InputChannel.read wordCodec).outcome input = (.ok padding, middle))

include hPadding

/-- A wrapper snapshot fails as the reading of what it wraps does, with the padding already taken over. -/
theorem readPayload_of_no_nested
    (h : (C.readSnapshot registry).outcome (middle, store) = (.error failure, (later, last))) :
    ((contract C ofAny).readPayload version registry).outcome ((n, input), store) =
      (.error failure, (({ n with padding := padding.toInt }, later), last)) := by
  simp only [Action.outcome, contract, WrapperSnapshot.readPayload] at h hPadding ⊢
  rw [hPadding]
  dsimp only
  rw [h]

/-- Any padding is accepted together with a nested snapshot that can be read. -/
theorem readPayload_of_nested
    (h : (C.readSnapshot registry).outcome (middle, store) = (.ok m, (later, last))) :
    ((contract C ofAny).readPayload version registry).outcome ((n, input), store) =
      (.ok (), ((⟨some m, padding.toInt⟩, later), last)) := by
  simp only [Action.outcome, contract, WrapperSnapshot.readPayload] at h hPadding ⊢
  rw [hPadding]
  dsimp only
  rw [h]

end

variable {A S N : Type} {t : ValueType} {C : Contract Store A t S N} {ofAny : A → Option (WrapperSnapshot N)}
    {registry : Registry Store A} {good : N → Prop}

/-- The snapshot of a wrapper is written around the one that it nests, and so it is read. -/
theorem rereadable {m : N} {padding : BitVec 32} {nested : Bytes} (h : C.Rereadable registry m nested)
    (hFits : ((contract C ofAny).frame ⟨some m, padding.toInt⟩ (wordBytes padding ++ C.framed m nested)).Fits)
    (hMade : ∀ store, ((contract C ofAny).instantiate registry ((contract C ofAny).snapshotId {})).outcome store =
      (.ok {}, store)) :
    (contract C ofAny).Rereadable registry ⟨some m, padding.toInt⟩ (wordBytes padding ++ C.framed m nested) where
  fits := hFits
  version := (by decide : (-2 ^ 31 : Int) ≤ 1 ∧ (1 : Int) < 2 ^ 31)
  writes out store := by
    have hWord : (OutputChannel.write wordCodec (BitVec.ofInt 32 padding.toInt)).outcome out =
        (.ok (), out.appended (wordBytes padding)) := by
      rw [BitVec.ofInt_toInt]
      exact OutputChannel.write_outcome (wordCodec_trips padding) out
    refine Action.then_ok_iff.mpr ⟨_, Action.onFirst_ok_iff.mpr ⟨hWord, rfl⟩, ?_⟩
    rw [h.writeSnapshot, OutputChannel.appended_appended]
  takesOver store := by
    have hWord : (InputChannel.read wordCodec).outcome (.ofBytes (wordBytes padding ++ C.framed m nested)) =
        (.ok padding, ⟨wordBytes padding, C.framed m nested⟩) :=
      InputChannel.read_of_spells (wordBytes_spells padding) [] (C.framed m nested)
    have hNested := h.readSnapshot (wordBytes padding) [] store
    rw [List.append_nil] at hNested
    exact Contract.takeOver_of_accepts _ _ (hMade store) (readPayload_of_nested hWord hNested)

/-- What is taken over for a wrapper is a padding, and what was read as the snapshot of the wrapped serializer. -/
theorem settles (hDecides : ∀ input, C.Decides registry good input) {frame : Frame} (hFits : frame.Fits)
    (hId : (contract C ofAny).snapshotId {} = frame.id)
    (hMade : ∀ store, ((contract C ofAny).instantiate registry frame.id).outcome store = (.ok {}, store)) :
    (contract C ofAny).Settles registry
      (fun n => ∃ m, ∃ padding : BitVec 32, n = ⟨some m, padding.toInt⟩ ∧ good m) frame := by
  obtain ⟨_, padding, middle, hPassPadding, rfl, hPadding⟩ | ⟨later, hShort⟩ :=
    InputChannel.read_word_parses (.ofBytes frame.payload)
  swap
  · exact .refused _ fun store =>
      Contract.takeOver_of_refused (hMade store) (readPayload_of_no_padding hShort)
  cases hDecides middle with
  | refused message later hRefused =>
      exact .refused message fun store => Contract.takeOver_of_refused (hMade store)
        (readPayload_of_no_nested hPadding (hRefused store))
  | read m nested front later hGood hPassNested hLength hRereadable hRead =>
      have hTaken : ∀ store, ((contract C ofAny).readPayload frame.version.toInt registry).outcome
          (({}, .ofBytes frame.payload), store) = (.ok (), ((⟨some m, padding.toInt⟩, later), store)) :=
        fun store => readPayload_of_nested hPadding (hRead store)
      by_cases hLeft : later.available = 0
      · have hWhole : frame.payload = wordBytes padding ++ front := by
          have hRest : later.rest = [] := List.length_eq_zero_iff.mp hLeft
          have hPayload : frame.payload = (wordBytes padding ++ front) ++ later.rest :=
            (hPassPadding.trans hPassNested).rest
          rw [hPayload, hRest, List.append_nil]
        have hSameLength : (wordBytes padding ++ C.framed m nested).length = frame.payload.length := by
          rw [hWhole, List.length_append, List.length_append, hLength]
        refine .taken ⟨some m, padding.toInt⟩ (wordBytes padding ++ C.framed m nested) ⟨m, padding, rfl, hGood⟩ hId
          hSameLength (rereadable hRereadable (Contract.frame_fits hFits hId hSameLength) (hId ▸ hMade)) ?_
        exact fun store => Contract.takeOver_of_consumed (hMade store) (hTaken store) hLeft
      · exact .refused _ fun store => Contract.takeOver_of_leftover (hMade store) (hTaken store) hLeft

end Wrapper

end SerializerContract
