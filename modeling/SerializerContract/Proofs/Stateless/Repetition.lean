import SerializerContract.Proofs.Snapshot.ReadBack

/-! Serializers and snapshots without state. Whenever an operation succeeds on one of them, it succeeds on any that is
configured the same way, at any time, and yields the like. Being configured the same way is no more than a
relation that the operations respect; it holds of a serializer and itself only where the serializer is stateless. -/
namespace SerializerContract

namespace Action

variable {σ α β γ δ : Type}

/-- What the first action yields in some state, the second one yields the like of in every state. -/
def Steady (like : α → β → Prop) (first : Action σ α) (second : Action σ β) : Prop :=
  ∀ state a last, first.outcome state = (.ok a, last) → ∀ other, second.Succeeds other fun b _ => like a b

namespace Steady

variable {like : α → β → Prop} {first : Action σ α} {second : Action σ β} {state : σ}

theorem pure {a : α} {b : β} (h : like a b) : Steady like (pure a : Action σ α) (pure b) := by
  intro state a' last hOutcome other
  obtain ⟨rfl⟩ := (Prod.mk.inj hOutcome).1
  exact pure_succeeds h

/-- Of an action that never succeeds nothing is asked. -/
theorem of_fails (h : ∀ state, first.Fails state) : Steady like first second :=
  fun state a last hOutcome => absurd hOutcome ((h state).not_ok a last)

theorem mono {like' : α → β → Prop} (h : Steady like first second) (hLike : ∀ a b, like a b → like' a b) :
    Steady like' first second :=
  fun state a last hOutcome other => (h state a last hOutcome other).mono fun b _ => hLike a b

theorem bind {like' : γ → δ → Prop} {next : α → Action σ γ} {next' : β → Action σ δ}
    (hFirst : Steady like first second) (hNext : ∀ a b, like a b → Steady like' (next a) (next' b)) :
    Steady like' (first >>= next) (second >>= next') := by
  intro state c last hOutcome other
  obtain ⟨a, middle, hBefore, hAfter⟩ := bind_ok_iff.mp hOutcome
  apply (hFirst state a middle hBefore other).bind
  intro b later hLike
  exact hNext a b hLike middle c last hAfter later

/-- Two runs of one action in one state yield the same, so what a steady action yields is like itself. -/
theorem self {like : α → α → Prop} {action : Action σ α} (h : Steady like action action) {a : α} {last : σ}
    (hOutcome : action.outcome state = (.ok a, last)) : like a a :=
  (h state a last hOutcome state).of_outcome hOutcome

end Steady

end Action

namespace Contract

open SerializerContract.Action

variable {σ A S N : Type} {t : ValueType} (C : Contract σ A t S N) (registry : Registry σ A)

/-- Serializers that are configured the same way answer alike, and so do the snapshots that describe them. -/
structure Stateless (alike : S → S → Prop) (same : N → N → Prop) : Prop where
  typeName : ∀ x y, alike x y → C.typeName x = C.typeName y
  snapshot : ∀ x y, alike x y → Steady (Option.Rel same) (C.snapshot x) (C.snapshot y)
  equals : ∀ x x' y y', alike x x' → alike y y' → Steady Eq (C.equals x y) (C.equals x' y')
  snapshotId : ∀ n m, same n m → C.snapshotId n = C.snapshotId m
  snapshotVersion : ∀ n m, same n m → C.snapshotVersion n = C.snapshotVersion m
  writePayload : ∀ n m, same n m → Steady Eq (withLocal {} (C.writePayload n)) (withLocal {} (C.writePayload m))
  restore : ∀ n m, same n m → Steady (Option.Rel alike) (C.restore n) (C.restore m)

/-- It does not matter which of two stateless serializers is asked whether they are equal. -/
def Symmetric (alike : S → S → Prop) : Prop :=
  ∀ x y, alike x x → alike y y → Steady Eq (C.equals x y) (C.equals y x)

/-- What a registry makes, and what that takes over of a payload, is the like at any time. -/
structure Remakes (same : N → N → Prop) : Prop where
  instantiate : ∀ id, Steady same (C.instantiate registry id) (C.instantiate registry id)
  readPayload : ∀ version n m (input : InputChannel), same n m →
    Steady (fun done done' => same done.2.1 done'.2.1 ∧ done.2.2 = done'.2.2)
      (withLocal (n, input) (C.readPayload version registry)) (withLocal (m, input) (C.readPayload version registry))

/-- A snapshot through its bytes: what they are read back as, and what is left of them. -/
def reread (n : N) : Action σ (N × InputChannel) := do
  let ((), out) ← withLocal {} (C.writeSnapshot n)
  withLocal out.inputView (C.readSnapshot registry)

variable {C registry} {alike : S → S → Prop} {same : N → N → Prop} {n m : N} {state last : σ}

theorem framed_congr (hId : C.snapshotId n = C.snapshotId m) (hVersion : C.snapshotVersion n = C.snapshotVersion m)
    (payload : Bytes) : C.framed n payload = C.framed m payload := by
  simp only [framed, hId, hVersion]

/-- A snapshot is written if its payload is, and its id is not too long. -/
theorem writeSnapshot_ok_iff {written : OutputChannel} :
    (withLocal {} (C.writeSnapshot n)).outcome state = (.ok ((), written), last) ↔
      ∃ payload, (withLocal ({} : OutputChannel) (C.writePayload n)).outcome state = (.ok ((), payload), last) ∧
        (C.snapshotId n).length ≤ Width.w32.maximum ∧ written = ⟨C.framed n payload.data⟩ := by
  simp only [withLocal_ok_iff]
  rcases hPayload : (C.writePayload n).outcome ({}, state) with ⟨failure | ⟨⟩, payload, after⟩
  · simp [C.writeSnapshot_of_payload_fails n hPayload]
  · rw [C.writeSnapshot_of_payload n hPayload]
    by_cases hId : (C.snapshotId n).length ≤ Width.w32.maximum
    · simp [hId, OutputChannel.appended, eq_comm, and_comm]
    · simp [hId]

theorem readSnapshot_ok_iff {input later : InputChannel} :
    (withLocal input (C.readSnapshot registry)).outcome state = (.ok (n, later), last) ↔
      ∃ frame, InputChannel.readFrame.outcome input = (.ok frame, later) ∧
        (C.takeOver registry frame.id frame.version.toInt frame.payload).outcome state = (.ok n, last) := by
  rw [withLocal_ok_iff]
  rcases hFrame : InputChannel.readFrame.outcome input with ⟨failure | frame, rest⟩
  · simp [C.readSnapshot_of_no_frame registry hFrame]
  · rw [C.readSnapshot_of_frame registry hFrame, onSecond_ok_iff]
    simp [and_comm]

theorem Stateless.writeSnapshot (h : C.Stateless alike same) (hSame : same n m) :
    Steady Eq (withLocal {} (C.writeSnapshot n)) (withLocal {} (C.writeSnapshot m)) := by
  intro state ⟨_, written⟩ last hOutcome other
  obtain ⟨payload, hPayload, hId, rfl⟩ := writeSnapshot_ok_iff.mp hOutcome
  obtain ⟨_, after, hOther, rfl⟩ := h.writePayload n m hSame state _ last hPayload other
  have hSameId := h.snapshotId n m hSame
  refine ⟨_, after, writeSnapshot_ok_iff.mpr ⟨payload, hOther, hSameId ▸ hId, rfl⟩, ?_⟩
  rw [framed_congr hSameId (h.snapshotVersion n m hSame)]

theorem Remakes.takeOver (h : C.Remakes registry same) (id : Bytes) (version : Int) (payload : Bytes) :
    Steady same (C.takeOver registry id version payload) (C.takeOver registry id version payload) := by
  refine (h.instantiate id).bind fun made made' hMade => ?_
  refine (h.readPayload version made made' _ hMade).bind fun done done' hDone => ?_
  obtain ⟨⟨⟩, read, input⟩ := done
  obtain ⟨⟨⟩, read', input'⟩ := done'
  obtain ⟨hRead, rfl⟩ := hDone
  by_cases hLeft : input.available ≠ 0
  · simp only [if_pos hLeft]
    exact .of_fails fun _ => (throw_fails _).bind _
  · simp only [if_neg hLeft]
    exact .pure hRead

theorem Remakes.readSnapshot (h : C.Remakes registry same) (input : InputChannel) :
    Steady (fun read read' => same read.1 read'.1) (withLocal input (C.readSnapshot registry))
      (withLocal input (C.readSnapshot registry)) := by
  intro state ⟨n, later⟩ last hOutcome other
  obtain ⟨frame, hFrame, hTaken⟩ := readSnapshot_ok_iff.mp hOutcome
  obtain ⟨m, after, hOther, hSame⟩ := h.takeOver frame.id _ frame.payload state n last hTaken other
  exact ⟨(m, later), after, readSnapshot_ok_iff.mpr ⟨frame, hFrame, hOther⟩, hSame⟩

/-- A stateless snapshot goes through its bytes every time the same way. -/
theorem Stateless.reread (h : C.Stateless alike same) (hRemakes : C.Remakes registry same) (hSame : same n m) :
    Steady (fun read read' => same read.1 read'.1) (C.reread registry n) (C.reread registry m) := by
  refine (h.writeSnapshot hSame).bind fun done done' hDone => ?_
  obtain ⟨⟨⟩, out⟩ := done
  obtain rfl := hDone
  exact hRemakes.readSnapshot out.inputView

end Contract

end SerializerContract
