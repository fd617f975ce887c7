import SerializerContract.Proofs.Escapes.Parts

/-! The nullability probe with a log. The wrapper adds flags and padding of its own, and hands on what escapes
from the serializer that it wraps. -/
namespace SerializerContract

namespace Nullable

variable {σ A S N : Type} {t : ValueType}

open SerializerContract.Action

section Wrapper

variable {α : Type} (inner : Operations σ α) (padding : Nat)

/-- A wrapper ends with what escapes from the wrapped serializer while it writes. -/
theorem serialize_accounts (v : Option α) :
    Accounts behind Ends (serialize inner.recorded padding v) (serialize inner padding v) := by
  cases v with
  | none => exact (Accounts.onFirst (writeFlag true)).bind fun _ => .onFirst (OutputChannel.skip padding)
  | some v =>
      exact (Accounts.onFirst (writeFlag false)).bind fun _ => recordedBeside_ends (inner.serialize v)

/-- A wrapper ends with what escapes from the wrapped serializer while it reads. -/
theorem deserialize_accounts :
    Accounts behind Ends (deserialize inner.recorded padding) (deserialize inner padding) := by
  refine (Accounts.onFirst readFlag).bind fun isNull => .ite ?_ ?_
  · exact (Accounts.onFirst (InputChannel.skip padding)).bind fun _ => .pure none
  · exact (recordedBeside_ends inner.deserialize).bind fun v => .pure (some v)

/-- Copying into a reuse target ends as the copy of the value inside does. -/
theorem copyInto_accounts (v : Option α) :
    Accounts behind Ends (copyInto inner.recorded v) (copyInto inner v) := by
  cases v with
  | none => exact .of_silent fun _ _ => rfl
  | some v =>
      intro state log
      obtain ⟨reuse, state⟩ := state
      cases reuse with
      | some old =>
          let copied := (inner.copyInto v).outcome (old, state)
          exact ⟨escapes (some .copyInto) copied.1, rfl, fun escape hEscape => ends_of_escapes hEscape _⟩
      | none =>
          refine ⟨escapes (some .copy) ((inner.copy v).outcome state).1, ?_, fun escape hEscape => ?_⟩
          · simp only [outcome, copyInto, Operations.recorded, Action.recorded, behind]
            rcases inner.copy v state with ⟨_ | copied, last⟩ <;> rfl
          · refine ⟨escape.failure, ?_, rfl⟩
            have hFailed := (mem_escapes.mp hEscape).2
            simp only [outcome, copyInto] at hFailed ⊢
            rw [hFailed]

theorem copy_accounts (v : Option α) :
    Accounts Prod.mk Ends ((operations inner.recorded padding).copy v) ((operations inner padding).copy v) := by
  cases v with
  | none => exact .pure none
  | some v => exact (recorded_ends (inner.copy v)).bind fun copied => .pure (some copied)

theorem paddingFor_accounts (padIfFixed : Bool) :
    Accounts Prod.mk Ends (paddingFor inner.recorded padIfFixed) (paddingFor inner padIfFixed) := by
  refine .ite ((recorded_ends inner.length).bind fun length => .ite ?_ ?_) (.pure 0)
  · exact recorded_ends inner.length
  · exact .pure 0

theorem expectedLength_accounts (length : Action σ Int) :
    Accounts Prod.mk Ends (expectedLength (length.recorded (some .length))) (expectedLength length) := by
  refine (recorded_ends length).bind fun reported => .ite ?_ (.pure variableLength)
  exact (recorded_ends length).bind fun again => .pure _

end Wrapper

variable (checker : Checker) (inner : Operations σ t.Val) (padding : Nat) (length : Int)

theorem probeNull_accounts :
    Accounts Prod.mk Ends (probeNull (operations inner.recorded padding) length)
      (probeNull (operations inner padding) length) := by
  refine (serialize_accounts inner padding none).withLocal.bind fun written => .refuse ?_
  refine (deserialize_accounts inner padding).withLocal.bind fun read => .refuse ?_
  exact (copy_accounts inner padding none).bind fun copied => .ite (.throw _) (.pure ())

/-- The probe of one sample ends with what escapes while it goes there and back. -/
theorem probeSample_accounts (reuse : Option t.Val) (v : t.Val) :
    Accounts Prod.mk Ends (probeSample checker (operations inner.recorded padding) length reuse v)
      (probeSample checker (operations inner padding) length reuse v) := by
  refine (serialize_accounts inner padding (some v)).withLocal.bind fun written => .refuse ?_
  refine (deserialize_accounts inner padding).withLocal.bind fun read => ?_
  refine (Accounts.ofExcept (holds checker v read.1)).bind fun held => .refuse ?_
  refine (copyInto_accounts inner read.1).withLocal.bind fun copied => ?_
  refine (Accounts.ofExcept (holds checker v (copied.1.value copied.2))).bind fun same => ?_
  exact .refuse (.pure copied.2)

theorem probeSamples_accounts (reuse : Option t.Val) (samples : List t.Val) :
    Accounts Prod.mk Ends (probeSamples checker (operations inner.recorded padding) length reuse samples)
      (probeSamples checker (operations inner padding) length reuse samples) := by
  induction samples generalizing reuse with
  | nil => exact .pure ()
  | cons v rest ih => exact (probeSample_accounts checker inner padding length reuse v).bind ih

/-- The whole probe ends with what escapes from any of its operations, and from duplicating. -/
theorem probe_accounts (C : Contract σ A t S N) (serializer : S) (samples : List t.Val) :
    Accounts Prod.mk Ends (probe C.recorded checker serializer samples)
      (probe C checker serializer samples) := by
  refine (recorded_ends (C.duplicate serializer)).bind fun duplicate => ?_
  cases duplicate with
  | none => exact .throw _
  | some inner =>
      refine (paddingFor_accounts (C.operations inner) true).bind fun fixed => ?_
      refine (Accounts.ofExcept (checkPadding fixed)).bind fun padding => ?_
      refine (expectedLength_accounts (C.operations serializer).length).bind fun expected => ?_
      refine (Accounts.pure (Nullable.length padding)).bind fun reported => .refuse ?_
      refine (probeNull_accounts (C.operations inner) padding expected).bind fun _ => ?_
      exact probeSamples_accounts checker (C.operations inner) padding expected none samples

end Nullable

end SerializerContract
