import SerializerContract.Suite.Bench
import SerializerContract.Proofs.Conformance.Objects
import SerializerContract.Proofs.Stateless.Repetition

/-! Scripts that keep no state. A scripted serializer that is equal to those with its key, and whose snapshot restores
it, answers every question about it as it did before, whatever else the script says; where the script breaks off, it
does so every time. -/
namespace SerializerContract

open SerializerContract.Action

/-- What does not look at the state yields the same in every state. -/
theorem Action.Steady.of_outcome {σ α : Type} {like : α → α → Prop} {action : Action σ α} {result : Except Failure α}
    (h : ∀ state, action.outcome state = (result, state)) (hLike : ∀ a, result = .ok a → like a a) :
    Steady like action action := by
  intro state a last hOutcome other
  obtain ⟨rfl, -⟩ := Prod.mk.inj ((h state).symm.trans hOutcome)
  exact ⟨a, other, h other, hLike a rfl⟩

/-- Both objects are configured in this way. -/
def Object.BothConfigured {κ : Type} (config : κ) (x y : Object κ) : Prop := x.config = config ∧ y.config = config

/-- Objects that are made anew are configured as those made before. -/
theorem Object.make_steady {κ : Type} (config : κ) :
    Steady (Option.Rel (BothConfigured config)) (do return some (← make config)) (do return some (← make config)) := by
  have hMade : Steady (BothConfigured config) (make config) (make config) := by
    intro state x last hMade other
    have hConfig := (make_succeeds config state).of_outcome hMade
    exact (make_succeeds config other).mono fun y _ hNew => ⟨hConfig.config, hNew.config⟩
  exact hMade.bind fun x y hBoth => .pure (.some hBoth)

namespace Script

variable (script : Script) (occasion : Occasion) (number : Option Int)

/-- How the script goes on at an occasion. -/
def course : Except Failure Unit :=
  match script.outbursts.find? fun outburst => Outburst.isDue outburst occasion number with
  | some outburst => .error outburst.failure
  | none => .ok ()

theorem check_eq_ofExcept {σ : Type} :
    (script.check occasion number : Action σ Unit) = ofExcept (script.course occasion number) := by
  unfold check course
  cases script.outbursts.find? fun outburst => Outburst.isDue outburst occasion number <;> rfl

theorem check_steady {σ : Type} :
    Steady Eq (script.check occasion number : Action σ Unit) (script.check occasion number) :=
  .of_outcome (fun state => by rw [check_eq_ofExcept, outcome_ofExcept]) fun _ _ => rfl

end Script

namespace NumberSnapshot

variable {A : Type} (ofAny : A → Option NumberSnapshot) (script : Script) (offset : BitVec 32)

/-- Both are the snapshot of this script. -/
def BothScripted (n m : NumberSnapshot) : Prop := n = .scripted script offset ∧ m = .scripted script offset

theorem writePayload_outcome (store : Store) :
    (withLocal {} (writePayload (.scripted script offset))).outcome store =
      ((script.course .writePayload none).map fun _ => ((), ⟨(scriptOf script).written⟩), store) := by
  rw [withLocal_outcome, writePayload, Script.check_eq_ofExcept, outcome_bind, outcome_ofExcept]
  cases script.course .writePayload none <;> rfl

/-- Reading a payload passes over some of it, and leaves the snapshot as it was. -/
theorem readPayload_outcome (version : Int) (input : InputChannel) (store : Store) :
    (withLocal (.scripted script offset, input) (readPayload version)).outcome store =
      (do
        script.course .readPayload (some version)
        let skipped := (InputChannel.skip (scriptOf script).read).outcome input
        skipped.1.map fun _ => ((), (.scripted script offset, skipped.2)), store) := by
  have hBody : (readPayload version).outcome ((.scripted script offset, input), store) =
      (script.check .readPayload (some version) >>= fun _ =>
        onFirst (onSecond (InputChannel.skip (scriptOf script).read))).outcome
          ((.scripted script offset, input), store) := rfl
  rw [withLocal_outcome, hBody, Script.check_eq_ofExcept, outcome_bind, outcome_ofExcept]
  cases script.course .readPayload (some version) with
  | error failure => rfl
  | ok _ =>
    simp only [onFirst_outcome, onSecond_outcome]
    rcases (InputChannel.skip (scriptOf script).read).outcome input with ⟨_ | _, later⟩ <;> rfl

theorem readPayload_steady (version : Int) (input : InputChannel) :
    Steady (fun done done' => BothScripted script offset done.2.1 done'.2.1 ∧ done.2.2 = done'.2.2)
      (withLocal (.scripted script offset, input) (readPayload version))
      (withLocal (.scripted script offset, input) (readPayload version)) := by
  refine .of_outcome (readPayload_outcome script offset version input) fun done hDone => ?_
  cases hCourse : script.course .readPayload (some version) with
  | error failure => simp [hCourse, bind, Except.bind] at hDone
  | ok _ =>
    rcases hSkip : (InputChannel.skip (scriptOf script).read).outcome input with ⟨failure | _, later⟩
    · simp [hCourse, hSkip, bind, Except.bind, Except.map] at hDone
    · obtain rfl : ((), (NumberSnapshot.scripted script offset, later)) = done := by
        simpa [hCourse, hSkip, bind, Except.bind, Except.map] using hDone
      exact ⟨⟨rfl, rfl⟩, rfl⟩

/-- Serializers that follow such a script are stateless. -/
theorem scripted_stateless (hEquality : script.equality = .byKey) (hRestored : (scriptOf script).restored = .same) :
    (NumberSerializer.contract ofAny).Stateless (Object.BothConfigured (.scripted script offset))
      (BothScripted script offset) where
  typeName x y hBoth := by
    simp only [NumberSerializer.contract, NumberSerializer.typeName, hBoth.1, hBoth.2]
  snapshot x y hBoth := by
    simp only [NumberSerializer.contract, NumberSerializer.snapshot, hBoth.1, hBoth.2]
    refine (script.check_steady .snapshot none).bind fun _ _ _ => .pure ?_
    cases script.snapshot with
    | none => exact .none
    | some described => exact .some ⟨rfl, rfl⟩
  equals x x' y y' hBoth hBoth' := by
    simp only [NumberSerializer.contract, NumberSerializer.equals, hBoth.1, hBoth.2, hEquality, hBoth'.1, hBoth'.2]
    exact (script.check_steady .equals none).bind fun _ _ _ => .pure rfl
  snapshotId n m hBoth := by rw [hBoth.1, hBoth.2]
  snapshotVersion n m hBoth := by rw [hBoth.1, hBoth.2]
  writePayload n m hBoth := by
    obtain ⟨rfl, rfl⟩ := hBoth
    exact .of_outcome (writePayload_outcome script offset) fun _ _ => rfl
  restore n m hBoth := by
    obtain ⟨rfl, rfl⟩ := hBoth
    refine (script.check_steady .restore none).bind fun _ _ _ => ?_
    rw [hRestored]
    exact Object.make_steady _

theorem scripted_symmetric (hEquality : script.equality = .byKey) :
    (NumberSerializer.contract ofAny).Symmetric (Object.BothConfigured (.scripted script offset)) := by
  intro x y hBoth hBoth'
  simp only [NumberSerializer.contract, NumberSerializer.equals, hBoth.1, hEquality, hBoth'.1]
  exact (script.check_steady .equals none).bind fun _ _ _ => .pure rfl

/-- A registry of nothing but the snapshot of the script. -/
def registry : Registry Store Family.AnySnapshot :=
  Registry.register {} (scriptOf script).id (RegistryEntry.always (some ⟨.number, .scripted script offset⟩))

theorem registry_remakes : Family.number.contract.Remakes (registry script offset) (BothScripted script offset) where
  instantiate id := by
    by_cases hId : id = (scriptOf script).id
    · have hMade (store : Store) : (Family.number.contract.instantiate (registry script offset) id).outcome store =
          (.ok (.scripted script offset), store) := by
        rw [Contract.instantiate, Registry.instantiate, hId, registry, Registry.find_register]
        rfl
      refine .of_outcome hMade fun n hMade => ?_
      obtain rfl := Except.ok.inj hMade
      exact ⟨rfl, rfl⟩
    · refine .of_fails fun store => Fails.bind ?_ _
      rw [Registry.instantiate, registry, Registry.find_register_of_ne _ _ hId]
      exact throw_fails _
  readPayload version n m input hBoth := by
    obtain ⟨rfl, rfl⟩ := hBoth
    exact readPayload_steady script offset version input

end NumberSnapshot

/-! ## Suites of scripts -/

/-- A script whose snapshot cannot be written. -/
def Script.unwritable : Script := { outbursts := [⟨.writePayload, .ofKind .runtime "no", none⟩] }

/-- A script whose snapshot has a payload, and may be used as it is. -/
def Script.restorable : Script := { snapshot := some { id := [115], written := [1, 2] } }

/-- A suite that tests serializers which follow a script. -/
def Suite.ofScript (script : Script) (registry : Registry Store Family.AnySnapshot) :
    Suite Family.number.contract where
  fixture := {
    createSerializer := do return some (← Object.make (.scripted script 0))
    length := 4
    samples := [(0 : BitVec 32)]
    registry := pure registry }
  checker := {}
  registry := registry
  options := {}

end SerializerContract
