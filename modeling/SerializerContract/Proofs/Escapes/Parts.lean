import SerializerContract.Proofs.Escapes.Recording

/-! What the checks are put together from: snapshots in bytes, streams of samples, and copies. None of these
parts handles a failure, so the failure that one ends with is the one that escaped. -/
namespace SerializerContract

variable {σ A S N : Type} {t : ValueType}

open SerializerContract.Action

/-! ## Snapshots in bytes -/

namespace Registry

/-- A registry with a log knows the same ids. -/
theorem find_recorded (registry : Registry σ A) (id : Bytes) :
    registry.recorded.find id = (registry.find id).map fun factory => factory.recorded none := by
  obtain ⟨factories⟩ := registry
  simp only [find, recorded]
  induction factories with
  | nil => rfl
  | cons entry rest ih =>
      obtain ⟨other, factory⟩ := entry
      simp only [List.map_cons, List.lookup_cons]
      cases id == other with
      | true => rfl
      | false => exact ih

theorem instantiate_accounts (registry : Registry σ A) (id : Bytes) :
    Accounts Prod.mk EndsUncompared (registry.recorded.instantiate id) (registry.instantiate id) := by
  rw [instantiate, instantiate, find_recorded]
  cases registry.find id with
  | none => exact .throw _
  | some factory =>
      refine (recorded_uncompared factory (by decide)).bind fun made => ?_
      cases made with
      | none => exact .throw _
      | some snapshot => exact .pure snapshot

end Registry

namespace Contract

variable (C : Contract σ A t S N) (registry : Registry σ A)

theorem instantiate_accounts (id : Bytes) :
    Accounts Prod.mk EndsUncompared (C.recorded.instantiate registry.recorded id)
      (C.instantiate registry id) := by
  refine (registry.instantiate_accounts id).bind fun made => ?_
  have hOfAny : C.recorded.ofAny made = C.ofAny made := rfl
  rw [hOfAny]
  cases C.ofAny made with
  | none => exact .throw _
  | some snapshot => exact .pure snapshot

/-- What escapes while a snapshot is written ends the writing. -/
theorem writeSnapshot_accounts (snapshot : N) :
    Accounts behind EndsUncompared (C.recorded.writeSnapshot snapshot) (C.writeSnapshot snapshot) :=
  (recordedBeside_uncompared (C.writePayload snapshot) (by decide)).withLocal.onSecond.bind fun _ =>
    .onFirst _

/-- What escapes while a snapshot is read ends the reading, whether from its factory or from its payload. -/
theorem readSnapshot_accounts :
    Accounts behind EndsUncompared (C.recorded.readSnapshot registry.recorded) (C.readSnapshot registry) := by
  refine (Accounts.onFirst _).bind fun id => (Accounts.onFirst _).bind fun version =>
    (Accounts.onFirst _).bind fun length => (Accounts.onFirst _).bind fun bytes => ?_
  refine ((C.instantiate_accounts registry id).bind fun empty => ?_).onSecond
  have hPayload : Accounts behind EndsUncompared (C.recorded.readPayload version.toInt registry.recorded)
      (C.readPayload version.toInt registry) := by
    change Accounts behind EndsUncompared
      ((C.readPayload version.toInt registry.recorded.unrecorded).recordedBeside (some .readPayload)) _
    rw [registry.unrecorded_recorded]
    exact recordedBeside_uncompared _ (by decide)
  refine hPayload.withLocal.bind fun read => ?_
  exact .refuse (.pure read.2.1)

/-- Cloning ends with what escapes from one of its parts. -/
theorem clone_accounts (serializer : S) :
    Accounts Prod.mk EndsUncompared (C.recorded.clone registry.recorded serializer)
      (C.clone registry serializer) := by
  refine (recorded_uncompared (C.snapshot serializer) (by decide)).bind fun snapshot => ?_
  cases snapshot with
  | none => exact .throw _
  | some snapshot =>
      refine (C.writeSnapshot_accounts snapshot).withLocal.bind fun written => ?_
      refine (C.readSnapshot_accounts registry).withLocal.bind fun read => ?_
      refine (recorded_uncompared (C.restore read.1) (by decide)).bind fun restored => ?_
      cases restored with
      | none => exact .throw _
      | some restored => exact .pure restored

end Contract

/-! ## Streams of samples -/

namespace Suite

variable {C : Contract σ A t S N} {ρ : Type}

theorem getSerializer_accounts (suite : Suite C) {becomes : Escape → Failure → Prop} (property : String) :
    Accounts Prod.mk becomes (suite.recorded.getSerializer property) (suite.getSerializer property) := by
  refine (Accounts.unheard suite.fixture.createSerializer).bind fun serializer => ?_
  cases serializer with
  | none => exact .throw _
  | some serializer => exact .pure serializer

theorem getSnapshot_accounts (C : Contract σ A t S N) (property : String) (serializer : S) :
    Accounts Prod.mk Ends (getSnapshot C.recorded property serializer) (getSnapshot C property serializer) := by
  refine (recorded_ends (C.snapshot serializer)).bind fun snapshot => ?_
  cases snapshot with
  | none => exact .throw _
  | some snapshot => exact .pure snapshot

/-- Choosing a serializer ends with what escapes from restoring one. -/
theorem chosen_accounts (C : Contract σ A t S N) (property : String) (read : N) (verdict : Compatibility S) :
    Accounts Prod.mk Ends (chosen C.recorded property read verdict) (chosen C property read verdict) := by
  cases verdict with
  | asIs => exact recorded_ends (C.restore read)
  | reconfigured serializer => exact .pure serializer
  | incompatible => exact .throw _

section Operations

variable (operations : Operations σ t.Val)

theorem serializeOne_accounts (v : t.Val) :
    Accounts Prod.mk Ends (serializeOne operations.recorded v) (serializeOne operations v) :=
  (recordedBeside_ends (operations.serialize v)).withLocal.bind fun written => .pure written.2

/-- Writing samples ends with what escapes at one of them. -/
theorem serializeAll_accounts (samples : List t.Val) :
    Accounts behind Ends (serializeAll operations.recorded samples) (serializeAll operations samples) := by
  induction samples with
  | nil => exact .pure ()
  | cons v rest ih => exact (recordedBeside_ends (operations.serialize v)).bind fun _ => ih

/-- Copying raw bytes ends with what escapes at one of the values. -/
theorem copyAll_accounts (n : Nat) :
    Accounts behind Ends (copyAll operations.recorded n) (copyAll operations n) := by
  induction n with
  | zero => exact .pure ()
  | succ n ih => exact (recordedBeside_ends operations.rawCopy).bind fun _ => ih

theorem readNew_accounts (carried : Unit) :
    Accounts behind Ends (readNew operations.recorded carried) (readNew operations carried) :=
  (recordedBeside_ends operations.deserialize).bind fun v => .pure (v, ())

/-- Reading into a reuse target ends as the deserialization does. -/
theorem readReusing_accounts (reuse : t.Val) :
    Accounts behind Ends (readReusing operations.recorded reuse) (readReusing operations reuse) := by
  intro state log
  obtain ⟨input, state⟩ := state
  let read := operations.deserializeInto.outcome ((reuse, input), state)
  exact ⟨escapes (some .deserializeInto) read.1, rfl, fun escape hEscape => ends_of_escapes hEscape _⟩

theorem readFresh_accounts (carried : Unit) :
    Accounts behind Ends (readFresh operations.recorded carried) (readFresh operations carried) := by
  refine (recorded_ends operations.create).onSecond.bind fun target => ?_
  exact (readReusing_accounts operations target).bind fun read => .pure (read.1, ())

end Operations

/-! Expectations of the harness itself are not recorded. -/

theorem deepEquals_accounts (suite : Suite C) (property message : String) (expected actual : t.Val) :
    Accounts Prod.mk Ends (suite.recorded.deepEquals property message expected actual)
      (suite.deepEquals property message expected actual) := by
  refine (Accounts.ofExcept (suite.checker.equals t expected actual)).bind fun equal => ?_
  exact .ite (.throw _) (.pure ())

theorem checkAvailable_accounts (property message : String) (input : InputChannel) :
    Accounts Prod.mk Ends (checkAvailable property message input)
      (checkAvailable property message input : Action σ Unit) :=
  .ite (.throw _) (.pure ())

theorem checkConsumed_accounts (property message : String) (input : InputChannel) :
    Accounts Prod.mk Ends (checkConsumed property message input)
      (checkConsumed property message input : Action σ Unit) :=
  .ite (.throw _) (.pure ())

section Streams

variable (suite : Suite C) (property : String)

theorem checkCount_accounts (message : String) (count : Nat) :
    Accounts Prod.mk Ends (suite.recorded.checkCount property message count)
      (suite.checkCount property message count) :=
  .ite (.throw _) (.pure ())

variable {reader : Reader σ ρ t.Val} {told : Reader (σ × List Escape) ρ t.Val}
    (hReader : ∀ carried, Accounts behind Ends (told carried) (reader carried))

include hReader

/-- Comparing a stream with samples ends with what escapes at one of them. -/
theorem compareStream_accounts (samples : List t.Val) (carried : ρ) (input : InputChannel) (count : Nat) :
    Accounts Prod.mk Ends (suite.recorded.compareStream property told samples carried input count)
      (suite.compareStream property reader samples carried input count) := by
  induction samples generalizing carried input count with
  | nil =>
      rw [compareStream, compareStream]
      exact .ite (.pure count) (.throw _)
  | cons v rest ih =>
      rw [compareStream, compareStream]
      refine .ite (.pure count) ((hReader carried).withLocal.bind fun read => ?_)
      exact (suite.deepEquals_accounts property wrongValue v read.1.1).bind fun _ =>
        ih read.1.2 read.2 (count + 1)

theorem compareOne_accounts (carried : ρ) (v : t.Val) (input : InputChannel) :
    Accounts Prod.mk Ends (suite.recorded.compareOne property told carried v input)
      (suite.compareOne property reader carried v input) := by
  refine (hReader carried).withLocal.bind fun read => ?_
  refine (suite.deepEquals_accounts property wrongValue v read.1.1).bind fun _ => ?_
  exact (checkConsumed_accounts property trailingData read.2).bind fun _ => .pure read.1.2

/-- Writing and reading back one sample after the other ends with what escapes at one of them. -/
theorem individually_accounts (operations : Operations σ t.Val) (carried : ρ) (samples : List t.Val) :
    Accounts Prod.mk Ends (suite.recorded.individually property operations.recorded told carried samples)
      (suite.individually property operations reader carried samples) := by
  induction samples generalizing carried with
  | nil => exact .pure ()
  | cons v rest ih =>
      refine (serializeOne_accounts operations v).bind fun out => ?_
      refine (checkAvailable_accounts property _ out.inputView).bind fun _ => ?_
      exact (suite.compareOne_accounts property hReader carried v out.inputView).bind ih

/-- Writing all samples and reading them back ends with what escapes at one of them. -/
theorem asSequence_accounts (operations : Operations σ t.Val) {start : Action σ ρ}
    {toldStart : Action (σ × List Escape) ρ} (hStart : Accounts Prod.mk Ends toldStart start) :
    Accounts Prod.mk Ends (suite.recorded.asSequence property operations.recorded told toldStart)
      (suite.asSequence property operations reader start) := by
  refine (serializeAll_accounts operations suite.fixture.samples).withLocal.bind fun written => ?_
  refine hStart.bind fun carried => ?_
  refine (suite.compareStream_accounts property hReader _ carried written.2.inputView 0).bind fun count => ?_
  exact suite.checkCount_accounts property _ count

end Streams

section Copies

variable (suite : Suite C) (property : String) (operations : Operations σ t.Val)

theorem compareCopy_accounts (target v : t.Val) :
    Accounts Prod.mk Ends (suite.recorded.compareCopy property operations.recorded target v)
      (suite.compareCopy property operations target v) := by
  refine (recordedBeside_ends (operations.copyInto v)).withLocal.bind fun copied => ?_
  refine (suite.deepEquals_accounts property copiedWrongly v (copied.1.value copied.2)).bind fun _ => ?_
  exact .pure copied.2

/-- Copying samples into one value ends with what escapes at one of them. -/
theorem copyReusing_accounts (target : t.Val) (samples : List t.Val) :
    Accounts Prod.mk Ends (suite.recorded.copyReusing property operations.recorded target samples)
      (suite.copyReusing property operations target samples) := by
  induction samples generalizing target with
  | nil => exact .pure ()
  | cons v rest ih => exact (suite.compareCopy_accounts property operations target v).bind ih

theorem compareRawCopy_accounts (v : t.Val) :
    Accounts Prod.mk Ends (suite.recorded.compareRawCopy property operations.recorded v)
      (suite.compareRawCopy property operations v) := by
  refine (serializeOne_accounts operations v).bind fun out => ?_
  refine (recordedBeside_ends operations.rawCopy).withLocal.bind fun copied => ?_
  refine (checkConsumed_accounts property sourceLeft copied.2.1).bind fun _ => ?_
  refine (checkAvailable_accounts property _ copied.2.2.inputView).bind fun _ => ?_
  exact suite.compareOne_accounts property (readFresh_accounts operations) () v copied.2.2.inputView

end Copies

end Suite

end SerializerContract
