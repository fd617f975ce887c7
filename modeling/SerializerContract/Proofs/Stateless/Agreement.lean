import SerializerContract.Proofs.Detection.Checks
import SerializerContract.Proofs.Incomparable.Checks
import SerializerContract.Proofs.Stateless.Scripts

/-! The three checks of snapshots agree on stateless serializers. If the registry does not know the snapshot of the
serializer, they all find it; if the serializer that the snapshot restores may be used as it is, the clone may be too,
unless the registry has made something with a state of its own. The checks go different ways, but all of them send the
snapshot through its bytes. -/
namespace SerializerContract

open SerializerContract.Action

/-- An ordinary failure: it describes itself, and it is no finding yet. -/
def Failure.Ordinary (failure : Failure) : Prop :=
  failure.fault.isStandard = true ∧ failure.fault.isFinding = false

theorem Failure.ordinary_ofKind (kind : FaultKind) (message : String) : (ofKind kind message).Ordinary := ⟨rfl, rfl⟩

namespace Action

variable {σ α β : Type} {state : σ}

/-- The action breaks off with an ordinary failure. -/
def Breaks (action : Action σ α) (state : σ) : Prop := ∃ failure, failure.Ordinary ∧ action.Throws state failure

theorem Breaks.bind {first : Action σ α} (h : first.Breaks state) (next : α → Action σ β) :
    (first >>= next).Breaks state := by
  obtain ⟨failure, hOrdinary, hThrown⟩ := h
  exact ⟨failure, hOrdinary, hThrown.bind next⟩

theorem Succeeds.bind_breaks {first : Action σ α} {next : α → Action σ β} {post : α → σ → Prop}
    (hFirst : first.Succeeds state post) (hNext : ∀ a middle, post a middle → (next a).Breaks middle) :
    (first >>= next).Breaks state := by
  obtain ⟨a, middle, hOutcome, hPost⟩ := hFirst
  obtain ⟨failure, hOrdinary, last, hThrown⟩ := hNext a middle hPost
  exact ⟨failure, hOrdinary, last, by rw [outcome_bind, hOutcome]; exact hThrown⟩

end Action

/-! ## Snapshots that the registry lacks -/

namespace Contract

variable {σ A S N : Type} {t : ValueType} {C : Contract σ A t S N} {registry : Registry σ A} {n : N} {state : σ}

variable (C) (registry) in
/-- Nothing is registered under the id that could be used: no factory at all, or one that makes null or a snapshot of
another type of values. -/
def Lacks (id : Bytes) : Prop :=
  registry.find id = none ∨ ∃ factory, registry.find id = some factory ∧
    ∀ state, factory.Succeeds state fun made _ => ∀ a, made = some a → C.ofAny a = none

theorem Lacks.instantiate_throws {id : Bytes} (h : C.Lacks registry id) (state : σ) :
    ∃ message, (C.instantiate registry id).Throws state (.deserialization message) := by
  obtain hNone | ⟨factory, hFind, hFactory⟩ := h
  · refine ⟨"Unknown snapshot type " ++ Registry.quoted id, Throws.bind ⟨state, ?_⟩ _⟩
    rw [Registry.instantiate, hNone]
    rfl
  · obtain ⟨made, last, hMade, hForeign⟩ := hFactory state
    cases made with
    | none =>
      refine ⟨"Factory of snapshot type " ++ Registry.quoted id ++ " returned null", Throws.bind ⟨last, ?_⟩ _⟩
      rw [Registry.instantiate, hFind, outcome_bind, hMade]
      rfl
    | some a =>
      have hKnown : (registry.instantiate id).Succeeds state fun b _ => b = a := by
        refine ⟨a, last, ?_, rfl⟩
        rw [Registry.instantiate, hFind, outcome_bind, hMade]
        rfl
      refine ⟨"Snapshot type " ++ Registry.quoted id ++ " does not describe serializers of " ++ t.name, ?_⟩
      apply hKnown.bind_throws
      intro b middle hSame
      rw [hSame, hForeign a rfl]
      exact ⟨middle, rfl⟩

/-- Whatever was written for a snapshot, its bytes start with a frame under its id. The payload of that frame ends
where the length field says. -/
theorem exists_frame_of_framed (hId : (C.snapshotId n).length ≤ Width.w32.maximum) (payload : Bytes) :
    ∃ frame later, frame.id = C.snapshotId n ∧
      InputChannel.readFrame.outcome (.ofBytes (C.framed n payload)) = (.ok frame, later) := by
  obtain ⟨front, back, hPayload, hFront⟩ := Codec.exists_front (Nat.mod_le payload.length (2 ^ 32))
  have hCut : front.length = (front ++ back).length % 2 ^ 32 := by rw [hFront, hPayload]
  have hRead := readFrame_of_cut hId hCut [] []
  rw [List.append_nil, ← hPayload] at hRead
  exact ⟨C.frame n front, _, rfl, hRead⟩

/-- A snapshot that the registry lacks does not come through its bytes, whatever it writes. -/
theorem Lacks.reread_breaks (h : C.Lacks registry (C.snapshotId n))
    (hWrites : ∀ state failure, (C.writePayload n).Throws ({}, state) failure → failure.Ordinary) (state : σ) :
    (C.reread registry n).Breaks state := by
  rcases hPayload : (C.writePayload n).outcome ({}, state) with ⟨failure | ⟨⟩, payload, after⟩
  · have hFailed := C.writeSnapshot_of_payload_fails n hPayload {}
    exact ⟨failure, hWrites state failure ⟨_, hPayload⟩, (Throws.withLocal ⟨_, hFailed⟩).bind _⟩
  have hWritten := C.writeSnapshot_of_payload n hPayload {}
  by_cases hId : (C.snapshotId n).length ≤ Width.w32.maximum
  · rw [if_pos hId] at hWritten
    obtain ⟨frame, later, hFrameId, hFrame⟩ := exists_frame_of_framed hId payload.data
    obtain ⟨message, hUnmade⟩ := h.instantiate_throws after
    have hRefused : (C.takeOver registry frame.id frame.version.toInt frame.payload).Throws after
        (.deserialization message) := (hFrameId ▸ hUnmade).bind _
    have hRead : (C.readSnapshot registry).Throws (.ofBytes (C.framed n payload.data), after)
        (.deserialization message) := by
      rw [Throws, C.readSnapshot_of_frame registry hFrame]
      exact hRefused.onSecond
    have hBytes : (withLocal {} (C.writeSnapshot n)).Succeeds state fun done middle =>
        done.2.inputView = .ofBytes (C.framed n payload.data) ∧ middle = after :=
      ⟨((), _), after, withLocal_ok_iff.mpr hWritten, rfl, rfl⟩
    refine hBytes.bind_breaks ?_
    rintro ⟨_, out⟩ middle ⟨hView, hMiddle⟩
    refine ⟨_, Failure.ordinary_ofKind .deserialization message, ?_⟩
    dsimp only at hView ⊢
    rw [hView, hMiddle]
    exact hRead.withLocal
  · rw [if_neg hId] at hWritten
    exact ⟨OutputChannel.tooLarge, Failure.ordinary_ofKind _ _, (Throws.withLocal ⟨_, hWritten⟩).bind _⟩

/-- A clone goes through the bytes of its snapshot. -/
theorem clone_eq_reread (C : Contract σ A t S N) (registry : Registry σ A) (serializer : S) :
    C.clone registry serializer = do
      match ← C.snapshot serializer with
      | none => throw (.serialization "Serializer returned null configuration snapshot")
      | some snapshot =>
        let (read, _) ← C.reread registry snapshot
        match ← C.restore read with
        | none =>
          throw (.serialization
            ("Snapshot " ++ Registry.quoted (C.snapshotId snapshot) ++ " restored null serializer"))
        | some restored => return restored := by
  refine bind_congr fun taken => ?_
  cases taken with
  | none => rfl
  | some snapshot => exact (bind_assoc _ _ _).symm

end Contract

/-! ## Findings -/

namespace Suite

variable {σ A S N : Type} {t : ValueType} {C : Contract σ A t S N} {suite : Suite C} {state : σ}

/-- The check ends with a finding of some kind about a property. -/
def Finds (check : Action σ Unit) (kind : FindingKind) (property : String) (state : σ) : Prop :=
  ∃ message causes, check.Throws state ⟨.finding kind property message, causes⟩

theorem Finds.after {α : Type} {first : Action σ α} {next : α → Action σ Unit} {post : α → σ → Prop}
    {kind : FindingKind} {property : String} (hFirst : first.Succeeds state post)
    (hNext : ∀ a middle, post a middle → Finds (next a) kind property middle) :
    Finds (first >>= next) kind property state := by
  obtain ⟨a, middle, hOutcome, hPost⟩ := hFirst
  obtain ⟨message, causes, last, hThrown⟩ := hNext a middle hPost
  exact ⟨message, causes, last, by rw [outcome_bind, hOutcome]; exact hThrown⟩

theorem guarded_finds {property : String} {check : Action σ Unit} (h : check.Breaks state) :
    Finds (guarded property check) .contract property state := by
  obtain ⟨failure, hOrdinary, last, hThrown⟩ := h
  refine ⟨"Exception in test: " ++ failure.message, failure.fault :: failure.causes, last, ?_⟩
  rw [guarded_outcome, hThrown]
  simp [Except.mapError, escaped, hOrdinary.2, Failure.wrap]

/-- What breaks off in a handler of its own is found there, and nothing comes after it. -/
theorem reported_finds {α : Type} {kind : FindingKind} {property message : String} {action : Action σ α}
    {next : α → Action σ Unit} (h : action.Breaks state) :
    Finds (reported kind property message action >>= next) kind property state := by
  obtain ⟨failure, hOrdinary, hThrown⟩ := h
  have hReported : (reported kind property message action).Throws state (answered kind property message failure) :=
    reported_throws hThrown
  rw [answered, if_pos hOrdinary.1] at hReported
  exact ⟨_, _, hReported.bind next⟩

/-! ## The verdict of reconfiguration -/

/-- What is asked of a serializer that takes the place of another one. -/
def judgeRestored (C : Contract σ A t S N) (property : String) (serializer : S) (verdict : Compatibility S) :
    Option S → Action σ Unit
  | none => throw (.contract property ("Restored serializer is null with " ++ verdict.describe))
  | some restored => do
    if C.typeName restored ≠ C.typeName serializer then
      throw (.contract property ("Restored serializer is a " ++ C.typeName restored ++ ", expected " ++
        C.typeName serializer))
    if !(← C.equals restored serializer) then
      throw (.contract property ("Restored serializer is configured differently than the " ++
        "original one with " ++ verdict.describe))

theorem judgeRestored_ok {property : String} {x : S} {verdict : Compatibility S} {restored : Option S} {last : σ}
    (h : (judgeRestored C property x verdict restored).outcome state = (.ok (), last)) :
    ∃ y, restored = some y ∧ C.typeName y = C.typeName x ∧ (C.equals y x).outcome state = (.ok true, last) := by
  cases restored with
  | none => nomatch h
  | some y =>
    obtain ⟨hType, hRest⟩ := ok_of_throw_if h
    obtain ⟨equal, compared, hEqual, hRest⟩ := bind_ok_iff.mp hRest
    cases equal with
    | false => nomatch hRest
    | true =>
      obtain ⟨-, rfl⟩ := Prod.mk.inj hRest
      exact ⟨y, rfl, Decidable.not_not.mp hType, hEqual⟩

theorem getSnapshot_ok_iff {property : String} {x : S} {n : N} {last : σ} :
    (getSnapshot C property x).outcome state = (.ok n, last) ↔
      (C.snapshot x).outcome state = (.ok (some n), last) := by
  rw [getSnapshot, bind_ok_iff]
  constructor
  · intro h
    obtain ⟨_ | m, taken, hTaken, hRest⟩ := h
    · nomatch hRest
    · obtain ⟨hSame, rfl⟩ := Prod.mk.inj hRest
      obtain rfl := Except.ok.inj hSame
      exact hTaken
  · exact fun hTaken => ⟨some n, last, hTaken, rfl⟩

/-- The check of reconfiguration, and the verdict that its snapshot came to. -/
def reconfigure (suite : Suite C) : Action σ (Compatibility S) := do
  let property := "snapshot configuration and reconfigure"
  let serializer ← suite.getSerializer property
  guarded property do
    let snapshot ← getSnapshot C property serializer
    let (read, input) ← C.reread suite.registry snapshot
    checkConsumed property "Trailing data available after reading the snapshot." input
    let verdict ← C.resolve read (← suite.getSerializer property)
    judgeRestored C property serializer verdict (← chosen C property read verdict)
    return verdict

theorem guarded_bind_pure {α β : Type} (property : String) (check : Action σ α) (f : α → β) :
    guarded property (check >>= fun a => pure (f a)) = guarded property check >>= fun a => pure (f a) := by
  funext state
  change (guarded property _).outcome state = (guarded property check >>= _).outcome state
  rw [guarded_outcome, outcome_bind, outcome_bind, guarded_outcome]
  rcases check.outcome state with ⟨_ | _, last⟩ <;> rfl

/-- The check does all that comes to the verdict, and drops it. -/
theorem checkReconfigure_eq (suite : Suite C) :
    suite.checkReconfigure = suite.reconfigure >>= fun _ => pure () := by
  simp only [reconfigure, bind_assoc, ← guarded_bind_pure, pure_bind, bind_pure_unit, Contract.reread]
  rfl

/-! ## Agreement -/

/-- In this state the fixture hands out the like of a serializer, and the snapshot of that one satisfies the
postcondition. -/
def Offers (suite : Suite C) (alike : S → S → Prop) (x : S) (post : N → σ → Prop) (state : σ) : Prop :=
  suite.fixture.createSerializer.Succeeds state fun created served => ∃ y, created = some y ∧ alike x y ∧
    (C.snapshot y).Succeeds served fun taken later => ∃ m, taken = some m ∧ post m later

section Stateless

variable {alike : S → S → Prop} {same : N → N → Prop} {x : S} {n : N} {post : N → σ → Prop}

theorem Offers.getSerializer (h : suite.Offers alike x post state) (property : String) :
    (suite.getSerializer property).Succeeds state fun y served => alike x y ∧
      (C.snapshot y).Succeeds served fun taken later => ∃ m, taken = some m ∧ post m later := by
  obtain ⟨_, served, hCreated, y, rfl, hServed⟩ := h
  exact ⟨y, served, getSerializer_ok_iff.mpr hCreated, hServed⟩

theorem getSnapshot_of_taken {y : S}
    (h : (C.snapshot y).Succeeds state fun taken later => ∃ m, taken = some m ∧ post m later) (property : String) :
    (getSnapshot C property y).Succeeds state post := by
  obtain ⟨_, later, hTaken, m, rfl, hPost⟩ := h
  exact ⟨m, later, getSnapshot_ok_iff.mpr hTaken, hPost⟩

variable (hStateless : C.Stateless alike same)
    (hFixture : Steady (Option.Rel alike) suite.fixture.createSerializer suite.fixture.createSerializer)

include hStateless hFixture in
/-- What a fixture of stateless serializers once handed out, it hands out the like of in every state. -/
theorem offers {created served described : σ}
    (hCreated : suite.fixture.createSerializer.outcome created = (.ok (some x), served))
    (hTaken : (C.snapshot x).outcome served = (.ok (some n), described)) (state : σ) :
    suite.Offers alike x (fun m _ => same n m) state := by
  refine (hFixture created _ served hCreated state).mono fun other later hOther => ?_
  cases hOther with
  | @some _ y hAlike =>
    refine ⟨y, rfl, hAlike, ?_⟩
    refine (hStateless.snapshot x y hAlike served _ described hTaken later).mono fun taken _ hTaken => ?_
    cases hTaken with
    | @some _ m hSame => exact ⟨m, rfl, hSame⟩

section Lacking

variable (hOffers : suite.Offers alike x (fun m _ => same n m) state)
    (hLacks : ∀ m, same n m → C.Lacks suite.registry (C.snapshotId m))
    (hWrites : ∀ m, same n m → ∀ state failure, (C.writePayload m).Throws ({}, state) failure → failure.Ordinary)

include hOffers hLacks

theorem checkSnapshotInstantiation_finds :
    Finds suite.checkSnapshotInstantiation .contract "config snapshot instantiation" state := by
  refine Finds.after (hOffers.getSerializer _) fun y served hServed => guarded_finds ?_
  refine (getSnapshot_of_taken hServed.2 _).bind_breaks fun m later hSame => ?_
  obtain ⟨message, hUnmade⟩ := (hLacks m hSame).instantiate_throws later
  exact ⟨_, Failure.ordinary_ofKind _ _, hUnmade.bind _⟩

include hWrites

theorem checkReconfigure_finds :
    Finds suite.checkReconfigure .contract "snapshot configuration and reconfigure" state := by
  rw [checkReconfigure_eq, reconfigure, bind_assoc]
  refine Finds.after (hOffers.getSerializer _) fun y served hServed => ?_
  rw [← guarded_bind_pure]
  refine guarded_finds (Breaks.bind ?_ _)
  refine (getSnapshot_of_taken hServed.2 _).bind_breaks fun m later hSame => ?_
  exact ((hLacks m hSame).reread_breaks (hWrites m hSame) later).bind _

theorem checkClone_finds : Finds suite.checkClone .clone "serializability and equals" state := by
  refine Finds.after (hOffers.getSerializer _) fun y served hServed => reported_finds ?_
  rw [Contract.clone_eq_reread]
  refine hServed.2.bind_breaks fun taken later hTaken => ?_
  obtain ⟨m, rfl, hSame⟩ := hTaken
  exact ((hLacks m hSame).reread_breaks (hWrites m hSame) later).bind _

end Lacking

/-- A run that comes to the verdict has sent a snapshot through its bytes; what those were read back as restores an
equal serializer later on. -/
theorem reconfigure_asIs {last : σ} (h : suite.reconfigure.outcome state = (.ok .asIs, last)) :
    ∃ x served n taken read input reread,
      suite.fixture.createSerializer.outcome state = (.ok (some x), served) ∧
      (C.snapshot x).outcome served = (.ok (some n), taken) ∧
      (C.reread suite.registry n).outcome taken = (.ok (read, input), reread) ∧
      ∃ y resolved restored compared, (C.restore read).outcome resolved = (.ok (some y), restored) ∧
        C.typeName y = C.typeName x ∧ (C.equals y x).outcome restored = (.ok true, compared) := by
  obtain ⟨x, served, hCreated, hRest⟩ := bind_ok_iff.mp h
  obtain ⟨n, taken, hTaken, hRest⟩ := bind_ok_iff.mp (guarded_ok_iff.mp hRest)
  obtain ⟨⟨read, input⟩, reread, hReread, hRest⟩ := bind_ok_iff.mp hRest
  obtain ⟨_, -, hRest⟩ := then_ok_iff.mp hRest
  obtain ⟨other, _, -, hRest⟩ := bind_ok_iff.mp hRest
  obtain ⟨verdict, resolved, -, hRest⟩ := bind_ok_iff.mp hRest
  obtain ⟨chosen, restored, hChosen, hRest⟩ := bind_ok_iff.mp hRest
  obtain ⟨compared, hJudged, hVerdict⟩ := then_ok_iff.mp hRest
  obtain rfl : verdict = .asIs := Except.ok.inj (Prod.mk.inj hVerdict).1
  obtain ⟨y, rfl, hType, hEqual⟩ := judgeRestored_ok hJudged
  exact ⟨x, served, n, taken, read, input, reread, getSerializer_ok_iff.mp hCreated,
    getSnapshot_ok_iff.mp hTaken, hReread, y, resolved, restored, compared, hChosen, hType, hEqual⟩

/-- Whatever is cloned by way of the like of a snapshot is the like of what that snapshot restores. -/
theorem clone_succeeds_of_reread (hStateless : C.Stateless alike same) {x' y : S} {resolved restored : σ}
    (hRestored : (C.restore n).outcome resolved = (.ok (some y), restored))
    (hReread : (C.snapshot x').Succeeds state fun taken later => ∃ m, taken = some m ∧
      (C.reread suite.registry m).Succeeds later fun done _ => same n done.1) :
    (C.clone suite.registry x').Succeeds state fun z _ => alike y z := by
  rw [Contract.clone_eq_reread]
  refine hReread.bind fun taken later hTaken => ?_
  obtain ⟨m, rfl, hDone⟩ := hTaken
  refine hDone.bind fun done reread hSame => ?_
  refine (hStateless.restore n done.1 hSame resolved _ restored hRestored reread).bind fun found last hFound => ?_
  cases hFound with
  | some hLike => exact pure_succeeds hLike

theorem checkClone_passes_of_restored (hStateless : C.Stateless alike same) (hSymmetric : C.Symmetric alike)
    (hLive : alike x x) (hKnown : same n n) {y : S} {resolved restored compared : σ}
    (hRereads : suite.Offers alike x
      (fun m later => (C.reread suite.registry m).Succeeds later fun done _ => same n done.1) state)
    (hRestored : (C.restore n).outcome resolved = (.ok (some y), restored))
    (hType : C.typeName y = C.typeName x) (hEqual : (C.equals y x).outcome restored = (.ok true, compared)) :
    suite.checkClone.Passes state := by
  have hKept : alike y y := by
    cases (hStateless.restore n n hKnown).self hRestored with
    | some hKept => exact hKept
  have hCompares (x' z : S) (hServed : alike x x') (hClone : alike y z) (cloned : σ) :
      (C.equals x' z).Succeeds cloned fun equal _ => equal = true := by
    obtain ⟨_, swapped, hSwapped, rfl⟩ := hSymmetric y x hKept hLive restored true compared hEqual cloned
    exact (hStateless.equals x x' y z hServed hClone cloned true swapped hSwapped cloned).mono fun _ _ => Eq.symm
  have hTypes (x' z : S) (hServed : alike x x') (hClone : alike y z) : C.typeName x' = C.typeName z := by
    rw [← hStateless.typeName x x' hServed, ← hType, hStateless.typeName y z hClone]
  suffices hPasses : suite.checkClone.Succeeds state fun _ _ => True from hPasses.passes
  refine (hRereads.getSerializer _).bind fun x' served hServed => ?_
  have hCloned := clone_succeeds_of_reread hStateless hRestored hServed.2
  refine (reported_succeeds hCloned).bind fun z cloned hClone => ?_
  refine guarded_succeeds ?_
  simp only [hTypes x' z hServed.1 hClone, ne_eq, not_true_eq_false, if_false]
  refine (hCompares x' z hServed.1 hClone cloned).bind fun equal last hEqual => ?_
  subst hEqual
  exact pure_succeeds trivial

/-- What the bytes of the serializer's own snapshot are read back as is stateless. The factories of the registry may
still make one thing now and another later. -/
def RereadsStateless (suite : Suite C) (same : N → N → Prop) : Prop :=
  ∀ x n read created served taken last, suite.fixture.createSerializer.outcome created = (.ok (some x), served) →
    (C.snapshot x).outcome served = (.ok (some n), taken) →
    (C.reread suite.registry n).outcome taken = (.ok read, last) → same read.1 read.1

/-- The bytes of the serializer's own snapshot are read back as the like at any time. -/
def RereadsAlike (suite : Suite C) (same : N → N → Prop) : Prop :=
  ∀ x n m created served taken, suite.fixture.createSerializer.outcome created = (.ok (some x), served) →
    (C.snapshot x).outcome served = (.ok (some n), taken) → same n m →
    Steady (fun read read' => same read.1 read'.1) (C.reread suite.registry n) (C.reread suite.registry m)

/-- A registry that makes the like at any time is enough. -/
theorem rereadsAlike_of_remakes (hStateless : C.Stateless alike same) (hRemakes : C.Remakes suite.registry same) :
    suite.RereadsAlike same :=
  fun _ _ _ _ _ _ _ _ hSame => hStateless.reread hRemakes hSame

/-- Where a serializer is read back and restored as it is, it is cloned too: in the same state if what was read is
stateless, and in any state if the like is read in all of them. -/
theorem checkClone_passes_of_asIs (hStateless : C.Stateless alike same) (hSymmetric : C.Symmetric alike)
    (hFixture : Steady (Option.Rel alike) suite.fixture.createSerializer suite.fixture.createSerializer) {last : σ}
    (hVerdict : suite.reconfigure.outcome state = (.ok .asIs, last)) :
    (suite.RereadsStateless same → suite.checkClone.Passes state) ∧
      (suite.RereadsAlike same → ∀ other, suite.checkClone.Passes other) := by
  obtain ⟨x, served, n, taken, read, input, reread, hCreated, hTaken, hReread, y, _, _, _, hRestored, hType, hEqual⟩ :=
    reconfigure_asIs hVerdict
  have hLive : alike x x := by
    cases hFixture.self hCreated with
    | some hLive => exact hLive
  constructor
  · intro hReads
    have hKnown : same read read := hReads x n _ _ _ _ _ hCreated hTaken hReread
    refine checkClone_passes_of_restored hStateless hSymmetric hLive hKnown ?_ hRestored hType hEqual
    exact ⟨_, _, hCreated, x, rfl, hLive, _, _, hTaken, n, rfl, _, _, hReread, hKnown⟩
  · intro hReads other
    have hOwn : same n n := by
      cases (hStateless.snapshot x x hLive).self hTaken with
      | some hOwn => exact hOwn
    have hKnown : same read read := (hReads x n n _ _ _ hCreated hTaken hOwn).self hReread
    refine checkClone_passes_of_restored hStateless hSymmetric hLive hKnown ?_ hRestored hType hEqual
    refine (offers hStateless hFixture hCreated hTaken other).mono fun created later hOffered => ?_
    obtain ⟨x', rfl, hAlike, hSnapshot⟩ := hOffered
    refine ⟨x', rfl, hAlike, hSnapshot.mono fun found middle hFound => ?_⟩
    obtain ⟨m, rfl, hSame⟩ := hFound
    exact ⟨m, rfl, hReads x n m _ _ _ hCreated hTaken hSame taken _ reread hReread middle⟩

/-- The checks of snapshots agree on stateless serializers with a symmetric equality. If the registry lacks the snapshot
that such a serializer has, all three find it, at any time and whatever the snapshot writes, also if that fails. If the
check of reconfiguration passes with the verdict that the snapshot may be used as it is, the check of clones passes in
its place, as long as the bytes of the snapshot are read back as something that is stateless like the snapshot; and it
passes at any time if they are read back as the like at any time. -/
theorem snapshot_checks_agree (suite : Suite C) {alike : S → S → Prop} {same : N → N → Prop}
    (hStateless : C.Stateless alike same) (hSymmetric : C.Symmetric alike)
    (hFixture : Steady (Option.Rel alike) suite.fixture.createSerializer suite.fixture.createSerializer) :
    (∀ x n created served described, suite.fixture.createSerializer.outcome created = (.ok (some x), served) →
      (C.snapshot x).outcome served = (.ok (some n), described) → C.Lacks suite.registry (C.snapshotId n) →
      (∀ m, same n m → ∀ state failure, (C.writePayload m).Throws ({}, state) failure → failure.Ordinary) →
      ∀ state, Finds suite.checkSnapshotInstantiation .contract "config snapshot instantiation" state ∧
        Finds suite.checkReconfigure .contract "snapshot configuration and reconfigure" state ∧
        Finds suite.checkClone .clone "serializability and equals" state) ∧
    (∀ state last, suite.reconfigure.outcome state = (.ok .asIs, last) →
      (suite.RereadsStateless same → suite.checkClone.Passes state) ∧
      (suite.RereadsAlike same → ∀ other, suite.checkClone.Passes other)) := by
  refine ⟨?_, fun state last hVerdict => checkClone_passes_of_asIs hStateless hSymmetric hFixture hVerdict⟩
  intro x n created served described hCreated hTaken hLacks hWrites state
  have hOffers := offers hStateless hFixture hCreated hTaken state
  have hLacks (m : N) (hSame : same n m) : C.Lacks suite.registry (C.snapshotId m) :=
    hStateless.snapshotId n m hSame ▸ hLacks
  exact ⟨checkSnapshotInstantiation_finds hOffers hLacks, checkReconfigure_finds hOffers hLacks hWrites,
    checkClone_finds hOffers hLacks hWrites⟩

end Stateless

/-- Once the registry holds nothing, and the snapshot fails to be written; and once it holds the snapshot. -/
theorem snapshot_checks_agree_scripted :
    (∀ state,
      Finds (ofScript .unwritable {}).checkSnapshotInstantiation .contract "config snapshot instantiation" state ∧
      Finds (ofScript .unwritable {}).checkReconfigure .contract "snapshot configuration and reconfigure" state ∧
      Finds (ofScript .unwritable {}).checkClone .clone "serializability and equals" state) ∧
    ∀ state, (ofScript .restorable (NumberSnapshot.registry .restorable 0)).checkClone.Passes state := by
  constructor
  · have hWrites : ∀ m, NumberSnapshot.BothScripted .unwritable 0 (.scripted .unwritable 0) m → ∀ store failure,
        (Family.number.contract.writePayload m).Throws ({}, store) failure → failure.Ordinary := by
      rintro m ⟨-, rfl⟩ store failure hThrown
      obtain rfl := hThrown.unique ⟨_, rfl⟩
      exact Failure.ordinary_ofKind .runtime "no"
    exact (snapshot_checks_agree (ofScript .unwritable {}) (NumberSnapshot.scripted_stateless _ .unwritable 0 rfl rfl)
      (NumberSnapshot.scripted_symmetric _ .unwritable 0 rfl) (Object.make_steady _)).1
        ⟨0, .scripted .unwritable 0⟩ (.scripted .unwritable 0) {} _ _ rfl rfl (.inl rfl) hWrites
  · have hVerdict : (ofScript .restorable (NumberSnapshot.registry .restorable 0)).reconfigure.outcome {} =
        (.ok .asIs, { cells := [{}, {}, {}] }) := by rfl
    have hStateless := NumberSnapshot.scripted_stateless (Family.snapshotOf .number) .restorable 0 rfl rfl
    exact ((snapshot_checks_agree (ofScript .restorable (NumberSnapshot.registry .restorable 0)) hStateless
      (NumberSnapshot.scripted_symmetric _ .restorable 0 rfl) (Object.make_steady _)).2 {} _ hVerdict).2
        (rereadsAlike_of_remakes hStateless (NumberSnapshot.registry_remakes .restorable 0))

/-! ## A snapshot with a state -/

/-- Two types of snapshot. -/
inductive Recall where
  /-- It restores a serializer at any time. -/
  | always
  /-- It restores a serializer only if it was resolved against one since it restored the last. -/
  | resolved
deriving DecidableEq, Repr

/-- Serializers of numbers without any state, all of them equal, which describe themselves by a snapshot without a
state. The state of the other snapshot is whether it was resolved. -/
def forgetful : Contract Bool Recall .int32 Unit Recall where
  operations _ := NumberSerializer.plain
  duplicate x := return some x
  equals _ _ := return true
  typeName _ := "Serializer"
  snapshot _ := return some .always
  ofAny := some
  snapshotId _ := []
  snapshotVersion _ := 1
  snapshotTypeName _ := "Snapshot"
  writePayload _ := return ()
  readPayload _ _ := return ()
  restore
    | .always => return some ()
    | .resolved => fun known => (.ok (if known then some () else none), false)
  resolve
    | .always, _ => return .asIs
    | .resolved, _ => fun _ => (.ok .asIs, true)

/-- A suite whose registry makes the snapshot with a state under the id of the one without. -/
def forgetfulSuite : Suite forgetful where
  fixture := {
    createSerializer := return some ()
    length := 4
    samples := [(0 : BitVec 32)]
    registry := return {} }
  checker := {}
  registry := Registry.register {} [] fun known => (.ok (some .resolved), known)
  options := {}

theorem forgetful_stateless :
    forgetful.Stateless (fun _ _ => True) (fun n m => n = .always ∧ m = .always) where
  typeName _ _ _ := rfl
  snapshot _ _ _ := .pure (.some ⟨rfl, rfl⟩)
  equals _ _ _ _ _ _ := .pure rfl
  snapshotId _ _ _ := rfl
  snapshotVersion _ _ _ := rfl
  writePayload n _ _ := by
    have hNothing (known : Bool) :
        (withLocal {} (forgetful.writePayload n)).outcome known = (.ok ((), {}), known) := rfl
    exact .of_outcome hNothing fun _ _ => rfl
  restore := by
    rintro _ _ ⟨rfl, rfl⟩
    exact .pure (.some trivial)

/-- Serializers without state, and with a symmetric equality. What the registry makes restores one that may be used as
it is, once it was resolved against another; in the same state the clone fails, because nothing was resolved before. -/
theorem asIs_not_cloned :
    forgetful.Stateless (fun _ _ => True) (fun n m => n = .always ∧ m = .always) ∧
      forgetful.Symmetric (fun _ _ => True) ∧
      Steady (Option.Rel fun _ _ => True) forgetfulSuite.fixture.createSerializer
        forgetfulSuite.fixture.createSerializer ∧
      forgetfulSuite.reconfigure.outcome false = (.ok .asIs, false) ∧
      Finds forgetfulSuite.checkClone .clone "serializability and equals" false :=
  ⟨forgetful_stateless, fun _ _ _ _ => .pure rfl, .pure (.some trivial), rfl, _, _, _, rfl⟩

end Suite

end SerializerContract
