import SerializerContract.Proofs.Action
import SerializerContract.Suite.Checks

/-! Streams that are read back, without a word about how a check drives the serializer. The loops of the
checks succeed exactly on such streams: neither a surplus element nor a missing one, and no byte too
many, can go unnoticed. -/
namespace SerializerContract

/-- Steps taken one after the other, one for each element of a list. -/
inductive Successive {ε κ : Type} (step : ε → κ → κ → Prop) : List ε → κ → κ → Prop where
  | nil (state : κ) : Successive step [] state state
  | cons {x : ε} {xs : List ε} {state middle last : κ} :
    step x state middle → Successive step xs middle last → Successive step (x :: xs) state last

namespace Successive

variable {ε κ : Type} {step : ε → κ → κ → Prop} {x : ε} {xs : List ε} {state last : κ}

theorem nil_iff : Successive step [] state last ↔ state = last := by
  constructor
  · intro h
    cases h
    rfl
  · intro h
    obtain rfl := h
    exact .nil _

theorem cons_iff : Successive step (x :: xs) state last ↔
    ∃ middle, step x state middle ∧ Successive step xs middle last := by
  constructor
  · intro h
    cases h with
    | cons hStep hRest => exact ⟨_, hStep, hRest⟩
  · intro h
    obtain ⟨_, hStep, hRest⟩ := h
    exact .cons hStep hRest

end Successive

namespace Suite

variable {σ A S N ρ : Type} {t : ValueType} {C : Contract σ A t S N}

/-! ## Steps of a stream -/

/-- A value is serialized. -/
def Serializes (operations : Operations σ t.Val) (v : t.Val) (before after : OutputChannel × σ) : Prop :=
  (operations.serialize v).outcome before = (.ok (), after)

/-- A serialized value is copied, whichever it is. -/
def RawCopies (operations : Operations σ t.Val) (_ : t.Val)
    (before after : (InputChannel × OutputChannel) × σ) : Prop :=
  operations.rawCopy.outcome before = (.ok (), after)

/-- A new value is deserialized. -/
def ReadsNew (operations : Operations σ t.Val) (actual : t.Val)
    (before after : (Unit × InputChannel) × σ) : Prop :=
  operations.deserialize.outcome (before.1.2, before.2) = (.ok actual, (after.1.2, after.2))

/-- A value is deserialized into the reuse target. -/
def ReadsReusing (operations : Operations σ t.Val) (actual : t.Val)
    (before after : (t.Val × InputChannel) × σ) : Prop :=
  ∃ returned, operations.deserializeInto.outcome before = (.ok returned, after) ∧
    returned.value after.1.1 = actual

/-- An instance is created, and a value is deserialized into it. -/
def ReadsFresh (operations : Operations σ t.Val) (actual : t.Val)
    (before after : (Unit × InputChannel) × σ) : Prop :=
  ∃ instance' held middle, operations.create.outcome before.2 = (.ok instance', middle) ∧
    ReadsReusing operations actual ((instance', before.1.2), middle) ((held, after.1.2), after.2)

/-- There is data, one value is read from it, and it is deeply equal to the expected one. -/
def ReadsBack (suite : Suite C) (reads : t.Val → (ρ × InputChannel) × σ → (ρ × InputChannel) × σ → Prop)
    (v : t.Val) (before after : (ρ × InputChannel) × σ) : Prop :=
  before.1.2.available ≠ 0 ∧
    ∃ actual, reads actual before after ∧ suite.checker.equals t v actual = .ok true

/-- One value after the other is read back, as many as there are samples, and then nothing is left. -/
def ReadsBackAll (suite : Suite C)
    (reads : t.Val → (ρ × InputChannel) × σ → (ρ × InputChannel) × σ → Prop)
    (carried : ρ) (input : InputChannel) (state last : σ) : Prop :=
  ∃ carried' input', Successive (suite.ReadsBack reads) suite.fixture.samples ((carried, input), state)
    ((carried', input'), last) ∧ input'.available = 0

/-- What is serialized into a channel of its own is read back, and nothing is left. -/
def ReadsBackAlone (suite : Suite C) (operations : Operations σ t.Val)
    (reads : t.Val → (ρ × InputChannel) × σ → (ρ × InputChannel) × σ → Prop)
    (v : t.Val) (before after : ρ × σ) : Prop :=
  ∃ out input middle, Serializes operations v ({}, before.2) (out, middle) ∧
    suite.ReadsBack reads v ((before.1, out.inputView), middle) ((after.1, input), after.2) ∧
      input.available = 0

/-- What is serialized into a channel of its own is copied whole, the copy is read back into an instance
that was created for it, and nothing is left. -/
def CopiesBackAlone (suite : Suite C) (operations : Operations σ t.Val) (v : t.Val)
    (before after : σ) : Prop :=
  ∃ out written source target copied input, Serializes operations v ({}, before) (out, written) ∧
    RawCopies operations v ((out.inputView, {}), written) ((source, target), copied) ∧
      source.available = 0 ∧
        suite.ReadsBack (ReadsFresh operations) v (((), target.inputView), copied) (((), input), after) ∧
          input.available = 0

/-! ## Readers and expectations -/

/-- A reader that does what a relation says. -/
def Follows (reader : Reader σ ρ t.Val)
    (reads : t.Val → (ρ × InputChannel) × σ → (ρ × InputChannel) × σ → Prop) : Prop :=
  ∀ carried input state actual carried' input' last,
    (reader carried).outcome (input, state) = (.ok (actual, carried'), (input', last)) ↔
      reads actual ((carried, input), state) ((carried', input'), last)

theorem readNew_follows (operations : Operations σ t.Val) :
    Follows (readNew operations) (ReadsNew operations) := by
  intro carried input state actual carried' input' last
  simp only [readNew, ReadsNew, Action.bind_ok_iff, Action.outcome_pure]
  constructor
  · intro h
    obtain ⟨_, _, hRead, rfl, rfl⟩ := h
    exact hRead
  · exact fun hRead => ⟨actual, _, hRead, rfl⟩

theorem readReusing_follows (operations : Operations σ t.Val) :
    Follows (readReusing operations) (ReadsReusing operations) := by
  intro carried input state actual carried' input' last
  simp only [readReusing, ReadsReusing, Action.of, Action.outcome]
  rcases operations.deserializeInto ((carried, input), state) with ⟨_ | returned, ⟨held, rest⟩, middle⟩
  · simp [Except.map]
  · constructor
    · intro h
      obtain ⟨rfl, rfl⟩ := h
      exact ⟨returned, rfl, rfl⟩
    · intro h
      obtain ⟨_, ⟨rfl, rfl⟩, rfl⟩ := h
      rfl

theorem readFresh_follows (operations : Operations σ t.Val) :
    Follows (readFresh operations) (ReadsFresh operations) := by
  intro carried input state actual carried' input' last
  simp only [readFresh, ReadsFresh, Action.bind_ok_iff, Action.outcome_pure]
  constructor
  · intro h
    obtain ⟨created, ⟨input'', middle⟩, hCreated, ⟨_, held⟩, _, hRead, rfl, rfl⟩ := h
    obtain ⟨hCreate, rfl⟩ := Action.onSecond_ok_iff.mp hCreated
    exact ⟨created, held, middle, hCreate, (readReusing_follows operations ..).mp hRead⟩
  · intro h
    obtain ⟨created, held, middle, hCreate, hRead⟩ := h
    exact ⟨created, _, Action.onSecond_ok_iff.mpr ⟨hCreate, rfl⟩, _, _,
      (readReusing_follows operations ..).mpr hRead, rfl⟩

/-- A comparison passes exactly when the checker says equal, and it leaves the state alone. -/
theorem deepEquals_ok_iff {suite : Suite C} {property message : String} {expected actual : t.Val}
    {state last : σ} :
    (suite.deepEquals property message expected actual).outcome state = (.ok (), last) ↔
      suite.checker.equals t expected actual = .ok true ∧ state = last := by
  rw [deepEquals, Action.bind_ok_iff]
  constructor
  · intro h
    obtain ⟨equal, middle, hCompared, hRest⟩ := h
    obtain ⟨hEqual, rfl⟩ := Prod.mk.inj hCompared
    cases equal with
    | false => simp at hRest
    | true => exact ⟨hEqual, (Prod.mk.inj hRest).2⟩
  · intro h
    obtain ⟨hEqual, rfl⟩ := h
    exact ⟨true, state, by simp [hEqual], rfl⟩

theorem checkAvailable_ok_iff {property message : String} {input : InputChannel} {state last : σ} :
    (checkAvailable property message input).outcome state = (.ok (), last) ↔
      input.available ≠ 0 ∧ state = last := by
  by_cases h : input.available = 0 <;> simp [checkAvailable, h]

theorem checkConsumed_ok_iff {property message : String} {input : InputChannel} {state last : σ} :
    (checkConsumed property message input).outcome state = (.ok (), last) ↔
      input.available = 0 ∧ state = last := by
  by_cases h : input.available = 0 <;> simp [checkConsumed, h]

theorem checkCount_ok_iff {suite : Suite C} {property message : String} {count : Nat} {state last : σ} :
    (suite.checkCount property message count).outcome state = (.ok (), last) ↔
      count = suite.fixture.samples.length ∧ state = last := by
  by_cases h : count = suite.fixture.samples.length <;> simp [checkCount, h]

/-- A guard changes failures only. -/
theorem guarded_ok_iff {α : Type} {property : String} {check : Action σ α} {a : α} {state last : σ} :
    (guarded property check).outcome state = (.ok a, last) ↔ check.outcome state = (.ok a, last) := by
  simp only [guarded, Action.outcome]
  rcases check state with ⟨_ | b, middle⟩
  · simp
  · rfl

theorem serializeOne_ok_iff {operations : Operations σ t.Val} {v : t.Val} {out : OutputChannel}
    {state last : σ} :
    (serializeOne operations v).outcome state = (.ok out, last) ↔
      Serializes operations v ({}, state) (out, last) := by
  rw [serializeOne, Action.bind_ok_iff]
  constructor
  · intro h
    obtain ⟨⟨_, _⟩, _, hSerialize, rfl, rfl⟩ := h
    exact Action.withLocal_ok_iff.mp hSerialize
  · exact fun hSerialize => ⟨((), out), last, Action.withLocal_ok_iff.mpr hSerialize, rfl⟩

/-! ## Loops -/

/-- A loop passes exactly when its steps pass one after the other. -/
theorem forM_ok_iff {ε : Type} {f : ε → Action σ Unit} {xs : List ε} {state last : σ} :
    (xs.forM f).outcome state = (.ok (), last) ↔
      Successive (fun x before after => (f x).outcome before = (.ok (), after)) xs state last := by
  induction xs generalizing state with
  | nil => simp [List.forM, Successive.nil_iff]
  | cons x xs ih =>
      rw [List.forM, Action.then_ok_iff, Successive.cons_iff]
      simp only [ih]

/-- The samples can be written exactly when each can be written behind the ones before. -/
theorem serializeAll_ok_iff {operations : Operations σ t.Val} {samples : List t.Val}
    {state last : OutputChannel × σ} :
    (serializeAll operations samples).outcome state = (.ok (), last) ↔
      Successive (Serializes operations) samples state last := by
  induction samples generalizing state with
  | nil => simp [serializeAll, Successive.nil_iff]
  | cons v rest ih =>
      rw [serializeAll, Action.then_ok_iff, Successive.cons_iff]
      simp only [ih, Serializes]

/-- As many values can be copied as there are samples exactly when each single copy passes. -/
theorem copyAll_ok_iff {operations : Operations σ t.Val} {samples : List t.Val}
    {state last : (InputChannel × OutputChannel) × σ} :
    (copyAll operations samples.length).outcome state = (.ok (), last) ↔
      Successive (RawCopies operations) samples state last := by
  induction samples generalizing state with
  | nil => simp [copyAll, Successive.nil_iff]
  | cons v rest ih =>
      rw [List.length_cons, copyAll, Action.then_ok_iff, Successive.cons_iff]
      simp only [ih, RawCopies]

section Reading

variable {reader : Reader σ ρ t.Val}
    {reads : t.Val → (ρ × InputChannel) × σ → (ρ × InputChannel) × σ → Prop}

/-- One value is read and compared before anything else is done. -/
theorem compare_ok_iff (hReader : Follows reader reads) {suite : Suite C} {property message : String}
    {v : t.Val} {carried : ρ} {input : InputChannel} {β : Type} (next : ρ → InputChannel → Action σ β)
    {b : β} {state last : σ} :
    (do
      let ((actual, carried), input) ← Action.withLocal input (reader carried)
      suite.deepEquals property message v actual
      next carried input : Action σ β).outcome state = (.ok b, last) ↔
      ∃ actual carried' input' middle, reads actual ((carried, input), state) ((carried', input'), middle) ∧
        suite.checker.equals t v actual = .ok true ∧
          (next carried' input').outcome middle = (.ok b, last) := by
  rw [Action.bind_ok_iff]
  constructor
  · intro h
    obtain ⟨⟨⟨actual, carried'⟩, input'⟩, middle, hRead, hRest⟩ := h
    obtain ⟨_, hCompared, hNext⟩ := Action.then_ok_iff.mp hRest
    obtain ⟨hEqual, rfl⟩ := deepEquals_ok_iff.mp hCompared
    exact ⟨actual, carried', input', middle, (hReader ..).mp (Action.withLocal_ok_iff.mp hRead), hEqual,
      hNext⟩
  · intro h
    obtain ⟨actual, carried', input', middle, hRead, hEqual, hNext⟩ := h
    refine ⟨((actual, carried'), input'), middle,
      Action.withLocal_ok_iff.mpr ((hReader ..).mpr hRead), ?_⟩
    exact Action.then_ok_iff.mpr ⟨middle, deepEquals_ok_iff.mpr ⟨hEqual, rfl⟩, hNext⟩

/-- The loop counts as many elements as are expected exactly on a stream that is read back and then
exhausted. -/
theorem compareStream_ok_iff (hReader : Follows reader reads) {suite : Suite C} {property : String}
    {samples : List t.Val} {carried : ρ} {input : InputChannel} (count : Nat) {state last : σ} :
    (suite.compareStream property reader samples carried input count).outcome state =
        (.ok (count + samples.length), last) ↔
      ∃ carried' input', Successive (suite.ReadsBack reads) samples ((carried, input), state)
        ((carried', input'), last) ∧ input'.available = 0 := by
  induction samples generalizing count carried input state with
  | nil =>
      rw [compareStream]
      by_cases hAvailable : input.available = 0
      · simp only [hAvailable, if_true, Action.outcome_pure, Successive.nil_iff, List.length_nil,
          Nat.add_zero]
        constructor
        · intro h
          obtain ⟨rfl⟩ := h
          exact ⟨carried, input, rfl, hAvailable⟩
        · intro h
          obtain ⟨_, _, ⟨rfl⟩, _⟩ := h
          rfl
      · simp [hAvailable, Successive.nil_iff]
  | cons v rest ih =>
      rw [compareStream]
      by_cases hAvailable : input.available = 0
      · simp [hAvailable, Successive.cons_iff, ReadsBack]
      · have hCount : count + (v :: rest).length = count + 1 + rest.length := by
          rw [List.length_cons]
          omega
        rw [if_neg hAvailable, hCount]
        refine (compare_ok_iff hReader fun carried input =>
          suite.compareStream property reader rest carried input (count + 1)).trans ?_
        simp only [ih, Successive.cons_iff, ReadsBack]
        constructor
        · intro h
          obtain ⟨actual, carried', input', middle, hRead, hEqual, carried'', input'', hRest, hEnd⟩ := h
          exact ⟨carried'', input'', ⟨_, ⟨hAvailable, actual, hRead, hEqual⟩, hRest⟩, hEnd⟩
        · intro h
          obtain ⟨carried'', input'', ⟨⟨⟨carried', input'⟩, middle⟩, ⟨-, actual, hRead, hEqual⟩,
            hRest⟩, hEnd⟩ := h
          exact ⟨actual, carried', input', middle, hRead, hEqual, carried'', input'', hRest, hEnd⟩

/-- One comparison passes exactly when the reading gives an equal value and consumes the input. -/
theorem compareOne_ok_iff (hReader : Follows reader reads) {suite : Suite C} {property : String}
    {v : t.Val} {carried carried' : ρ} {input : InputChannel} {state last : σ} :
    (suite.compareOne property reader carried v input).outcome state = (.ok carried', last) ↔
      ∃ actual input', reads actual ((carried, input), state) ((carried', input'), last) ∧
        suite.checker.equals t v actual = .ok true ∧ input'.available = 0 := by
  refine (compare_ok_iff hReader fun carried input => do
    checkConsumed property trailingData input
    return carried).trans ?_
  constructor
  · intro h
    obtain ⟨actual, _, input', middle, hRead, hEqual, hRest⟩ := h
    obtain ⟨_, hConsumed, rfl, rfl⟩ := Action.then_ok_iff.mp hRest
    obtain ⟨hEnd, rfl⟩ := checkConsumed_ok_iff.mp hConsumed
    exact ⟨actual, input', hRead, hEqual, hEnd⟩
  · intro h
    obtain ⟨actual, input', hRead, hEqual, hEnd⟩ := h
    exact ⟨actual, carried', input', last, hRead, hEqual,
      Action.then_ok_iff.mpr ⟨last, checkConsumed_ok_iff.mpr ⟨hEnd, rfl⟩, rfl⟩⟩

/-- The individual comparisons pass exactly when each sample reads back alone. -/
theorem individually_ok_iff (hReader : Follows reader reads) {suite : Suite C} {property : String}
    {operations : Operations σ t.Val} {samples : List t.Val} {carried : ρ} {state last : σ} :
    (suite.individually property operations reader carried samples).outcome state = (.ok (), last) ↔
      ∃ carried', Successive (suite.ReadsBackAlone operations reads) samples (carried, state)
        (carried', last) := by
  induction samples generalizing carried state with
  | nil => simp [individually, Successive.nil_iff]
  | cons v rest ih =>
      rw [individually, Action.bind_ok_iff]
      simp only [serializeOne_ok_iff, Action.then_ok_iff, checkAvailable_ok_iff]
      simp only [Action.bind_ok_iff, compareOne_ok_iff hReader, ih, Successive.cons_iff]
      constructor
      · intro h
        obtain ⟨out, middle, hSerialize, _, ⟨hAvailable, rfl⟩, carried', next, ⟨actual, input, hRead,
          hEqual, hEnd⟩, carried'', hRest⟩ := h
        exact ⟨carried'', (carried', next),
          ⟨out, input, middle, hSerialize, ⟨hAvailable, actual, hRead, hEqual⟩, hEnd⟩, hRest⟩
      · intro h
        obtain ⟨carried'', ⟨carried', next⟩, ⟨out, input, middle, hSerialize, ⟨hAvailable, actual,
          hRead, hEqual⟩, hEnd⟩, hRest⟩ := h
        exact ⟨out, middle, hSerialize, middle, ⟨hAvailable, rfl⟩, carried', next,
          ⟨actual, input, hRead, hEqual, hEnd⟩, carried'', hRest⟩

/-- A stream passes exactly when it reads back as the list of samples: no more, no less. -/
theorem compareStream_checkCount_ok_iff (hReader : Follows reader reads) {suite : Suite C}
    {property message : String} {carried : ρ} {input : InputChannel} {state last : σ} :
    (do
      let count ← suite.compareStream property reader suite.fixture.samples carried input 0
      suite.checkCount property message count : Action σ Unit).outcome state = (.ok (), last) ↔
      suite.ReadsBackAll reads carried input state last := by
  rw [ReadsBackAll, ← compareStream_ok_iff hReader 0, Nat.zero_add, Action.bind_ok_iff]
  constructor
  · intro h
    obtain ⟨count, middle, hStream, hCount⟩ := h
    obtain ⟨rfl, rfl⟩ := checkCount_ok_iff.mp hCount
    exact hStream
  · exact fun hStream => ⟨_, last, hStream, checkCount_ok_iff.mpr ⟨rfl, rfl⟩⟩

end Reading

end Suite

end SerializerContract
