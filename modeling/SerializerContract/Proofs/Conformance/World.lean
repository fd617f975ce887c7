import SerializerContract.Proofs.Channel
import SerializerContract.Suite.Checks

/-! Conforming serializers. A world says what is known of some serializers in every state that can occur;
each part of the contract says how one operation behaves in such a state, whatever was called before. No
operation takes back what is known of any serializer, so serializers share nothing that could be
noticed. -/
namespace SerializerContract

/-- What is known of some serializers, and of the values they are about. Everything that concerns a
serializer is relative to a state, because an operation may make new ones. -/
structure World (σ S N α : Type) where
  /-- The states in which a serializer can be asked for. -/
  valid : σ → Prop
  /-- The serializers that can be used. -/
  live : S → σ → Prop
  /-- The serializers that are configured the same way. -/
  alike : S → S → σ → Prop
  /-- The snapshots that describe a serializer. -/
  describes : N → S → σ → Prop
  /-- The values that the serializers are about. -/
  domain : α → Prop
  /-- The values that are as good as an original. -/
  like : α → α → Prop
  /-- What a serializer writes for a value. -/
  bytes : S → α → Bytes
  /-- The length that all serializers report. -/
  length : Int
  /-- The number of bytes that every channel has room for. -/
  room : Nat

namespace World

variable {σ A S N : Type} {t : ValueType}

/-- Nothing that was known in the first state is lost in the second. -/
structure Keeps (W : World σ S N t.Val) (before after : σ) : Prop where
  valid : W.valid before → W.valid after
  live : ∀ x, W.live x before → W.live x after
  alike : ∀ x y, W.alike x y before → W.alike x y after
  describes : ∀ n x, W.describes n x before → W.describes n x after

theorem Keeps.refl (W : World σ S N t.Val) (state : σ) : W.Keeps state state :=
  ⟨id, fun _ => id, fun _ _ => id, fun _ _ => id⟩

/-- What is kept twice is kept. -/
theorem Keeps.trans {W : World σ S N t.Val} {first second third : σ} (h : W.Keeps first second)
    (h' : W.Keeps second third) : W.Keeps first third :=
  ⟨fun hValid => h'.valid (h.valid hValid), fun x hLive => h'.live x (h.live x hLive),
    fun x y hAlike => h'.alike x y (h.alike x y hAlike),
    fun n x hDescribes => h'.describes n x (h.describes n x hDescribes)⟩

variable (W : World σ S N t.Val) (C : Contract σ A t S N)

/-- The bytes of some values, one after the other. -/
def stream (x : S) (samples : List t.Val) : Bytes := samples.flatMap (W.bytes x)

@[simp] theorem stream_nil (x : S) : W.stream x [] = [] := rfl

@[simp] theorem stream_cons (x : S) (v : t.Val) (rest : List t.Val) :
    W.stream x (v :: rest) = W.bytes x v ++ W.stream x rest :=
  List.flatMap_cons

/-! ## Values -/

/-- Instances can be created; they are not null, and of the type that the fixture is about. -/
def Creates (accepts : t.Val → Bool) : Prop :=
  ∀ x state, W.live x state → (C.operations x).create.Succeeds state fun v last =>
    t.isNull v = false ∧ accepts v = true ∧ W.Keeps state last

/-- A copy is as good as the original. -/
def Copies : Prop :=
  ∀ x state v, W.live x state → W.domain v → ((C.operations x).copy v).Succeeds state fun w last =>
    W.like v w ∧ W.Keeps state last

/-- Any reuse target is the copy in the end, and it is what is returned. -/
def CopiesInto : Prop :=
  ∀ x state v target, W.live x state → W.domain v →
    ((C.operations x).copyInto v).Succeeds (target, state) fun returned last =>
      returned = .target ∧ W.like v last.1 ∧ W.Keeps state last.2

/-! ## Bytes -/

/-- The bytes of a value are added behind whatever is there. -/
def Serializes : Prop :=
  ∀ x state v (out : OutputChannel), W.live x state → W.domain v →
    out.size + (W.bytes x v).length ≤ W.room →
    ((C.operations x).serialize v).Succeeds (out, state) fun _ last =>
      last.1 = out.appended (W.bytes x v) ∧ W.Keeps state last.2

/-- The bytes of a value are read back, whatever is behind them, and nothing more is read. -/
def Deserializes : Prop :=
  ∀ x state v (input : InputChannel) suffix, W.live x state → W.domain v →
    input.rest = W.bytes x v ++ suffix → input.rest.length ≤ W.room →
    (C.operations x).deserialize.Succeeds (input, state) fun w last =>
      W.like v w ∧ last.1.rest = suffix ∧ W.Keeps state last.2

/-- The bytes of a value are read back into any reuse target. -/
def DeserializesInto : Prop :=
  ∀ x state v target (input : InputChannel) suffix, W.live x state → W.domain v →
    input.rest = W.bytes x v ++ suffix → input.rest.length ≤ W.room →
    (C.operations x).deserializeInto.Succeeds ((target, input), state) fun returned last =>
      W.like v (returned.value last.1.1) ∧ last.1.2.rest = suffix ∧ W.Keeps state last.2

/-- Exactly the bytes of a value are moved. -/
def RawCopies : Prop :=
  ∀ x state v (input : InputChannel) suffix (out : OutputChannel), W.live x state → W.domain v →
    input.rest = W.bytes x v ++ suffix → input.rest.length ≤ W.room →
    out.size + (W.bytes x v).length ≤ W.room →
    (C.operations x).rawCopy.Succeeds ((input, out), state) fun _ last =>
      last.1.1.rest = suffix ∧ last.1.2 = out.appended (W.bytes x v) ∧ W.Keeps state last.2

/-- Every value is written as some bytes. -/
def WritesSome : Prop :=
  ∀ x state v, W.live x state → W.domain v → W.bytes x v ≠ []

/-! ## Configurations -/

/-- Every serializer reports the same length. -/
def Measures : Prop :=
  ∀ x state, W.live x state → (C.operations x).length.Succeeds state fun length last =>
    length = W.length ∧ W.Keeps state last

/-- A positive length is the length of every value. -/
def HasLength : Prop :=
  0 < W.length → ∀ x state v, W.live x state → W.domain v → ((W.bytes x v).length : Int) = W.length

/-- A duplicate is a serializer, and configured the same way. -/
def Duplicates : Prop :=
  ∀ x state, W.live x state → (C.duplicate x).Succeeds state fun duplicate last =>
    ∃ y, duplicate = some y ∧ W.live y last ∧ W.alike x y last ∧ W.Keeps state last

/-- Serializers that are configured the same way are equal, in either order. -/
structure Compares : Prop where
  symm : ∀ x y state, W.alike x y state → W.alike y x state
  equals : ∀ x y state, W.live x state → W.live y state → W.alike x y state →
    (C.equals x y).Succeeds state fun equal last => equal = true ∧ W.Keeps state last

/-! ## Snapshots -/

/-- A serializer has a snapshot that describes it. -/
def Snapshots : Prop :=
  ∀ x state, W.live x state → (C.snapshot x).Succeeds state fun snapshot last =>
    ∃ n, snapshot = some n ∧ W.describes n x last ∧ W.Keeps state last

/-- What a registry makes of the id of a snapshot is of the type of the snapshot. -/
def Registers (registry : Registry σ A) : Prop :=
  ∀ n x state, W.describes n x state →
    (C.instantiate registry (C.snapshotId n)).Succeeds state fun made last =>
      C.snapshotTypeName made = C.snapshotTypeName n ∧ W.Keeps state last

/-- A snapshot is read back from its bytes, all of them. -/
def RereadsSnapshots (registry : Registry σ A) : Prop :=
  ∀ n x state, W.describes n x state →
    (Action.withLocal {} (C.writeSnapshot n)).Succeeds state fun written middle =>
      (Action.withLocal written.2.inputView (C.readSnapshot registry)).Succeeds middle fun read last =>
        read.2.available = 0 ∧ W.describes read.1 x last ∧ W.Keeps state last

/-- A serializer that can replace another one: of the same type, and configured the same way. -/
structure Replaces (y x : S) (state : σ) : Prop where
  live : W.live y state
  type : C.typeName y = C.typeName x
  alike : W.alike y x state

/-- A snapshot restores a serializer that can replace the one it describes. -/
def Restores : Prop :=
  ∀ n x state, W.describes n x state → W.live x state →
    (C.restore n).Succeeds state fun restored last =>
      ∃ y, restored = some y ∧ W.Replaces C y x last ∧ W.Keeps state last

/-- A snapshot is compatible with every serializer, as it is or with one that can replace the serializer
that it describes. -/
def Resolves : Prop :=
  ∀ n x y state, W.describes n x state → W.live x state → W.live y state →
    (C.resolve n y).Succeeds state fun verdict last => W.Keeps state last ∧
      (verdict = .asIs ∨ ∃ z, verdict = .reconfigured (some z) ∧ W.Replaces C z x last)

/-! ## The whole contract -/

/-- Every operation of every serializer keeps the contract, whatever was called before. -/
structure Conforms (registry : Registry σ A) (accepts : t.Val → Bool) : Prop where
  like_trans : ∀ u v w, W.like u v → W.like v w → W.like u w
  domain_like : ∀ v w, W.domain v → W.like v w → W.domain w
  creates : W.Creates C accepts
  copies : W.Copies C
  copiesInto : W.CopiesInto C
  serializes : W.Serializes C
  deserializes : W.Deserializes C
  deserializesInto : W.DeserializesInto C
  rawCopies : W.RawCopies C
  writesSome : W.WritesSome
  measures : W.Measures C
  hasLength : W.HasLength
  length_ne_zero : W.length ≠ 0
  length_lt : W.length < 0x7fffffff
  duplicates : W.Duplicates C
  compares : W.Compares C
  snapshots : W.Snapshots C
  registers : W.Registers C registry
  rereadsSnapshots : W.RereadsSnapshots C registry
  restores : W.Restores C
  resolves : W.Resolves C

variable {C}

/-- A suite whose fixture hands out such serializers, and whose samples they are about. -/
structure Supplies (suite : Suite C) : Prop where
  creates : ∀ state, W.valid state → suite.fixture.createSerializer.Succeeds state fun created last =>
    ∃ x, created = some x ∧ W.live x last ∧ W.Keeps state last
  length : suite.fixture.length = W.length
  samples : ∀ v ∈ suite.fixture.samples, W.domain v
  /-- The checker takes everything that is as good as a sample for the sample. -/
  compares : ∀ v w, W.domain v → W.like v w → suite.checker.equals t v w = .ok true
  /-- There is room for all samples in one channel, and for one more byte. -/
  room : ∀ x state, W.live x state → (W.stream x suite.fixture.samples).length < W.room

/-- A suite whose samples some serializers are about, whoever is under test. -/
structure Judges (suite : Suite C) : Prop where
  samples : ∀ v ∈ suite.fixture.samples, W.domain v
  compares : ∀ v w, W.domain v → W.like v w → suite.checker.equals t v w = .ok true
  room : ∀ x state v, W.live x state → v ∈ suite.fixture.samples → (W.bytes x v).length < W.room

/-- The system grants what the duplication run asks for. -/
structure Affords (W : World σ S N t.Val) (suite : Suite C) : Prop where
  usable : suite.options.isUsable = true
  samples : suite.fixture.samples ≠ []
  workers : Duplication.reserve suite.options.workers = .ok ()
  channels : OutputChannel.reserve suite.options.capacity = .ok ()
  threads : ∀ state, W.valid state → suite.fixture.startThread.Succeeds state fun _ last =>
    W.Keeps state last

/-- There is room for every single sample. -/
theorem Supplies.room_sample {W : World σ S N t.Val} {suite : Suite C} (h : W.Supplies suite) {x : S}
    {state : σ} (hLive : W.live x state) {v : t.Val} (hSample : v ∈ suite.fixture.samples) :
    (W.bytes x v).length < W.room := by
  have hPart : (W.bytes x v).length ≤ (W.stream x suite.fixture.samples).length :=
    (List.sublist_flatten_of_mem (List.mem_map_of_mem hSample)).length_le
  exact Nat.lt_of_le_of_lt hPart (h.room x state hLive)

theorem Supplies.judges {W : World σ S N t.Val} {suite : Suite C} (h : W.Supplies suite) : W.Judges suite :=
  ⟨h.samples, h.compares, fun _ _ _ hLive hSample => h.room_sample hLive hSample⟩

end World

end SerializerContract
