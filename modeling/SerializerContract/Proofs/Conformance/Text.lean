import SerializerContract.Proofs.Conformance.Codec
import SerializerContract.Proofs.Conformance.Objects
import SerializerContract.Sample.Text

/-! Serializers of texts conform, with a limit and without one. A limit only refuses what is longer, so
everything about texts within the limit is as it is without one. -/
namespace SerializerContract

/-- The most bytes that a text may have. -/
def TextConfig.most : TextConfig → Nat
  | .unbounded => Width.w32.maximum
  | .bounded limit => limit.toNat

theorem TextConfig.most_le (config : TextConfig) : config.most ≤ Width.w32.maximum := by
  cases config with
  | unbounded => exact Nat.le_refl _
  | bounded limit =>
      have hLimit : limit.toNat < 2 ^ 32 := limit.isLt
      exact Nat.le_of_lt_succ hLimit

/-- One configuration can take over what was written with another one if both have a limit that did not
shrink, or none. A text with a limit is not taken over without one: that is another type of serializer. -/
def TextConfig.Compatible : TextConfig → TextConfig → Prop
  | .unbounded, .unbounded => True
  | .bounded limit, .bounded other => limit ≤ other
  | _, _ => False

/-- What may be read back by another serializer is no longer than that one allows. -/
theorem TextConfig.Compatible.most_le {config other : TextConfig} (h : config.Compatible other) :
    config.most ≤ other.most := by
  cases config with
  | unbounded =>
      cases other with
      | unbounded => exact Nat.le_refl _
      | bounded limit => exact h.elim
  | bounded limit =>
      cases other with
      | unbounded => exact h.elim
      | bounded limit' => exact h

namespace TextSerializer

variable {A : Type} {ofAny : A → Option TextConfig} {config : TextConfig} {x : TextSerializer}

/-- What is known of serializers of texts of one configuration. -/
def world (config : TextConfig) : World Store TextSerializer TextConfig ValueType.string.Val :=
  .ofObjects config config (fun _ _ => True) (fun v : Bytes => v.length ≤ config.most) Eq textBytes
    variableLength

theorem world_keeps_refl (config : TextConfig) (store : Store) : (world config).Keeps store store :=
  World.Keeps.refl _ store

theorem checkLength_of_le {limit : BitVec 32} {n : Nat} (h : n ≤ limit.toNat) : checkLength limit n = .ok () :=
  if_neg (Nat.not_lt.mpr h)

/-! ## Values -/

/-- A text within the limit is read into any target. -/
theorem readBounded_succeeds {limit : BitVec 32} {v : Bytes} {input : InputChannel} {suffix : Bytes}
    {store : Store} (hLimit : v.length ≤ limit.toNat) (hTrips : stringCodec.Trips v (textBytes v))
    (hInput : input.rest = textBytes v ++ suffix) (hLength : input.rest.length ≤ Bytes.longest)
    (target : Bytes) :
    (readBounded limit).Succeeds ((target, input), store) fun _ last =>
      last.1.1 = v ∧ last.1.2.rest = suffix ∧ last.2 = store := by
  apply (InputChannel.readInto_succeeds hTrips hInput hLength target).onFirst.bind
  intro _ middle hRead
  obtain ⟨⟨held, input'⟩, store'⟩ := middle
  obtain ⟨⟨rfl, hRest⟩, rfl⟩ := hRead
  refine ⟨(), ((held, input'), store'), ?_, rfl, hRest, rfl⟩
  refine Action.bind_ok_iff.mpr ⟨_, _, rfl, ?_⟩
  exact congrArg (fun result => (result, ((held, input'), store'))) (checkLength_of_le hLimit)

theorem bounded_deserialize_outcome {limit : BitVec 32} {v : Bytes} {input input' : InputChannel}
    {store last : Store}
    (h : (readBounded limit).outcome (([], input), store) = (.ok (), ((v, input'), last))) :
    (bounded limit).deserialize.outcome (input, store) = (.ok v, (input', last)) := by
  simp only [bounded, Action.of, Action.outcome] at h ⊢
  rw [h]
  rfl

/-- A text within the limit is written behind whatever is there. -/
theorem serialize_succeeds {v : Bytes} (hDomain : v.length ≤ x.config.most) (out : OutputChannel)
    (store : Store) : (x.operations.serialize v).Succeeds (out, store) fun _ last =>
      last.1 = out.appended (textBytes v) ∧ last.2 = store := by
  obtain ⟨id, config⟩ := x
  have hTrips : stringCodec.Trips v (textBytes v) := stringCodec_trips (Nat.le_trans hDomain config.most_le)
  cases config with
  | unbounded => exact Operations.ofCodec_serialize_succeeds hTrips out
  | bounded limit =>
      apply (Action.ofExcept_succeeds (checkLength_of_le hDomain)).bind
      intro _ _ hSame
      obtain ⟨-, rfl⟩ := hSame
      exact (OutputChannel.write_succeeds hTrips out).onFirst

/-- A text within the limit is written as its length and its bytes. -/
theorem world_serializes : (world config).Serializes (contract ofAny) := by
  intro x store v out hLive hDomain _
  apply (serialize_succeeds (hLive.1 ▸ hDomain) out store).mono
  intro _ last hWritten
  exact ⟨hWritten.1, hWritten.2 ▸ world_keeps_refl _ _⟩

/-- A text is refused if it is longer than the limit, or than its length field can say. -/
theorem length_le_of_serialize {v : Bytes} {out : OutputChannel} {store : Store}
    {last : OutputChannel × Store} (h : (x.operations.serialize v).outcome (out, store) = (.ok (), last)) :
    v.length ≤ x.config.most := by
  obtain ⟨id, config⟩ := x
  cases config with
  | unbounded =>
      have h : (Action.onFirst (OutputChannel.write stringCodec v)).outcome (out, store) = (.ok (), last) := h
      have hWritten := (Action.onFirst_ok_iff.mp h).1
      exact Codec.length_le_of_complete (OutputChannel.complete_of_write (congrArg Prod.fst hWritten))
  | bounded limit =>
      obtain ⟨middle, hChecked, -⟩ := Action.then_ok_iff.mp h
      by_cases hLonger : limit.toNat < v.length
      · have hRefused : checkLength limit v.length = .error _ := if_pos hLonger
        rw [hRefused] at hChecked
        nomatch hChecked
      · exact Nat.le_of_not_lt hLonger

theorem world_writesOnly : (world config).WritesOnly (contract ofAny) := by
  intro x store v out last hLive hWritten
  have hDomain := length_le_of_serialize hWritten
  obtain ⟨hOut, hSame⟩ := (serialize_succeeds hDomain out store).of_outcome hWritten
  exact ⟨hLive.1 ▸ hDomain, hOut, hSame ▸ world_keeps_refl _ _⟩

/-- A text within the limit is read back. -/
theorem world_deserializes : (world config).Deserializes (contract ofAny) := by
  intro x store v input suffix hLive hDomain hInput hRoom
  obtain ⟨id, config⟩ := x
  obtain ⟨rfl, -⟩ := hLive
  have hTrips : stringCodec.Trips v (textBytes v) := stringCodec_trips (Nat.le_trans hDomain config.most_le)
  cases config with
  | unbounded =>
      apply (InputChannel.read_succeeds hTrips hInput hRoom).onFirst.mono
      intro w last hRead
      exact ⟨hRead.1.1.symm, hRead.1.2, hRead.2 ▸ world_keeps_refl _ _⟩
  | bounded limit =>
      have hRead : (readBounded limit).Succeeds (([], input), store) fun _ last =>
          last.1.1 = v ∧ last.1.2.rest = suffix ∧ last.2 = store :=
        readBounded_succeeds hDomain hTrips hInput hRoom []
      obtain ⟨_, ⟨⟨held, input'⟩, store'⟩, hOutcome, rfl, hRest, rfl⟩ := hRead
      exact ⟨held, (input', store'), bounded_deserialize_outcome hOutcome, rfl, hRest, world_keeps_refl _ _⟩

theorem world_readsIntoTarget : (world config).ReadsIntoTarget (contract ofAny) := by
  intro x store v target input suffix hLive hDomain hInput hRoom
  obtain ⟨id, config⟩ := x
  obtain ⟨rfl, -⟩ := hLive
  have hTrips : stringCodec.Trips v (textBytes v) := stringCodec_trips (Nat.le_trans hDomain config.most_le)
  cases config with
  | unbounded =>
      apply (Operations.readIntoTarget_succeeds hTrips hInput hRoom target).mono
      intro returned last hRead
      obtain ⟨rfl, hHeld, hRest, hSame⟩ := hRead
      exact ⟨rfl, hHeld.symm, hRest, hSame ▸ world_keeps_refl _ _⟩
  | bounded limit =>
      apply (readBounded_succeeds hDomain hTrips hInput hRoom target).bind
      intro _ last hRead
      obtain ⟨hHeld, hRest, hSame⟩ := hRead
      exact Action.pure_succeeds ⟨rfl, hHeld.symm, hRest, hSame ▸ world_keeps_refl _ _⟩

/-- A text is copied without being read: its length says how many bytes go along. -/
theorem world_rawCopies : (world config).RawCopies (contract ofAny) := by
  intro x store v input suffix out hLive hDomain hInput hRoom _
  obtain ⟨id, config⟩ := x
  obtain ⟨rfl, -⟩ := hLive
  have hCount : v.length ≤ Width.w32.maximum := Nat.le_trans hDomain config.most_le
  have hBody : v.length = v.length * 1 := (Nat.mul_one _).symm
  have hCopies : ∀ check : Nat → Except Failure Unit, check v.length = .ok () →
      (Operations.rawCopyCounted 1 check).Succeeds (input, out) fun _ last =>
        last.1.rest = suffix ∧ last.2 = out.appended (textBytes v) :=
    fun check hCheck => Operations.rawCopyCounted_succeeds hCheck hCount hBody hInput hRoom out
  cases config with
  | unbounded =>
      apply (hCopies Operations.anyLength rfl).onFirst.mono
      intro _ last hCopied
      exact ⟨hCopied.1.1, hCopied.1.2, hCopied.2 ▸ world_keeps_refl _ _⟩
  | bounded limit =>
      apply (hCopies (checkLength limit) (checkLength_of_le hDomain)).onFirst.mono
      intro _ last hCopied
      exact ⟨hCopied.1.1, hCopied.1.2, hCopied.2 ▸ world_keeps_refl _ _⟩

/-- What does not look at the limit is the same for all serializers of texts. -/
theorem world_handles (config : TextConfig) : (world config).Handles (contract ofAny) where
  like_trans := fun _ _ _ => Eq.trans
  domain_like := fun _ _ hDomain hSame => hSame ▸ hDomain
  creates := by
    intro x store hLive
    obtain ⟨id, _ | limit⟩ := x
    · exact Action.pure_succeeds ⟨rfl, rfl, world_keeps_refl _ _⟩
    · exact Action.pure_succeeds ⟨rfl, rfl, world_keeps_refl _ _⟩
  copies := by
    intro x store v hLive _
    obtain ⟨id, _ | limit⟩ := x
    · exact Action.pure_succeeds ⟨rfl, world_keeps_refl _ _⟩
    · exact Action.pure_succeeds ⟨rfl, world_keeps_refl _ _⟩
  copiesInto := by
    intro x store v target hLive _
    obtain ⟨id, _ | limit⟩ := x
    · exact ⟨.target, (v, store), rfl, rfl, rfl, world_keeps_refl _ _⟩
    · exact ⟨.target, (v, store), rfl, rfl, rfl, world_keeps_refl _ _⟩
  serializes := world_serializes
  deserializes := world_deserializes
  readsIntoTarget := world_readsIntoTarget
  rawCopies := world_rawCopies
  writesSome := by
    intro x store v _ _
    refine List.ne_nil_of_length_pos ?_
    have hLength : ((world config).bytes x v).length = 4 + List.length (α := UInt8) v := length_textBytes v
    omega
  measures := by
    intro x store hLive
    obtain ⟨id, _ | limit⟩ := x
    · exact Action.pure_succeeds ⟨rfl, world_keeps_refl _ _⟩
    · exact Action.pure_succeeds ⟨rfl, world_keeps_refl _ _⟩
  hasLength := fun hPositive => absurd hPositive (by decide : ¬ 0 < variableLength)
  length_ne_zero := (by decide : variableLength ≠ 0)
  length_lt := (by decide : variableLength < 0x7fffffff)

/-! ## Snapshots -/

/-- The payload of a snapshot: the limit, if there is one. -/
def payloadOf : TextConfig → Bytes
  | .unbounded => []
  | .bounded limit => wordBytes limit

/-- The limit is read back from the payload of a snapshot, whatever limit was there. -/
theorem readPayload_bounded_succeeds (limit other : BitVec 32) (store : Store) :
    (TextConfig.readPayload 2).Succeeds ((.bounded other, InputChannel.ofBytes (wordBytes limit)), store)
      fun _ last => last.1.2.rest = [] ∧ last.1.1 = .bounded limit ∧ last.2 = store := by
  have hInput : (InputChannel.ofBytes (wordBytes limit)).rest = wordBytes limit ++ [] :=
    (List.append_nil _).symm
  have hLength : (InputChannel.ofBytes (wordBytes limit)).rest.length ≤ Bytes.longest := by
    rw [hInput, List.append_nil, length_wordBytes]
    decide
  obtain ⟨read, input, hRead, hSame, hRest⟩ :=
    InputChannel.read_succeeds (wordCodec_trips limit) hInput hLength
  refine ⟨(), ((.bounded read, input), store), ?_, hRest, congrArg TextConfig.bounded hSame, rfl⟩
  refine Action.bind_ok_iff.mpr ⟨_, _, rfl, ?_⟩
  refine Action.bind_ok_iff.mpr ⟨read, ((.bounded other, input), store), ?_, rfl⟩
  exact Action.onFirst_ok_iff.mpr ⟨Action.onSecond_ok_iff.mpr ⟨hRead, rfl⟩, rfl⟩

theorem described (config : TextConfig) : (contract ofAny).Described config config (payloadOf config)
    fun made => made.snapshotIdent = config.snapshotIdent where
  takes := by
    intro x hConfig
    rw [← hConfig]
    rfl
  id_le := by
    have hShort : ∀ ident ∈ ["StringSerializerSnapshot", "BoundedStringSerializerSnapshot"],
      (sampleId ident).length ≤ Width.w32.maximum := by decide
    cases config with
    | unbounded => exact hShort _ List.mem_cons_self
    | bounded limit => exact hShort _ (List.mem_cons_of_mem _ List.mem_cons_self)
  payload_le := by
    cases config with
    | unbounded => exact Nat.zero_le _
    | bounded limit =>
        rw [payloadOf, length_wordBytes]
        decide
  emptyType := fun made hMade => congrArg (fun ident => (sampleType ident).text) hMade
  writes := by
    intro store
    cases config with
    | unbounded => exact ⟨(), ({}, store), rfl, rfl, rfl⟩
    | bounded limit =>
        apply (OutputChannel.write_succeeds (wordCodec_trips limit) {}).onFirst.mono
        intro _ last hWritten
        exact ⟨congrArg OutputChannel.data hWritten.1, hWritten.2⟩
  reads := by
    intro registry made store hMade
    have hDiffer : "BoundedStringSerializerSnapshot" ≠ "StringSerializerSnapshot" := by decide
    cases config with
    | unbounded =>
        cases made with
        | unbounded => exact ⟨(), _, rfl, rfl, rfl, rfl⟩
        | bounded other => exact absurd hMade hDiffer
    | bounded limit =>
        cases made with
        | unbounded => exact absurd hMade hDiffer.symm
        | bounded other => exact readPayload_bounded_succeeds limit other store
  restore := rfl
  typeName := by
    intro x y hConfig hConfig'
    change (typeName x).text = (typeName y).text
    rw [typeName, typeName, hConfig, hConfig']

theorem configured (config : TextConfig) : (contract ofAny).Configured config config where
  duplicate := by
    intro x hConfig
    rw [← hConfig]
    rfl
  equals := by
    intro x y hConfig hConfig'
    have hSame : (x.config == y.config) = true := by rw [hConfig, hConfig', beq_self_eq_true]
    exact congrArg pure hSame
  resolve := by
    intro y hConfig
    obtain ⟨id, config'⟩ := y
    obtain rfl := hConfig
    cases config' with
    | unbounded => exact .inl rfl
    | bounded limit =>
        refine .inr ?_
        exact if_neg (BitVec.lt_irrefl limit)

/-- Limits are compared, and a compatible snapshot restores its own limit. -/
theorem world_resolvesWith (old new : TextConfig) :
    (world old).ResolvesWith (world new) (contract ofAny) (old.Compatible new) := by
  intro n x y store hDescribes hLive hLive'
  obtain rfl := hDescribes
  obtain ⟨id, config⟩ := y
  obtain ⟨rfl, -⟩ := hLive'
  cases n with
  | unbounded =>
      cases config with
      | unbounded => exact Action.pure_succeeds ⟨world_keeps_refl _ _, .inr ⟨trivial, .inl rfl⟩⟩
      | bounded other => exact Action.pure_succeeds ⟨world_keeps_refl _ _, .inl ⟨False.elim, rfl⟩⟩
  | bounded limit =>
      cases config with
      | unbounded => exact Action.pure_succeeds ⟨world_keeps_refl _ _, .inl ⟨False.elim, rfl⟩⟩
      | bounded other =>
          change (if other < limit then return .incompatible
            else return .reconfigured (some (← Object.make (.bounded limit))) :
              Action Store (Compatibility TextSerializer)).Succeeds store _
          by_cases hShrunk : other < limit
          · rw [if_pos hShrunk]
            exact Action.pure_succeeds ⟨world_keeps_refl _ _, .inl ⟨BitVec.not_le.mpr hShrunk, rfl⟩⟩
          · rw [if_neg hShrunk]
            apply (World.ofObjects_make_succeeds store).bind
            intro z last hMade
            obtain ⟨hLiveNew, -, hKeeps⟩ := hMade
            have hDescribed : (contract ofAny).Described _ _ _ _ := described (.bounded limit)
            have hType := hDescribed.typeName z x hLiveNew.1 hLive.1
            exact Action.pure_succeeds
              ⟨hKeeps, .inr ⟨BitVec.not_lt.mp hShrunk, .inr ⟨z, rfl, hLiveNew, hType, trivial⟩⟩⟩

/-- Serializers of texts conform to the contract, with a limit or without, also inside a wrapper. -/
theorem world_wrappable {registry : Registry Store A}
    (hRegistered : (contract ofAny).Registered registry (sampleId config.snapshotIdent)
      fun made => made.snapshotIdent = config.snapshotIdent) :
    (world config).Wrappable (contract ofAny) registry
      ((contract ofAny).framed config (payloadOf config)) :=
  World.ofObjects_wrappable (described config) hRegistered (configured config) (world_handles config)

end TextSerializer

end SerializerContract
