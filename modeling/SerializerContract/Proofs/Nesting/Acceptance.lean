import SerializerContract.Proofs.Nesting.Interchange
import SerializerContract.Proofs.Snapshot.Acceptance
import SerializerContract.Proofs.Suite.Bench

/-! Snapshots of any number of wrappers that are read from any bytes. Whatever is read can be written again; it
restores a serializer that has this snapshot, unless one of its paddings is negative. -/
namespace SerializerContract

/-! ## Registries -/

/-- The empty snapshots of the library. -/
inductive Family.Empty : (f : Family) → f.Snapshot → Prop where
  | number : Empty .number NumberSnapshot.plain
  | unboundedText : Empty .text TextConfig.unbounded
  | boundedText : Empty .text (TextConfig.bounded 0)
  | numbers : Empty .numbers NumbersKind.plain
  | point : Empty .point ()
  | circle : Empty .circle ()
  | nullable (f : Family) : Empty (.nullable f) ({} : WrapperSnapshot f.Snapshot)

/-- A registry of such snapshots, each of them under its own id. -/
inductive Registry.OfLibrary : Registry Store Family.AnySnapshot → Prop where
  | nothing : OfLibrary {}
  | register {registry : Registry Store Family.AnySnapshot} {f : Family} {n : f.Snapshot}
      (h : OfLibrary registry) (hEmpty : f.Empty n) :
      OfLibrary (registry.register (f.contract.snapshotId n) (RegistryEntry.always (some ⟨f, n⟩)))

namespace Family

/-- A registry's snapshot of another family does not belong to this one. -/
theorem contract_ofAny_of_ne {f g : Family} (h : g ≠ f) (n : g.Snapshot) : f.contract.ofAny ⟨g, n⟩ = none := by
  have hOther : f.snapshotOf ⟨g, n⟩ = none := dif_neg h
  cases f <;> exact hOther

end Family

namespace Registry.OfLibrary

variable {registry : Registry Store Family.AnySnapshot}

/-- A registry of the library knows an identifier by an empty snapshot of one of the families, or not at all. -/
theorem find_cases (h : registry.OfLibrary) (id : Bytes) :
    registry.find id = none ∨ ∃ f, ∃ n : f.Snapshot, f.Empty n ∧ f.contract.snapshotId n = id ∧
      registry.find id = some (RegistryEntry.always (some ⟨f, n⟩)) := by
  induction h with
  | nothing => exact .inl rfl
  | @register registry f n h hEmpty ih =>
      by_cases hId : f.contract.snapshotId n = id
      · subst hId
        exact .inr ⟨f, n, hEmpty, rfl, Registry.find_register _ _⟩
      · rw [Registry.find_register_of_ne _ _ (Ne.symm hId)]
        exact ih

/-- What is registered for another family is as good as nothing. -/
theorem offers (h : registry.OfLibrary) (f : Family) (id : Bytes) :
    f.contract.Offers registry f.Empty id := by
  obtain hNone | ⟨g, n, hEmpty, hId, hFind⟩ := h.find_cases id
  · refine .nothing ("Unknown snapshot type " ++ Registry.quoted id) fun store => ?_
    rw [Contract.instantiate, Registry.instantiate, hNone]
    rfl
  · have hMade : ∀ store, (registry.instantiate id).outcome store = (.ok ⟨g, n⟩, store) := by
      intro store
      rw [Registry.instantiate, hFind]
      rfl
    by_cases hSame : g = f
    · subst hSame
      refine .snapshot n hEmpty hId fun store => ?_
      rw [Contract.instantiate, Action.outcome_bind, hMade]
      simp only [g.contract_ofAny]
      rfl
    · refine .nothing ("Snapshot type " ++ Registry.quoted id ++ " does not describe serializers of " ++
        f.type.name) fun store => ?_
      rw [Contract.instantiate, Action.outcome_bind, hMade]
      simp only [Family.contract_ofAny_of_ne hSame]
      rfl

end Registry.OfLibrary

/-! ## Reading -/

namespace TextConfig

variable {version : Int} {other limit : BitVec 32} {input later : InputChannel} {store : Store}

/-- Snapshots written before the limit was recorded are refused. -/
theorem readPayload_of_early (h : version < 2) :
    (readPayload version).outcome ((.bounded other, input), store) =
      (.error (.deserialization ("Unsupported snapshot version " ++ version.repr)),
        ((.bounded other, input), store)) := by
  have hGuard : (readPayload version).outcome ((.bounded other, input), store) =
      (if version < 2 then _ else _ : Action _ Unit).outcome ((.bounded other, input), store) := rfl
  rw [hGuard, if_pos h]
  rfl

variable (h : ¬ version < 2)

include h

/-- From the version on that has limits, the payload is read for one. -/
theorem readPayload_of_late : (readPayload version).outcome ((.bounded other, input), store) =
    (Action.onFirst (Action.onSecond (InputChannel.read wordCodec)) >>= fun limit =>
      modify fun ((_, input), store) => ((.bounded limit, input), store) :
        Action ((TextConfig × InputChannel) × Store) Unit).outcome ((.bounded other, input), store) := by
  have hGuard : (readPayload version).outcome ((.bounded other, input), store) =
      (if version < 2 then _ else _ : Action _ Unit).outcome ((.bounded other, input), store) := rfl
  rw [hGuard, if_neg h]

/-- Any limit that can be read is accepted: no further check is made. -/
theorem readPayload_of_limit (hLimit : (InputChannel.read wordCodec).outcome input = (.ok limit, later)) :
    (readPayload version).outcome ((.bounded other, input), store) =
      (.ok (), ((.bounded limit, later), store)) := by
  rw [readPayload_of_late h, Action.outcome_bind, Action.onFirst_outcome, Action.onSecond_outcome, hLimit]
  rfl

/-- A payload without a whole limit fails as the read of the word does. -/
theorem readPayload_of_no_limit {failure : Failure}
    (hLimit : (InputChannel.read wordCodec).outcome input = (.error failure, later)) :
    (readPayload version).outcome ((.bounded other, input), store) =
      (.error failure, ((.bounded other, later), store)) := by
  rw [readPayload_of_late h, Action.outcome_bind, Action.onFirst_outcome, Action.onSecond_outcome, hLimit]

end TextConfig

namespace Family

/-- The snapshots of the library with everything that they nest. A padding is whatever number was read. -/
inductive Filled : (f : Family) → f.Snapshot → Prop where
  | number : Filled .number NumberSnapshot.plain
  | text (config : TextConfig) : Filled .text config
  | numbers : Filled .numbers NumbersKind.plain
  | point : Filled .point ()
  | circle : Filled .circle ()
  | nullable {f : Family} {m : f.Snapshot} (inner : Filled f m) (padding : BitVec 32) :
      Filled (.nullable f) (⟨some m, padding.toInt⟩ : WrapperSnapshot f.Snapshot)

variable {registry : Registry Store AnySnapshot} {frame : Frame}

/-- A limit is the whole payload, and is read of a version that has one. -/
theorem settles_of_boundedText (hFits : frame.Fits)
    (hId : text.contract.snapshotId (TextConfig.bounded 0) = frame.id)
    (hMade : ∀ store, (text.contract.instantiate registry frame.id).outcome store =
      (.ok (TextConfig.bounded 0), store)) : text.contract.Settles registry (Filled .text) frame := by
  by_cases hVersion : frame.version.toInt < 2
  · exact .refused _ fun store =>
      Contract.takeOver_of_refused (hMade store) (TextConfig.readPayload_of_early hVersion)
  obtain ⟨_, limit, later, hPasses, rfl, hLimit⟩ | ⟨later, hShort⟩ :=
    InputChannel.read_word_parses (.ofBytes frame.payload)
  swap
  · exact .refused _ fun store =>
      Contract.takeOver_of_refused (hMade store) (TextConfig.readPayload_of_no_limit hVersion hShort)
  have hTaken : ∀ store, (text.contract.readPayload frame.version.toInt registry).outcome
      ((TextConfig.bounded 0, .ofBytes frame.payload), store) = (.ok (), ((TextConfig.bounded limit, later), store)) :=
    fun store => TextConfig.readPayload_of_limit hVersion hLimit
  by_cases hLeft : later.available = 0
  · have hRest : later.rest = [] := List.length_eq_zero_iff.mp hLeft
    have hPayload : frame.payload = wordBytes limit ++ later.rest := hPasses.rest
    rw [hRest, List.append_nil] at hPayload
    refine .taken (TextConfig.bounded limit) (wordBytes limit) (.text (.bounded limit)) hId
      (congrArg List.length hPayload.symm) ⟨Contract.frame_fits hFits hId (congrArg List.length hPayload.symm),
        (by decide : (-2 ^ 31 : Int) ≤ 2 ∧ (2 : Int) < 2 ^ 31), fun out store => ?_, fun store => ?_⟩ fun store => ?_
    · exact Action.onFirst_ok_iff.mpr ⟨OutputChannel.write_outcome (wordCodec_trips limit) out, rfl⟩
    · have hWord : (InputChannel.read wordCodec).outcome (.ofBytes (wordBytes limit)) =
          (.ok limit, ⟨wordBytes limit, []⟩) := by
        have hRead := InputChannel.read_of_spells (wordBytes_spells limit) [] []
        rwa [List.append_nil] at hRead
      have hRead : (text.contract.readPayload 2 registry).outcome
          ((TextConfig.bounded 0, .ofBytes (wordBytes limit)), store) =
            (.ok (), ((TextConfig.bounded limit, ⟨wordBytes limit, []⟩), store)) :=
        TextConfig.readPayload_of_limit (Int.lt_irrefl 2) hWord
      exact Contract.takeOver_of_accepts _ _ (hId ▸ hMade store) hRead
    · exact Contract.takeOver_of_consumed (hMade store) (hTaken store) hLeft
  · exact .refused _ fun store => Contract.takeOver_of_leftover (hMade store) (hTaken store) hLeft

/-- With a library registry the reading of a frame of any family ends in a filled snapshot or in a failure, at
every depth. -/
theorem settles (hRegistry : registry.OfLibrary) (f : Family) (hFits : frame.Fits) :
    f.contract.Settles registry f.Filled frame := by
  induction f generalizing frame with
  | number =>
      refine Contract.settles_of_offers (hRegistry.offers .number frame.id) fun made hEmpty hId hMade => ?_
      cases hEmpty
      exact Contract.settles_of_bare hFits .number hId hMade ⟨by decide, by decide⟩ (fun _ _ => rfl) fun _ _ _ => rfl
  | text =>
      refine Contract.settles_of_offers (hRegistry.offers .text frame.id) fun made hEmpty hId hMade => ?_
      cases hEmpty with
      | unboundedText =>
          exact Contract.settles_of_bare hFits (.text .unbounded) hId hMade ⟨by decide, by decide⟩ (fun _ _ => rfl)
            fun _ _ _ => rfl
      | boundedText => exact settles_of_boundedText hFits hId hMade
  | numbers =>
      refine Contract.settles_of_offers (hRegistry.offers .numbers frame.id) fun made hEmpty hId hMade => ?_
      cases hEmpty
      exact Contract.settles_of_bare hFits .numbers hId hMade ⟨by decide, by decide⟩ (fun _ _ => rfl) fun _ _ _ => rfl
  | point =>
      refine Contract.settles_of_offers (hRegistry.offers .point frame.id) fun made hEmpty hId hMade => ?_
      cases hEmpty
      exact Contract.settles_of_bare hFits .point hId hMade ⟨by decide, by decide⟩ (fun _ _ => rfl) fun _ _ _ => rfl
  | circle =>
      refine Contract.settles_of_offers (hRegistry.offers .circle frame.id) fun made hEmpty hId hMade => ?_
      cases hEmpty
      exact Contract.settles_of_bare hFits .circle hId hMade ⟨by decide, by decide⟩ (fun _ _ => rfl) fun _ _ _ => rfl
  | nullable f ih =>
      refine Contract.settles_of_offers (hRegistry.offers (.nullable f) frame.id) fun made hEmpty hId hMade => ?_
      cases hEmpty
      have hDecides : ∀ input, f.contract.Decides registry f.Filled input :=
        Contract.decides_of_settles fun _ hFits => ih hFits
      cases Wrapper.settles hDecides hFits hId hMade with
      | refused message h => exact .refused message h
      | taken n payload hGood hId hLength hRereadable h =>
          obtain ⟨m, padding, rfl, hFilled⟩ := hGood
          exact .taken _ payload (hFilled.nullable padding) hId hLength hRereadable h

end Family

/-! ## Restoring -/

namespace Nesting

/-- The snapshot of a configuration restores a new serializer of that configuration. -/
theorem restore_succeeds {f : Family} (s : Nesting f) (store : Store) :
    (f.contract.restore s.described).Succeeds store fun restored last => ∃ x, restored = some x ∧
      s.world.live x last ∧ s.world.Keeps store last := by
  induction s generalizing store with
  | number =>
      apply (Object.build_succeeds NumberKind.plain store).mono
      intro _ last hRestored
      obtain ⟨x, rfl, hNew⟩ := hRestored
      exact ⟨x, rfl, hNew.config, number.keeps_of_grows hNew.grows⟩
  | text config => exact World.ofObjects_build_succeeds store
  | numbers => exact World.ofObjects_build_succeeds store
  | point => exact World.ofObjects_build_succeeds store
  | circle => exact World.ofObjects_build_succeeds store
  | @nullable f inner padding padded ih =>
      have hRestored : (WrapperSnapshot.restore f.contract ⟨some inner.described, padding⟩).Succeeds store
          fun x last => (nullable inner padding padded).world.live x last ∧ inner.world.Keeps store last := by
        apply (ih store).bind
        intro _ middle hInner
        obtain ⟨y, rfl, hLive, hMiddle⟩ := hInner
        apply (World.optional_make_succeeds hLive fun _ _ => inner.keeps_of_grows).mono
        intro x last hMade
        exact ⟨hMade.2.1, hMiddle.trans hMade.2.2⟩
      apply hRestored.bind
      intro x last hLast
      exact Action.pure_succeeds ⟨x, rfl, hLast.1, hLast.2.optional⟩

end Nesting

namespace Family

/-- A padding that no wrapper can have, at any level. -/
def HasNegativePadding : (f : Family) → f.Snapshot → Prop
  | .nullable f, (n : WrapperSnapshot f.Snapshot) =>
    n.padding < 0 ∨ ∃ m, n.nested = some m ∧ f.HasNegativePadding m
  | _, _ => False

def negativePadding : Failure := .invalidArgument "Null value padding must not be negative"

/-- A snapshot with everything that it nests describes a configuration, or it has a negative padding and restores
nothing. -/
theorem Filled.restores {f : Family} {n : f.Snapshot} (h : f.Filled n) :
    (f.HasNegativePadding n ∧ ∀ store, (f.contract.restore n).Throws store negativePadding) ∨
    (¬ f.HasNegativePadding n ∧ ∃ s : Nesting f, s.described = n) := by
  induction h with
  | number => exact .inr ⟨id, .number, rfl⟩
  | text config => exact .inr ⟨id, .text config, rfl⟩
  | numbers => exact .inr ⟨id, .numbers, rfl⟩
  | point => exact .inr ⟨id, .point, rfl⟩
  | circle => exact .inr ⟨id, .circle, rfl⟩
  | @nullable f m inner padding ih =>
      obtain ⟨hNegative, hThrows⟩ | ⟨hNot, s, rfl⟩ := ih
      · refine .inl ⟨.inr ⟨m, rfl, hNegative⟩, fun store => ?_⟩
        have hInner : (WrapperSnapshot.restore f.contract ⟨some m, padding.toInt⟩).Throws store negativePadding :=
          (hThrows store).bind _
        exact hInner.bind _
      by_cases hPadding : padding.toInt < 0
      · refine .inl ⟨.inl hPadding, fun store => ?_⟩
        have hCheck : Nullable.checkPadding padding.toInt = .error negativePadding := if_pos hPadding
        have hOuter : (WrapperSnapshot.restore f.contract ⟨some s.described, padding.toInt⟩).Throws store
            negativePadding := by
          apply (s.restore_succeeds store).bind_throws
          intro _ middle hRestored
          obtain ⟨x, rfl, -⟩ := hRestored
          exact (Action.ofExcept_throws hCheck).bind _
        exact hOuter.bind _
      · have hNat : ((padding.toInt.toNat : Nat) : Int) = padding.toInt := Int.toNat_of_nonneg (Int.not_lt.mp hPadding)
        have hMost : padding.toInt.toNat ≤ 0x7fffffff := by
          have hLt : padding.toInt < 2 ^ 31 := BitVec.toInt_lt
          omega
        refine .inr ⟨?_, .nullable s padding.toInt.toNat hMost, ?_⟩
        · rintro (hNegative | ⟨m, hNested, hNegative⟩)
          · exact hPadding hNegative
          · obtain rfl := Option.some.inj hNested
            exact hNot hNegative
        · rw [Nesting.described, hNat]

/-- A snapshot restores a serializer, whose own snapshot is written as some bytes, behind anything, is read from
them, in front of anything, and then restores a serializer that equals the first one. -/
def RestoresForGood {f : Family} (registry : Registry Store AnySnapshot) (n : f.Snapshot) (store : Store) : Prop :=
  (f.contract.restore n).Succeeds store fun restored last => ∃ x own bytes, restored = some x ∧
    (f.contract.snapshot x).outcome last = (.ok (some own), last) ∧
    (∀ out, (f.contract.writeSnapshot own).outcome (out, last) = (.ok (), (out.appended bytes, last))) ∧
    ∀ past suffix, ∃ read, (f.contract.readSnapshot registry).outcome (⟨past, bytes ++ suffix⟩, last) =
        (.ok read, (⟨past ++ bytes, suffix⟩, last)) ∧
      (f.contract.restore read).Succeeds last fun again later => ∃ y, again = some y ∧
        Equal y x later ∧ Equal x y later

variable {registry : Registry Store AnySnapshot}

/-- The snapshot that a nesting describes restores for good once its payload can be read again. -/
theorem restoresForGood_of_described {f : Family} (s : Nesting f) {payload : Bytes}
    (h : f.contract.Rereadable registry s.described payload) (store : Store) :
    RestoresForGood registry s.described store := by
  apply (s.restore_succeeds store).mono
  intro _ last hRestored
  obtain ⟨x, rfl, hLive, -⟩ := hRestored
  refine ⟨x, s.described, f.contract.framed s.described payload, rfl, ?_, fun out => h.writeSnapshot out last,
    fun past suffix => ⟨s.described, h.readSnapshot past suffix last, ?_⟩⟩
  · rw [s.snapshot_eq_described hLive]
    rfl
  · apply (s.restore_succeeds last).mono
    intro _ later hAgain
    obtain ⟨y, rfl, hLiveAgain, hKeeps⟩ := hAgain
    have hLater := hKeeps.live x hLive
    exact ⟨y, rfl, (s.equal_iff s hLiveAgain hLater).mpr rfl, (s.equal_iff s hLater hLiveAgain).mpr rfl⟩

/-- Any bytes, read with any registry of the library, are refused for what is in them, or they are read as a
snapshot that restores a serializer for good; unless one of its paddings is negative: that is not noticed when it
is read, but only when it is to restore a serializer, by the constructor of that. -/
theorem read_snapshot_restores (hRegistry : registry.OfLibrary) (f : Family) (input : InputChannel) :
    (∃ message later, ∀ store, (f.contract.readSnapshot registry).outcome (input, store) =
      (.error (.deserialization message), (later, store))) ∨
    ∃ n later, (∀ store, (f.contract.readSnapshot registry).outcome (input, store) = (.ok n, (later, store))) ∧
      (f.HasNegativePadding n ∧ (∀ store, (f.contract.restore n).Throws store negativePadding) ∨
        ¬ f.HasNegativePadding n ∧ ∀ store, RestoresForGood registry n store) := by
  have hDecides : f.contract.Decides registry f.Filled input :=
    Contract.decides_of_settles (fun _ hFits => settles hRegistry f hFits) input
  cases hDecides with
  | refused message later hRefused => exact .inl ⟨message, later, hRefused⟩
  | read n payload front later hFilled hPasses hLength hRereadable hRead =>
      refine .inr ⟨n, later, hRead, ?_⟩
      obtain hNegative | ⟨hNot, s, rfl⟩ := hFilled.restores
      · exact .inl hNegative
      · exact .inr ⟨hNot, restoresForGood_of_described s hRereadable⟩

/-! ## Wrapped numbers -/

/-- The snapshots of numbers and of wrapped numbers. -/
def numbersRegistry : Registry Store AnySnapshot :=
  let numbers := Registry.register {} (number.contract.snapshotId NumberSnapshot.plain)
    (RegistryEntry.always (some ⟨.number, NumberSnapshot.plain⟩))
  numbers.register ((nullable number).contract.snapshotId ({} : WrapperSnapshot NumberSnapshot))
    (RegistryEntry.always (some ⟨.nullable .number, ({} : WrapperSnapshot NumberSnapshot)⟩))

/-- The registry of the number serializers is one of the library's. -/
theorem numbersRegistry_ofLibrary : numbersRegistry.OfLibrary :=
  (Registry.OfLibrary.nothing.register .number).register (.nullable .number)

/-- What is read as the snapshot of wrapped numbers with some padding. -/
def wrappedNumbersBytes (padding : BitVec 32) : Bytes :=
  (nullable number).contract.framed ({} : WrapperSnapshot NumberSnapshot)
    (wordBytes padding ++ number.contract.framed NumberSnapshot.plain [])

/-- The snapshot of wrapped numbers with the padding of an int reads back and restores for good. -/
theorem read_snapshot_restores_wrapped_numbers :
    numbersRegistry.OfLibrary ∧ ∃ n later,
      ((nullable number).contract.readSnapshot numbersRegistry).outcome (.ofBytes (wrappedNumbersBytes 4), {}) =
        (.ok n, (later, {})) ∧ RestoresForGood numbersRegistry n {} := by
  have hRead : ((nullable number).contract.readSnapshot numbersRegistry).outcome
      (.ofBytes (wrappedNumbersBytes 4), {}) = (.ok ⟨some NumberSnapshot.plain, 4⟩,
        (⟨wrappedNumbersBytes 4, []⟩, {})) := rfl
  refine ⟨numbersRegistry_ofLibrary, ?_⟩
  obtain ⟨message, later, hRefused⟩ | ⟨n, later, hSame, hNegative | hRestores⟩ :=
    read_snapshot_restores numbersRegistry_ofLibrary (nullable number) (.ofBytes (wrappedNumbersBytes 4))
  · cases hRead.symm.trans (hRefused {})
  · obtain rfl := Except.ok.inj (Prod.mk.inj (hRead.symm.trans (hSame {}))).1
    obtain hOuter | ⟨m, hNested, hInner⟩ := hNegative.1
    · exact absurd hOuter (by decide : ¬ (4 : Int) < 0)
    · exact hInner.elim
  · exact ⟨n, later, hSame {}, hRestores.2 {}⟩

/-- A padding of minus one is read, and no wrapper can have it. -/
theorem negative_padding_read : ∃ n,
    ((nullable number).contract.readSnapshot numbersRegistry).outcome
      (.ofBytes (wrappedNumbersBytes 0xffffffff), {}) = (.ok n, (⟨wrappedNumbersBytes 0xffffffff, []⟩, {})) ∧
    ((nullable number).contract.restore n).Throws {} negativePadding :=
  ⟨⟨some NumberSnapshot.plain, -1⟩, rfl, _, rfl⟩

end Family

end SerializerContract
