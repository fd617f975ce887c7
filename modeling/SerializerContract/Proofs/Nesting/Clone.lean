import SerializerContract.Proofs.Conformance.Snapshots
import SerializerContract.Proofs.Nesting.Basic

/-! Clones through any number of wrappers. The snapshot of a wrapper contains the whole snapshot of what is
wrapped, so the bytes of one level are read back with what the registry makes for the levels below. -/
namespace SerializerContract

namespace World

variable {A S N : Type} {t : ValueType} {W : World Store S N t.Val} {C : Contract Store A t S N}
    {padding : Nat} {ofAny : A → Option (WrapperSnapshot N)} {registry : Registry Store A}
    {snapshotBytes : Bytes}

/-- Snapshots that are written as some bytes, behind anything, and read back from them, in front of
anything. -/
structure Rereads (W : World Store S N t.Val) (C : Contract Store A t S N) (registry : Registry Store A)
    (snapshotBytes : Bytes) : Prop where
  writes : W.WritesSnapshots C snapshotBytes
  reads : W.ReadsSnapshots C registry snapshotBytes

/-- What can be wrapped can be cloned through the bytes of its snapshot. -/
theorem Wrappable.rereads (h : W.Wrappable C registry snapshotBytes) : W.Rereads C registry snapshotBytes :=
  ⟨h.writesSnapshots, h.readsSnapshots⟩

/-- A wrapper needs one more entry of the registry, for its own snapshot. -/
theorem Rereads.optional (h : W.Rereads C registry snapshotBytes) (hPadding : padding ≤ 0x7fffffff)
    (hKeeps : ∀ before after, before.Grows after → W.Keeps before after)
    (hFits : (nestedBytes C ofAny padding snapshotBytes).length ≤ Width.w32.maximum)
    (hRegistered : (Wrapper.contract C ofAny).Registered registry
      ((Wrapper.contract C ofAny).snapshotId {}) fun _ => True) :
    (W.optional padding).Rereads (Wrapper.contract C ofAny) registry
      (nestedBytes C ofAny padding snapshotBytes) := by
  rw [length_nestedBytes] at hFits
  have hId : ((Wrapper.contract C ofAny).snapshotId {}).length ≤ Width.w32.maximum := by omega
  have hBytes : (nestedPayload padding snapshotBytes).length ≤ Width.w32.maximum := by
    rw [length_nestedPayload]
    omega
  exact ⟨optional_writesSnapshots padding h.writes hId,
    optional_readsSnapshots h.reads hKeeps hPadding hId hBytes hRegistered⟩

end World

namespace Nesting

variable {f : Family}

/-- The bytes of the snapshot; that of a wrapper contains the one of what it wraps. -/
def snapshotBytes : {f : Family} → Nesting f → Bytes
  | _, number => Family.number.contract.framed NumberSnapshot.plain []
  | _, text config => Family.text.contract.framed config (TextSerializer.payloadOf config)
  | _, numbers => Family.numbers.contract.framed NumbersKind.plain []
  | _, point => Family.point.contract.framed () []
  | _, circle => Family.circle.contract.framed () []
  | .nullable f, nullable inner padding _ =>
    World.nestedBytes f.contract (Family.snapshotOf (.nullable f)) padding inner.snapshotBytes

/-- A registry makes an empty snapshot for every level, whatever else it makes under other ids. -/
def Registered (registry : Registry Store Family.AnySnapshot) : {f : Family} → Nesting f → Prop
  | _, number =>
    Family.number.contract.Registered registry (NumberSnapshot.id .plain) (· = NumberSnapshot.plain)
  | _, text config =>
    Family.text.contract.Registered registry (sampleId config.snapshotIdent)
      fun made : TextConfig => made.snapshotIdent = config.snapshotIdent
  | _, numbers =>
    Family.numbers.contract.Registered registry (NumbersSerializer.snapshotId .plain) (· = NumbersKind.plain)
  | _, point => Family.point.contract.Registered registry (sampleId "PointSerializerSnapshot") fun _ => True
  | _, circle => Family.circle.contract.Registered registry (sampleId "CircleSerializerSnapshot")
    fun _ => True
  | .nullable f, nullable inner _ _ => inner.Registered registry ∧
    (Family.nullable f).contract.Registered registry
      ((Family.nullable f).contract.snapshotId ({} : WrapperSnapshot f.Snapshot)) fun _ => True

variable {registry : Registry Store Family.AnySnapshot}

/-- Every nesting survives the way through its snapshot bytes, given a registry that knows its parts and a
length that fits. -/
theorem rereads (s : Nesting f) (hRegistered : s.Registered registry)
    (hFits : s.snapshotBytes.length ≤ Width.w32.maximum) :
    s.world.Rereads f.contract registry s.snapshotBytes := by
  induction s with
  | number =>
      have hNumber : NumberSerializer.Registered (Family.snapshotOf .number) registry := fun store =>
        (hRegistered store).mono fun _ _ hMade => hMade.1
      exact (NumberSerializer.world_wrappable hNumber).rereads
  | text config => exact (TextSerializer.world_wrappable hRegistered).rereads
  | numbers => exact (NumbersSerializer.world_wrappable hRegistered).rereads
  | point => exact (PointSerializer.world_wrappable hRegistered).rereads
  | circle => exact (CircleSerializer.world_wrappable hRegistered).rereads
  | @nullable f inner padding padded ih =>
      -- What fits with the frame of a wrapper around it fits without it.
      have hInner : inner.snapshotBytes.length ≤ Width.w32.maximum := by
        have hLength : (nullable inner padding padded).snapshotBytes.length =
          _ + 16 + inner.snapshotBytes.length := World.length_nestedBytes
        omega
      exact (ih hRegistered.1 hInner).optional padded (fun _ _ => inner.keeps_of_grows) hFits hRegistered.2

/-- A clone is of the type of the original, and each equals the other. It is made from the bytes of the
snapshot, and exactly these are read, whatever is behind them. -/
theorem clone_equals_original (s : Nesting f) {x : f.Serializer} {store : Store} (hLive : s.world.live x store)
    (hRegistered : s.Registered registry) (hFits : s.snapshotBytes.length ≤ Width.w32.maximum) :
    ((f.contract.clone registry x).Succeeds store fun y last =>
      f.contract.typeName y = f.contract.typeName x ∧
        (f.contract.equals y x).Succeeds last (fun equal _ => equal = true) ∧
        (f.contract.equals x y).Succeeds last (fun equal _ => equal = true)) ∧
    (f.contract.snapshot x).Succeeds store fun taken middle => ∃ n, taken = some n ∧
      ∀ out : OutputChannel, (f.contract.writeSnapshot n).Succeeds (out, middle) fun _ written =>
        written.1 = out.appended s.snapshotBytes ∧
        ∀ (input : InputChannel) suffix, input.rest = s.snapshotBytes ++ suffix →
          input.rest.length ≤ Bytes.longest →
          (f.contract.readSnapshot registry).Succeeds (input, written.2) fun _ read =>
            read.1.rest = suffix := by
  have hRestorable := s.restorable
  have hRereads := s.rereads hRegistered hFits
  have hBack := World.rereadsSnapshots (Nat.le_trans hFits (by decide)) hRereads.writes hRereads.reads
  constructor
  · apply (World.clone_succeeds hRestorable.snapshots hBack hRestorable.restores hLive).mono
    intro y last hCloned
    obtain ⟨hReplaces, hKeeps⟩ := hCloned
    exact ⟨hReplaces.type, s.equals_of_replaces (hKeeps.live x hLive) hReplaces⟩
  · apply (hRestorable.snapshots x store hLive).mono
    intro taken middle hTaken
    obtain ⟨n, rfl, hDescribes, hMiddle⟩ := hTaken
    refine ⟨n, rfl, fun out => ?_⟩
    apply (hRereads.writes n x middle out hDescribes).mono
    intro _ written hWritten
    obtain ⟨hOut, hKeeps⟩ := hWritten
    refine ⟨hOut, fun input suffix hInput hRoom => ?_⟩
    apply (hRereads.reads n x written.2 input suffix (hKeeps.describes n x hDescribes) hInput
      hRoom).mono
    intro read last hRead
    exact hRead.1

/-- A registry of the snapshots of limited texts and of two levels of wrappers, and of something else. -/
def textRegistry : Registry Store Family.AnySnapshot :=
  let text := Registry.register {} (sampleId "BoundedStringSerializerSnapshot")
    (RegistryEntry.always (some ⟨.text, TextConfig.bounded 0⟩))
  let once := text.register ((Family.nullable .text).contract.snapshotId ({} : WrapperSnapshot TextConfig))
    (RegistryEntry.always (some ⟨.nullable .text, ({} : WrapperSnapshot TextConfig)⟩))
  let twice := once.register
    ((Family.nullable (.nullable .text)).contract.snapshotId
      ({} : WrapperSnapshot (WrapperSnapshot TextConfig)))
    (RegistryEntry.always
      (some ⟨.nullable (.nullable .text), ({} : WrapperSnapshot (WrapperSnapshot TextConfig))⟩))
  twice.register (sampleId "PointSerializerSnapshot") (RegistryEntry.always none)

theorem shortTexts_registered : shortTexts.Registered textRegistry := by
  refine ⟨⟨?_, ?_⟩, ?_⟩
  · intro store
    apply Contract.instantiate_succeeds
    · exact (Registry.find_register_of_ne _ _ (by decide)).trans
        ((Registry.find_register_of_ne _ _ (by decide)).trans
          ((Registry.find_register_of_ne _ _ (by decide)).trans (Registry.find_register _ _)))
    · exact Action.pure_succeeds ⟨_, _, rfl, rfl, rfl, Nat.le_refl _⟩
  · intro store
    apply Contract.instantiate_succeeds
    · exact (Registry.find_register_of_ne _ _ (by decide)).trans
        ((Registry.find_register_of_ne _ _ (by decide)).trans (Registry.find_register _ _))
    · exact Action.pure_succeeds ⟨_, _, rfl, rfl, trivial, Nat.le_refl _⟩
  · intro store
    apply Contract.instantiate_succeeds
    · exact (Registry.find_register_of_ne _ _ (by decide)).trans (Registry.find_register _ _)
    · exact Action.pure_succeeds ⟨_, _, rfl, rfl, trivial, Nat.le_refl _⟩

/-- A serializer of short texts that was wrapped twice is cloned through all of its levels. -/
theorem clone_equals_original_short_texts :
    shortTexts.Registered textRegistry ∧ shortTexts.snapshotBytes.length ≤ Width.w32.maximum ∧
    ((Family.contract _).clone textRegistry shortTextSerializer).Succeeds ⟨[{}, {}, {}], 0, 0⟩
      fun y last => ((Family.contract _).equals y shortTextSerializer).Succeeds last fun equal _ =>
        equal = true := by
  have hFits : shortTexts.snapshotBytes.length ≤ Width.w32.maximum := by decide +kernel
  have hCloned := (clone_equals_original shortTexts shortTextSerializer_live shortTexts_registered hFits).1
  exact ⟨shortTexts_registered, hFits, hCloned.mono fun _ _ hEqual => hEqual.2.1⟩

end Nesting

end SerializerContract
