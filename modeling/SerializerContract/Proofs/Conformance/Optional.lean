import SerializerContract.Proofs.Conformance.Optional.Snapshots

/-! Wrappers conform if what they wrap does. A wrapper adds a flag to the values and a padding to null, and
its snapshot nests the whole snapshot of what is wrapped. So whatever can be wrapped can be wrapped again. -/
namespace SerializerContract

variable {A S N : Type} {t : ValueType}

namespace World

variable {W : World Store S N t.Val} {C : Contract Store A t S N} {padding : Nat}
    {ofAny : A → Option (WrapperSnapshot N)} {registry : Registry Store A} {snapshotBytes : Bytes}

/-- A wrapper can be used as long as what it wraps can. -/
theorem optional_live {made : Object (Wrapper S)} {inner : S} {store : Store}
    (hConfig : made.config = ⟨inner, padding, none⟩) (hLive : W.live inner store) :
    (W.optional padding).live made store := by
  refine ⟨?_, ?_, ?_⟩
  · rw [hConfig]
    exact hLive
  · rw [hConfig]
  · rw [hConfig]

theorem optional_make_succeeds {inner : S} {store : Store} (hLive : W.live inner store)
    (hKeeps : ∀ before after, before.Grows after → W.Keeps before after) :
    (Wrapper.make (some inner) padding).Succeeds store fun made last =>
      made.config = ⟨inner, padding, none⟩ ∧ (W.optional padding).live made last ∧ W.Keeps store last := by
  apply (Wrapper.make_succeeds inner padding store).mono
  intro made last hMade
  obtain ⟨hConfig, hGrows⟩ := hMade
  have hLast := hKeeps store last hGrows
  exact ⟨hConfig, optional_live hConfig (hLast.live inner hLive), hLast⟩

theorem optional_typeName {x y : Object (Wrapper S)} {store later : Store}
    (hLive : (W.optional padding).live x store) (hLive' : (W.optional padding).live y later) :
    (Wrapper.contract C ofAny).typeName x = (Wrapper.contract C ofAny).typeName y := by
  change (x.config.typeName t).text = (y.config.typeName t).text
  rw [Wrapper.typeName, Wrapper.typeName, hLive.2.2, hLive'.2.2]

theorem optional_restores (h : W.Restores C)
    (hKeeps : ∀ before after, before.Grows after → W.Keeps before after) :
    (W.optional padding).Restores (Wrapper.contract C ofAny) := by
  intro n x store hDescribes hLive
  obtain ⟨m, rfl, hDescribes⟩ := hDescribes
  have hRestored : (WrapperSnapshot.restore C ⟨some m, padding⟩).Succeeds store fun made last =>
      (W.optional padding).Replaces (Wrapper.contract C ofAny) made x last ∧ W.Keeps store last := by
    apply (h m x.config.inner store hDescribes hLive.1).bind
    intro _ middle hRestored
    obtain ⟨y, rfl, hReplaces, hMiddle⟩ := hRestored
    apply (optional_make_succeeds hReplaces.live hKeeps).mono
    intro made last hMade
    obtain ⟨hConfig, hMadeLive, hLast⟩ := hMade
    refine ⟨⟨hMadeLive, optional_typeName hMadeLive hLive, ?_⟩, hMiddle.trans hLast⟩
    change W.alike made.config.inner x.config.inner last
    rw [hConfig]
    exact hLast.alike y x.config.inner hReplaces.alike
  apply hRestored.bind
  intro made last hMade
  exact Action.pure_succeeds ⟨made, rfl, hMade.1, hMade.2.optional⟩

/-- Wrappers are compatible if their paddings are the same and what they wrap is compatible. -/
theorem optional_resolvesWith {V : World Store S N t.Val} {padding' : Nat} {compatible : Prop}
    (h : V.ResolvesWith W C compatible)
    (hKeeps : ∀ before after, before.Grows after → V.Keeps before after) :
    (V.optional padding).ResolvesWith (W.optional padding') (Wrapper.contract C ofAny)
      (padding' = padding ∧ compatible) := by
  intro n x y store hDescribes hLive hLive'
  obtain ⟨m, rfl, hDescribes⟩ := hDescribes
  change (WrapperSnapshot.resolve C ⟨some m, padding⟩ y.config).Succeeds store _
  by_cases hSame : padding' = padding
  · have hPaddings : ¬ (y.config.padding : Int) ≠ padding :=
      not_not_intro (congrArg Nat.cast (hLive'.2.1.trans hSame))
    simp only [WrapperSnapshot.resolve, hPaddings, if_false]
    apply (h m x.config.inner y.config.inner store hDescribes hLive.1 hLive'.1).bind
    intro verdict middle hVerdict
    obtain ⟨hMiddle, ⟨hNot, rfl⟩ | ⟨hCompatible, rfl | ⟨z, rfl, hReplaces⟩⟩⟩ := hVerdict
    · exact Action.pure_succeeds ⟨hMiddle.optional, .inl ⟨fun hBoth => hNot hBoth.2, rfl⟩⟩
    · exact Action.pure_succeeds ⟨hMiddle.optional, .inr ⟨⟨hSame, hCompatible⟩, .inl rfl⟩⟩
    · apply (optional_make_succeeds hReplaces.live hKeeps).bind
      intro made last hMade
      obtain ⟨hConfig, hMadeLive, hLast⟩ := hMade
      refine Action.pure_succeeds ⟨(hMiddle.trans hLast).optional, .inr ⟨⟨hSame, hCompatible⟩,
        .inr ⟨made, rfl, hMadeLive, optional_typeName hMadeLive hLive, ?_⟩⟩⟩
      change V.alike made.config.inner x.config.inner last
      rw [hConfig]
      exact hLast.alike z x.config.inner hReplaces.alike
  · have hPaddings : (y.config.padding : Int) ≠ padding := by
      rw [hLive'.2.1]
      exact fun hCast => hSame (Int.natCast_inj.mp hCast)
    simp only [WrapperSnapshot.resolve, hPaddings, ne_eq, not_false_eq_true, if_true]
    exact Action.pure_succeeds ⟨Keeps.refl _ _, .inl ⟨fun hBoth => hSame hBoth.1, rfl⟩⟩

theorem optional_resolves (h : W.Resolves C)
    (hKeeps : ∀ before after, before.Grows after → W.Keeps before after) :
    (W.optional padding).Resolves (Wrapper.contract C ofAny) :=
  (optional_resolvesWith h.resolvesWith hKeeps).resolves ⟨rfl, trivial⟩

theorem optional_duplicates (h : W.Duplicates C)
    (hKeeps : ∀ before after, before.Grows after → W.Keeps before after) :
    (W.optional padding).Duplicates (Wrapper.contract C ofAny) := by
  intro x store hLive
  change (do
    return some (← Wrapper.make (← C.duplicate x.config.inner) x.config.padding) : Action Store _).Succeeds
      store _
  rw [hLive.2.1]
  apply (h x.config.inner store hLive.1).bind
  intro _ middle hDuplicated
  obtain ⟨y, rfl, hLiveDuplicate, hAlike, hMiddle⟩ := hDuplicated
  apply (optional_make_succeeds hLiveDuplicate hKeeps).bind
  intro made last hMade
  obtain ⟨hConfig, hMadeLive, hLast⟩ := hMade
  refine Action.pure_succeeds ⟨made, rfl, hMadeLive, ?_, (hMiddle.trans hLast).optional⟩
  change W.alike x.config.inner made.config.inner last
  rw [hConfig]
  exact hLast.alike x.config.inner y hAlike

theorem optional_compares (h : W.Compares C) : (W.optional padding).Compares (Wrapper.contract C ofAny) where
  symm := fun x y store => h.symm x.config.inner y.config.inner store
  equals := by
    intro x y store hLive hLive' hAlike
    have hPaddings : x.config.padding = y.config.padding := hLive.2.1.trans hLive'.2.1.symm
    change (if x.config.padding = y.config.padding then C.equals x.config.inner y.config.inner
      else return false : Action Store Bool).Succeeds store _
    rw [if_pos hPaddings]
    exact (h.equals x.config.inner y.config.inner store hLive.1 hLive'.1 hAlike).mono fun _ _ hEqual =>
      ⟨hEqual.1, hEqual.2.optional⟩

theorem Restorable.optional (h : W.Restorable C)
    (hKeeps : ∀ before after, before.Grows after → W.Keeps before after) :
    (W.optional padding).Restorable (Wrapper.contract C ofAny) :=
  ⟨optional_snapshots h.snapshots, optional_restores h.restores hKeeps, optional_compares h.compares⟩

theorem like_some {v : t.Val} {w : Option t.Val} (h : Option.Rel W.like (some v) w) :
    ∃ u, w = some u ∧ W.like v u := by
  cases h with
  | some hLike => exact ⟨_, rfl, hLike⟩

/-- The operations of a wrapper handle values as those of what it wraps do. -/
theorem optional_handles (h : W.Wrappable C registry snapshotBytes)
    (hPadding : padding = 0 ∨ (padding : Int) = W.length) (hLength : (padding : Int) + 1 < 0x7fffffff) :
    (W.optional padding).Handles (Wrapper.contract C ofAny) := by
  have hShort : (padding : Int) < 0x7fffffff := by omega
  have hNat : padding ≤ 0x7fffffff := by omega
  exact {
    like_trans := by
      intro u v w hLike hLike'
      cases hLike with
      | none => exact hLike'
      | some hLike =>
          obtain ⟨_, rfl, hNext⟩ := like_some hLike'
          exact .some (h.like_trans _ _ _ hLike hNext)
    domain_like := by
      intro v w hDomain hLike u hSome
      subst hSome
      cases hLike with
      | some hLike => exact h.domain_like _ u (hDomain _ rfl) hLike
    creates := by
      intro x store hLive
      rw [optional_operations hLive]
      apply (h.creates x.config.inner store hLive.1).bind
      intro v last hCreated
      exact Action.pure_succeeds ⟨rfl, rfl, hCreated.2.2.optional⟩
    copies := optional_copies h.copies
    copiesInto := optional_copiesInto h.copies h.copiesInto
    serializes := optional_serializes h.serializes hNat (Nat.le_of_eq h.room)
    deserializes := optional_deserializes h.deserializes
    readsIntoTarget := optional_readsIntoTarget h.deserializes h.readsIntoTarget
    rawCopies := by
      intro x store v input suffix out hLive hDomain hInput hRoom hOut
      rw [optional_operations hLive]
      apply (optional_rawCopy_succeeds h.rawCopies hLive.1 hDomain hInput hRoom hOut).mono
      intro _ last hCopied
      exact ⟨hCopied.1, hCopied.2.1, hCopied.2.2.optional⟩
    writesSome := by
      intro x store v _ _
      cases v with
      | none => exact List.cons_ne_nil _ _
      | some u => exact List.cons_ne_nil _ _
    measures := by
      intro x store hLive
      rw [optional_operations hLive]
      exact Action.pure_succeeds ⟨rfl, Keeps.refl _ _⟩
    hasLength := optional_hasLength h.hasLength hPadding hShort
    length_ne_zero := by
      rw [optional_length hShort, wrappedLength]
      split
      · omega
      · decide
    length_lt := by
      rw [optional_length hShort, wrappedLength]
      split
      · omega
      · decide }

/-- A wrapper keeps the contract if what it wraps does, and its snapshots nest the other ones. -/
theorem optional_wrappable (h : W.Wrappable C registry snapshotBytes)
    (hPadding : padding = 0 ∨ (padding : Int) = W.length) (hLength : (padding : Int) + 1 < 0x7fffffff)
    (hFits : (nestedBytes C ofAny padding snapshotBytes).length ≤ Width.w32.maximum)
    (hRegistered : (Wrapper.contract C ofAny).Registered registry
      ((Wrapper.contract C ofAny).snapshotId {}) fun _ => True) :
    (W.optional padding).Wrappable (Wrapper.contract C ofAny) registry
      (nestedBytes C ofAny padding snapshotBytes) := by
  rw [length_nestedBytes] at hFits
  have hId : ((Wrapper.contract C ofAny).snapshotId {}).length ≤ Width.w32.maximum := by omega
  have hBytes : (nestedPayload padding snapshotBytes).length ≤ Width.w32.maximum := by
    rw [length_nestedPayload]
    omega
  have hNat : padding ≤ 0x7fffffff := by omega
  have hWrites := optional_writesSnapshots padding h.writesSnapshots hId
  have hReads := optional_readsSnapshots h.readsSnapshots h.keeps hNat hId hBytes hRegistered
  have hHandles : (W.optional padding).Handles (Wrapper.contract C ofAny) := optional_handles h hPadding hLength
  have hRestorable : (W.optional padding).Restorable (Wrapper.contract C ofAny) :=
    Restorable.optional ⟨h.snapshots, h.restores, h.compares⟩ h.keeps
  exact {
    hHandles, hRestorable with
    deserializesInto := hHandles.readsIntoTarget.deserializesInto
    duplicates := optional_duplicates h.duplicates h.keeps
    registers := by
      intro n x store _
      apply (hRegistered store).mono
      intro made last hMade
      exact ⟨rfl, (h.keeps store last hMade.2).optional⟩
    rereadsSnapshots := rereadsSnapshots
      ((Wrapper.contract C ofAny).length_framed_le hId hBytes) hWrites hReads
    resolves := optional_resolves h.resolves h.keeps
    valid := h.valid
    keeps := fun before after hGrows => (h.keeps before after hGrows).optional
    writesSnapshots := hWrites
    readsSnapshots := hReads
    room := h.room }

end World

end SerializerContract
