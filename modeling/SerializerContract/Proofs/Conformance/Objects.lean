import SerializerContract.Proofs.Conformance.World
import SerializerContract.Proofs.Snapshot
import SerializerContract.Store

/-! Serializers that are objects. All that is known of an object is its configuration and that its cell was
allocated, and cells are never given up; so whatever only adds cells keeps all that is known. -/
namespace SerializerContract

/-- No cell is given up. -/
def Store.Grows (before after : Store) : Prop := before.cells.length ≤ after.cells.length

theorem Store.Grows.refl (store : Store) : store.Grows store := Nat.le_refl _

theorem Store.Grows.trans {first second third : Store} (h : first.Grows second) (h' : second.Grows third) :
    first.Grows third :=
  Nat.le_trans h h'

/-- What an object that has a cell does with it stays there. -/
theorem Store.cell_modify {store : Store} {id : Nat} (h : id < store.cells.length) (change : Cell → Cell) :
    ({ store with cells := store.cells.modify id change } : Store).cell id = change (store.cell id) := by
  simp [cell, List.getD_eq_getElem?_getD, h]

/-- A new object has a cell of its own, which nothing was stored in; all other cells are kept. -/
structure Object.IsNew {κ : Type} (x : Object κ) (config : κ) (store last : Store) : Prop where
  config : x.config = config
  id : x.id = store.cells.length
  id_lt : x.id < last.cells.length
  cell : last.cell x.id = {}
  others : ∀ id, id < store.cells.length → last.cell id = store.cell id
  grows : store.Grows last

/-- It does not matter what else is counted. -/
theorem Object.IsNew.of_cells {κ : Type} {x : Object κ} {config : κ} {earlier store last : Store}
    (h : x.IsNew config store last) (hCells : earlier.cells = store.cells) : x.IsNew config earlier last := by
  refine ⟨h.config, by rw [h.id, hCells], h.id_lt, h.cell, ?_, ?_⟩
  · intro id hId
    rw [h.others id (by rwa [← hCells]), Store.cell, Store.cell, hCells]
  · exact Nat.le_trans (Nat.le_of_eq (congrArg List.length hCells)) h.grows

theorem Object.make_succeeds {κ : Type} (config : κ) (store : Store) :
    (Object.make config).Succeeds store fun x last => x.IsNew config store last := by
  refine ⟨⟨store.cells.length, config⟩, { store with cells := store.cells ++ [{}] },
    rfl, rfl, rfl, ?_, ?_, ?_, ?_⟩
  · simp
  · simp [Store.cell, List.getD_eq_getElem?_getD]
  · intro id hId
    simp [Store.cell, List.getD_eq_getElem?_getD, List.getElem?_append_left hId]
  · simp [Store.Grows]

namespace World

variable {σ A S N : Type} {t : ValueType}

/-! ## What a wrapper needs -/

/-- A value is read into any reuse target, which is then returned. -/
def ReadsIntoTarget (W : World σ S N t.Val) (C : Contract σ A t S N) : Prop :=
  ∀ x state v target (input : InputChannel) suffix, W.live x state → W.domain v →
    input.rest = W.bytes x v ++ suffix → input.rest.length ≤ W.room →
    (C.operations x).deserializeInto.Succeeds ((target, input), state) fun returned last =>
      returned = .target ∧ W.like v last.1.1 ∧ last.1.2.rest = suffix ∧ W.Keeps state last.2

theorem ReadsIntoTarget.deserializesInto {W : World σ S N t.Val} {C : Contract σ A t S N}
    (h : W.ReadsIntoTarget C) : W.DeserializesInto C := by
  intro x state v target input suffix hLive hDomain hInput hRoom
  apply (h x state v target input suffix hLive hDomain hInput hRoom).mono
  intro returned last hRead
  obtain ⟨rfl, hRead⟩ := hRead
  exact hRead

/-- Only values that the serializers are about are written successfully, and only their bytes are. -/
def WritesOnly (W : World σ S N t.Val) (C : Contract σ A t S N) : Prop :=
  ∀ x state v (out : OutputChannel) last, W.live x state →
    ((C.operations x).serialize v).outcome (out, state) = (.ok (), last) →
      W.domain v ∧ last.1 = out.appended (W.bytes x v) ∧ W.Keeps state last.2

/-- Every snapshot is written as the same bytes, behind whatever is there. -/
def WritesSnapshots (W : World σ S N t.Val) (C : Contract σ A t S N) (bytes : Bytes) : Prop :=
  ∀ n x state (out : OutputChannel), W.describes n x state →
    (C.writeSnapshot n).Succeeds (out, state) fun _ last =>
      last.1 = out.appended bytes ∧ W.Keeps state last.2

/-- These bytes are read as a snapshot of every serializer that has one, whatever is behind them. -/
def ReadsSnapshots (W : World σ S N t.Val) (C : Contract σ A t S N) (registry : Registry σ A)
    (bytes : Bytes) : Prop :=
  ∀ n x state (input : InputChannel) suffix, W.describes n x state → input.rest = bytes ++ suffix →
    input.rest.length ≤ Bytes.longest →
    (C.readSnapshot registry).Succeeds (input, state) fun read last =>
      last.1.rest = suffix ∧ W.describes read x last.2 ∧ W.Keeps state last.2

theorem rereadsSnapshots {W : World σ S N t.Val} {C : Contract σ A t S N} {registry : Registry σ A}
    {bytes : Bytes} (hLength : bytes.length ≤ Bytes.longest) (hWrites : W.WritesSnapshots C bytes)
    (hReads : W.ReadsSnapshots C registry bytes) : W.RereadsSnapshots C registry := by
  intro n x state hDescribes
  apply (hWrites n x state {} hDescribes).withLocal.mono
  intro written middle hWritten
  obtain ⟨hOut, hMiddle⟩ := hWritten
  have hOut : written.2 = ({} : OutputChannel).appended bytes := hOut
  have hInput : written.2.inputView.rest = bytes ++ [] := by
    rw [hOut, List.append_nil]
    rfl
  have hFits : written.2.inputView.rest.length ≤ Bytes.longest := by
    rw [hInput, List.append_nil]
    exact hLength
  apply (hReads n x middle _ [] (hMiddle.describes n x hDescribes) hInput hFits).withLocal.mono
  intro read last hRead
  obtain ⟨hEnd, hDescribes, hLast⟩ := hRead
  exact ⟨InputChannel.available_of_rest hEnd, hDescribes, hMiddle.trans hLast⟩

/-- Serializers that equal what their snapshots restore. -/
structure Restorable (W : World σ S N t.Val) (C : Contract σ A t S N) : Prop where
  snapshots : W.Snapshots C
  restores : W.Restores C
  compares : W.Compares C

/-- A snapshot of a serializer of one world is resolved with a serializer of another one. If the two are not
compatible, so is the verdict; if they are, the snapshot is compatible as it is, or with a serializer that
can replace the one it describes. -/
def ResolvesWith (V W : World σ S N t.Val) (C : Contract σ A t S N) (compatible : Prop) : Prop :=
  ∀ n x y state, V.describes n x state → V.live x state → W.live y state →
    (C.resolve n y).Succeeds state fun verdict last => V.Keeps state last ∧
      (¬ compatible ∧ verdict = .incompatible ∨
        compatible ∧ (verdict = .asIs ∨ ∃ z, verdict = .reconfigured (some z) ∧ V.Replaces C z x last))

theorem Resolves.resolvesWith {W : World σ S N t.Val} {C : Contract σ A t S N} (h : W.Resolves C) :
    W.ResolvesWith W C True := by
  intro n x y state hDescribes hLive hLive'
  exact (h n x y state hDescribes hLive hLive').mono fun _ _ hVerdict =>
    ⟨hVerdict.1, .inr ⟨trivial, hVerdict.2⟩⟩

theorem ResolvesWith.resolves {W : World σ S N t.Val} {C : Contract σ A t S N} {compatible : Prop}
    (h : W.ResolvesWith W C compatible) (hCompatible : compatible) : W.Resolves C := by
  intro n x y state hDescribes hLive hLive'
  apply (h n x y state hDescribes hLive hLive').mono
  intro verdict last hVerdict
  obtain ⟨hKeeps, ⟨hNot, -⟩ | ⟨-, hOther⟩⟩ := hVerdict
  · exact absurd hCompatible hNot
  · exact ⟨hKeeps, hOther⟩

/-- Serializers that keep the whole contract, whoever allocates cells meanwhile, and whose snapshots can be
nested in other ones. -/
structure Wrappable (W : World Store S N t.Val) (C : Contract Store A t S N) (registry : Registry Store A)
    (snapshotBytes : Bytes) : Prop extends W.Conforms C registry fun _ => true where
  valid : ∀ store, W.valid store
  keeps : ∀ before after, before.Grows after → W.Keeps before after
  readsIntoTarget : W.ReadsIntoTarget C
  writesSnapshots : W.WritesSnapshots C snapshotBytes
  readsSnapshots : W.ReadsSnapshots C registry snapshotBytes
  room : W.room = Bytes.longest

end World

/-! ## Objects of one configuration -/

/-- A registry makes empty snapshots of some kind under an id. -/
def Contract.Registered {A S N : Type} {t : ValueType} (C : Contract Store A t S N)
    (registry : Registry Store A) (id : Bytes) (empty : N → Prop) : Prop :=
  ∀ store, (C.instantiate registry id).Succeeds store fun made last => empty made ∧ store.Grows last

/-- The snapshot of all serializers of one configuration: its payload is written and read back, and it
restores an object of that configuration. -/
structure Contract.Described {κ A N : Type} {t : ValueType} (C : Contract Store A t (Object κ) N)
    (config : κ) (snapshot : N) (payload : Bytes) (empty : N → Prop) : Prop where
  takes : ∀ x, x.config = config → C.snapshot x = pure (some snapshot)
  id_le : (C.snapshotId snapshot).length ≤ Width.w32.maximum
  payload_le : payload.length ≤ Width.w32.maximum
  /-- An empty snapshot is of the type that was written. -/
  emptyType : ∀ made, empty made → C.snapshotTypeName made = C.snapshotTypeName snapshot
  writes : ∀ store, (C.writePayload snapshot).Succeeds ({}, store) fun _ last =>
    last.1.data = payload ∧ last.2 = store
  reads : ∀ registry made store, empty made →
    (C.readPayload (BitVec.ofInt 32 (C.snapshotVersion snapshot)).toInt registry).Succeeds
      ((made, InputChannel.ofBytes payload), store) fun _ last =>
        last.1.2.rest = [] ∧ last.1.1 = snapshot ∧ last.2 = store
  restore : C.restore snapshot = (do return some (← Object.make config))
  typeName : ∀ x y, x.config = config → y.config = config → C.typeName x = C.typeName y

/-- Serializers of one configuration are duplicated, compared and resolved by it. -/
structure Contract.Configured {κ A N : Type} {t : ValueType} (C : Contract Store A t (Object κ) N)
    (config : κ) (snapshot : N) : Prop where
  duplicate : ∀ x, x.config = config → C.duplicate x = (do return some (← Object.make config))
  equals : ∀ x y, x.config = config → y.config = config → C.equals x y = pure true
  resolve : ∀ y, y.config = config → C.resolve snapshot y = pure .asIs ∨
    C.resolve snapshot y = (do return .reconfigured (some (← Object.make config)))

namespace World

variable {κ A N α : Type} {t : ValueType}

/-- What is known of objects of one configuration, and of the values that they are about. -/
def ofObjects (config : κ) (snapshot : N) (alike : Object κ → Object κ → Prop)
    (domain : α → Prop) (like : α → α → Prop) (bytes : α → Bytes) (length : Int) :
    World Store (Object κ) N α where
  valid _ := True
  live x store := x.config = config ∧ x.id < store.cells.length
  alike x y _ := alike x y
  describes n _ _ := n = snapshot
  domain := domain
  like := like
  bytes _ v := bytes v
  length := length
  room := Bytes.longest

variable {config : κ} {snapshot : N} {alike : Object κ → Object κ → Prop}
    {domain : t.Val → Prop} {like : t.Val → t.Val → Prop}
    {bytes : t.Val → Bytes} {length : Int} {payload : Bytes} {empty : N → Prop}
    {C : Contract Store A t (Object κ) N} {registry : Registry Store A}

theorem ofObjects_keeps {before after : Store} (h : before.Grows after) :
    (ofObjects config snapshot alike domain like bytes length).Keeps before after :=
  ⟨id, fun _ hLive => ⟨hLive.1, Nat.lt_of_lt_of_le hLive.2 h⟩, fun _ _ => id, fun _ _ => id⟩

/-- A new object can be used like every other one of its configuration. -/
theorem ofObjects_make_succeeds (store : Store) :
    (Object.make config).Succeeds store fun x last =>
      (ofObjects config snapshot alike domain like bytes length).live x last ∧ x.id = store.cells.length ∧
        (ofObjects config snapshot alike domain like bytes length).Keeps store last := by
  apply (Object.make_succeeds config store).mono
  intro x last hMade
  exact ⟨⟨hMade.config, hMade.id_lt⟩, hMade.id, ofObjects_keeps hMade.grows⟩

theorem ofObjects_build_succeeds (store : Store) :
    (do return some (← Object.make config) : Action Store (Option (Object κ))).Succeeds store
      fun built last => ∃ x, built = some x ∧
        (ofObjects config snapshot alike domain like bytes length).live x last ∧
        (ofObjects config snapshot alike domain like bytes length).Keeps store last := by
  apply (ofObjects_make_succeeds store).bind
  intro x last hMade
  exact Action.pure_succeeds ⟨x, rfl, hMade.1, hMade.2.2⟩

/-- What objects of one configuration do with values. -/
structure Handles (W : World Store (Object κ) N t.Val) (C : Contract Store A t (Object κ) N) : Prop where
  like_trans : ∀ u v w, W.like u v → W.like v w → W.like u w
  domain_like : ∀ v w, W.domain v → W.like v w → W.domain w
  creates : W.Creates C fun _ => true
  copies : W.Copies C
  copiesInto : W.CopiesInto C
  serializes : W.Serializes C
  deserializes : W.Deserializes C
  readsIntoTarget : W.ReadsIntoTarget C
  rawCopies : W.RawCopies C
  writesSome : W.WritesSome
  measures : W.Measures C
  hasLength : W.HasLength
  length_ne_zero : W.length ≠ 0
  length_lt : W.length < 0x7fffffff

theorem ofObjects_compares (hConfigured : C.Configured config snapshot) :
    (ofObjects config snapshot (fun _ _ => True) domain like bytes length).Compares C := by
  refine ⟨fun _ _ _ => id, fun x y store hLive hLive' _ => ?_⟩
  rw [hConfigured.equals x y hLive.1 hLive'.1]
  exact Action.pure_succeeds ⟨rfl, Keeps.refl _ store⟩

theorem ofObjects_duplicates (hConfigured : C.Configured config snapshot) :
    (ofObjects config snapshot (fun _ _ => True) domain like bytes length).Duplicates C := by
  intro x store hLive
  rw [hConfigured.duplicate x hLive.1]
  apply (ofObjects_make_succeeds store).bind
  intro y last hMade
  exact Action.pure_succeeds ⟨y, rfl, hMade.1, trivial, hMade.2.2⟩

section Described

variable (h : C.Described config snapshot payload empty)

include h

theorem ofObjects_writesSnapshots : (ofObjects config snapshot alike domain like bytes length).WritesSnapshots C
    (C.framed snapshot payload) := by
  intro n x store out hDescribes
  obtain rfl := hDescribes
  apply (C.writeSnapshot_succeeds (· = store) h.id_le (h.writes store)).mono
  intro _ last hWritten
  obtain ⟨hOut, rfl⟩ := hWritten
  exact ⟨hOut, Keeps.refl _ _⟩

theorem ofObjects_snapshots : (ofObjects config snapshot alike domain like bytes length).Snapshots C := by
  intro x store hLive
  rw [h.takes x hLive.1]
  exact Action.pure_succeeds ⟨snapshot, rfl, rfl, Keeps.refl _ store⟩

section New

variable (hNew : ∀ x y, x.id < y.id → alike y x)

include hNew

theorem ofObjects_restores : (ofObjects config snapshot alike domain like bytes length).Restores C := by
  intro n x store hDescribes hLive
  obtain rfl := hDescribes
  rw [h.restore]
  apply (ofObjects_make_succeeds store).bind
  intro y last hMade
  obtain ⟨hLiveNew, hId, hKeeps⟩ := hMade
  have hAlike := hNew x y (Nat.lt_of_lt_of_eq hLive.2 hId.symm)
  exact Action.pure_succeeds ⟨y, rfl, ⟨hLiveNew, h.typeName y x hLiveNew.1 hLive.1, hAlike⟩, hKeeps⟩

theorem ofObjects_resolves (hResolve : ∀ y, y.config = config → C.resolve snapshot y = pure .asIs ∨
      C.resolve snapshot y = (do return .reconfigured (some (← Object.make config)))) :
    (ofObjects config snapshot alike domain like bytes length).Resolves C := by
  intro n x y store hDescribes hLive hLive'
  obtain rfl := hDescribes
  rcases hResolve y hLive'.1 with hSame | hOther
  · rw [hSame]
    exact Action.pure_succeeds ⟨Keeps.refl _ store, .inl rfl⟩
  · rw [hOther]
    apply (ofObjects_make_succeeds store).bind
    intro z last hMade
    obtain ⟨hLiveNew, hId, hKeeps⟩ := hMade
    have hAlike := hNew x z (Nat.lt_of_lt_of_eq hLive.2 hId.symm)
    exact Action.pure_succeeds
      ⟨hKeeps, .inr ⟨z, rfl, hLiveNew, h.typeName z x hLiveNew.1 hLive.1, hAlike⟩⟩

end New

theorem ofObjects_restorable (hConfigured : C.Configured config snapshot) :
    (ofObjects config snapshot (fun _ _ => True) domain like bytes length).Restorable C :=
  ⟨ofObjects_snapshots h, ofObjects_restores h fun _ _ _ => trivial, ofObjects_compares hConfigured⟩

variable (hRegistered : C.Registered registry (C.snapshotId snapshot) empty)

include hRegistered

theorem ofObjects_registers :
    (ofObjects config snapshot alike domain like bytes length).Registers C registry := by
  intro n x store hDescribes
  obtain rfl := hDescribes
  apply (hRegistered store).mono
  intro made last hMade
  exact ⟨h.emptyType made hMade.1, ofObjects_keeps hMade.2⟩

theorem ofObjects_readsSnapshots :
    (ofObjects config snapshot alike domain like bytes length).ReadsSnapshots C registry
      (C.framed snapshot payload) := by
  intro n x store input suffix _ hInput hLength
  have hPayload : (C.instantiate registry (C.snapshotId snapshot)).Succeeds store fun made middle =>
      (C.readPayload (BitVec.ofInt 32 (C.snapshotVersion snapshot)).toInt registry).Succeeds
        ((made, InputChannel.ofBytes payload), middle) fun _ last =>
          last.1.2.rest = [] ∧ last.1.1 = snapshot ∧ store.Grows last.2 := by
    apply (hRegistered store).mono
    intro made middle hMade
    obtain ⟨hEmpty, hGrows⟩ := hMade
    apply (h.reads registry made middle hEmpty).mono
    intro _ last hRead
    obtain ⟨hEnd, hSame, rfl⟩ := hRead
    exact ⟨hEnd, hSame, hGrows⟩
  apply (C.readSnapshot_succeeds (fun read last => read = snapshot ∧ store.Grows last) hInput hLength h.id_le
    h.payload_le hPayload).mono
  intro read last hLast
  obtain ⟨hRest, rfl, hGrows⟩ := hLast
  exact ⟨hRest, rfl, ofObjects_keeps hGrows⟩

theorem ofObjects_rereadsSnapshots :
    (ofObjects config snapshot alike domain like bytes length).RereadsSnapshots C registry :=
  rereadsSnapshots (C.length_framed_le h.id_le h.payload_le) (ofObjects_writesSnapshots h)
    (ofObjects_readsSnapshots h hRegistered)

/-- Objects of one configuration keep the contract if they handle values as it says. -/
theorem ofObjects_wrappable (hConfigured : C.Configured config snapshot)
    (hHandles : (ofObjects config snapshot (fun _ _ => True) domain like bytes length).Handles C) :
    (ofObjects config snapshot (fun _ _ => True) domain like bytes length).Wrappable C registry
      (C.framed snapshot payload) := {
  hHandles, ofObjects_restorable h hConfigured with
  deserializesInto := hHandles.readsIntoTarget.deserializesInto
  duplicates := ofObjects_duplicates hConfigured
  registers := ofObjects_registers h hRegistered
  rereadsSnapshots := ofObjects_rereadsSnapshots h hRegistered
  resolves := ofObjects_resolves h (fun _ _ _ => trivial) hConfigured.resolve
  valid := fun _ => trivial
  keeps := fun _ _ => ofObjects_keeps
  writesSnapshots := ofObjects_writesSnapshots h
  readsSnapshots := ofObjects_readsSnapshots h hRegistered
  room := rfl }

end Described

end World

end SerializerContract
