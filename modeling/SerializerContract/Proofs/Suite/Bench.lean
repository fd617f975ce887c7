import SerializerContract.Proofs.Conformance.Objects
import SerializerContract.Suite.Bench

/-! Benches. A bench of one blueprint hands out the same kind of serializer again and again, may register the
snapshot of it, and a system that refuses no thread only counts them. -/
namespace SerializerContract

/-- A registry's snapshot of a family belongs to it. -/
theorem Family.contract_ofAny (f : Family) (n : f.Snapshot) : f.contract.ofAny ⟨f, n⟩ = some n := by
  have hOwn : f.snapshotOf ⟨f, n⟩ = some n := dif_pos rfl
  cases f <;> exact hOwn

theorem Blueprint.snapshot_succeeds {f : Family} {blueprint : Blueprint f} {n : f.Snapshot} {store : Store}
    (hBuild : blueprint.build.Succeeds store fun created last =>
      ∃ x, created = some x ∧ f.contract.snapshot x = pure (some n) ∧ store.Grows last) :
    blueprint.snapshot.Succeeds store fun made last => made = some ⟨f, n⟩ ∧ store.Grows last := by
  apply hBuild.bind
  intro created last hCreated
  obtain ⟨x, rfl, hSnapshot, hGrows⟩ := hCreated
  have hTaken : (f.contract.snapshot x).Succeeds last fun snapshot later =>
      snapshot = some n ∧ later = last := by
    rw [hSnapshot]
    exact Action.pure_succeeds ⟨rfl, rfl⟩
  apply hTaken.bind
  intro _ _ hTaken
  obtain ⟨rfl, rfl⟩ := hTaken
  exact Action.pure_succeeds ⟨rfl, hGrows⟩

/-- What is described by a configuration alone is made anew. -/
theorem Object.build_succeeds {κ : Type} (config : κ) (store : Store) :
    (do return some (← Object.make config) : Action Store (Option (Object κ))).Succeeds store
      fun created last => ∃ x : Object κ, created = some x ∧ x.IsNew config store last := by
  apply (Object.make_succeeds config store).bind
  intro x last hNew
  exact Action.pure_succeeds ⟨x, rfl, hNew⟩

namespace Bench

variable {f : Family} {bench : Bench f} {blueprint : Blueprint f}

/-- A bench of one blueprint serves it at every call. -/
theorem blueprintAfter_of_single (h : bench.blueprints = [blueprint]) (served : Nat) :
    bench.blueprintAfter served = blueprint := by
  rw [blueprintAfter, h, List.length_singleton, Nat.sub_self, Nat.min_zero]
  rfl

/-- The serializer is counted before it is built. -/
theorem createSerializer_succeeds (h : bench.blueprints = [blueprint]) {store : Store}
    {post : Option f.Serializer → Store → Prop}
    (hBuild : blueprint.build.Succeeds { store with served := store.served + 1 } post) :
    bench.fixture.createSerializer.Succeeds store post := by
  obtain ⟨created, last, hOutcome, hPost⟩ := hBuild
  refine ⟨created, last, ?_, hPost⟩
  change ((bench.blueprintAfter store.served).build).outcome { store with served := store.served + 1 } = _
  rw [blueprintAfter_of_single h, hOutcome]

/-- A bench that registers nothing but the snapshot of its own serializers. -/
theorem registry_succeeds (h : bench.blueprints = [blueprint]) (hEntries : bench.entries = [.own])
    {n : f.Snapshot}
    (hSnapshot : ∀ store, blueprint.snapshot.Succeeds store fun made last =>
      made = some ⟨f, n⟩ ∧ store.Grows last)
    (store : Store) : bench.fixture.registry.Succeeds store fun registry _ =>
      f.contract.Registered registry (f.contract.snapshotId n) (· = n) := by
  change (RegistryEntry.registerAll (bench.blueprintAfter 0) {} bench.entries).Succeeds store _
  rw [blueprintAfter_of_single h, hEntries]
  have hOwn : (RegistryEntry.own.register blueprint {}).Succeeds store fun registry _ =>
      registry = Registry.register {} (f.contract.snapshotId n) blueprint.snapshot := by
    apply (hSnapshot store).bind
    intro made last hMade
    obtain ⟨rfl, -⟩ := hMade
    exact Action.pure_succeeds rfl
  apply hOwn.bind
  intro registry last hRegistry
  obtain rfl := hRegistry
  refine Action.pure_succeeds fun later => ?_
  apply Contract.instantiate_succeeds _ (Registry.find_register _ _)
  apply (hSnapshot later).mono
  intro made last hMade
  obtain ⟨rfl, hGrows⟩ := hMade
  exact ⟨_, n, rfl, f.contract_ofAny n, rfl, hGrows⟩

/-- Without a last thread every thread starts. -/
theorem startThread_succeeds (h : bench.lastThread = none) (store : Store) :
    bench.fixture.startThread.Succeeds store fun _ last =>
      last = { store with threads := store.threads + 1 } := by
  change (Bench.startThread bench.lastThread).Succeeds store _
  rw [h]
  exact ⟨(), _, rfl, rfl⟩

end Bench

end SerializerContract
