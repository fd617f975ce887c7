import SerializerContract.Proofs.Conformance.Objects
import SerializerContract.Proofs.Conformance.Values

/-! Fixtures about objects of one configuration. Every check gets a new object, and nothing that an earlier
check did to other objects matters for it. -/
namespace SerializerContract

variable {κ A N : Type} {t : ValueType} {C : Contract Store A t (Object κ) N} {config : κ} {snapshot : N}

/-- A fixture that hands out new objects of one configuration, leaves it to the checker to compare values, and
registers the snapshot of the configuration under its own id. The system grants what the options ask for. -/
structure Fixture.Presents (fixture : Fixture C) (options : RunOptions) (config : κ) (snapshot : N) : Prop where
  creates : ∀ store, fixture.createSerializer.Succeeds store fun created last =>
    ∃ x : Object κ, created = some x ∧ x.IsNew config store last
  samples_ne : fixture.samples ≠ []
  accepts : fixture.acceptsInstance = fun _ => true
  comparators : fixture.registrations = []
  registers : ∀ store, fixture.registry.Succeeds store fun registry _ =>
    C.Registered registry (C.snapshotId snapshot) (· = snapshot)
  usable : options.isUsable = true
  workers : Duplication.reserve options.workers = .ok ()
  channels : OutputChannel.reserve options.capacity = .ok ()
  threads : ∀ store, fixture.startThread.Succeeds store fun _ last => store.Grows last

namespace Suite

/-- A suite that was prepared from such a fixture. -/
structure Presents (suite : Suite C) (config : κ) (snapshot : N) : Prop where
  fixture : suite.fixture.Presents suite.options config snapshot
  checker : suite.checker = {}
  registered : C.Registered suite.registry (C.snapshotId snapshot) (· = snapshot)

/-- What a fixture presents, the suite that is prepared from it presents too. -/
theorem presents_of_prepare {fixture : Fixture C} {options : RunOptions}
    (h : fixture.Presents options config snapshot) (store : Store) :
    (prepare fixture {} options).Succeeds store fun suite _ =>
      suite.fixture = fixture ∧ suite.Presents config snapshot := by
  apply (prepare_succeeds h.samples_ne h.usable (h.registers store)).mono
  intro suite _ hPrepared
  obtain ⟨registry, rfl, hRegistered⟩ := hPrepared
  refine ⟨rfl, h, ?_, hRegistered⟩
  change Checker.registerAll {} fixture.registrations = {}
  rw [h.comparators]
  rfl

namespace Presents

variable {suite : Suite C} (h : suite.Presents config snapshot) {store : Store}

include h

/-- The fixture makes a new serializer each time. -/
theorem getSerializer_succeeds (property : String) :
    (suite.getSerializer property).Succeeds store fun x last => x.IsNew config store last := by
  obtain ⟨_, last, hOutcome, x, rfl, hNew⟩ := h.fixture.creates store
  exact ⟨x, last, getSerializer_ok_iff.mpr hOutcome, hNew⟩

/-- Whatever the fixture hands out has the configuration. -/
theorem config_of_created {x : Object κ} {served : Store}
    (hCreated : suite.fixture.createSerializer.outcome store = (.ok (some x), served)) : x.config = config := by
  obtain ⟨_, last, hOutcome, y, rfl, hNew⟩ := h.fixture.creates store
  obtain ⟨hSame, -⟩ := Prod.mk.inj (hOutcome.symm.trans hCreated)
  obtain rfl := Option.some.inj (Except.ok.inj hSame)
  exact hNew.config

variable {alike : Object κ → Object κ → Prop} {domain : t.Val → Prop} {like : t.Val → t.Val → Prop}
    {bytes : t.Val → Bytes} {length : Int}

/-- A suite that presents objects of some kind supplies the samples of their world. -/
theorem supplies (hLength : suite.fixture.length = length) (hSamples : ∀ v ∈ suite.fixture.samples, domain v)
    (hCompares : ∀ v w, domain v → like v w → Checker.equals {} t v w = .ok true)
    (hRoom : (suite.fixture.samples.flatMap bytes).length < Bytes.longest) :
    (World.ofObjects config snapshot alike domain like bytes length).Supplies suite where
  creates := by
    intro store _
    apply (h.fixture.creates store).mono
    intro created last hCreated
    obtain ⟨x, hSome, hNew⟩ := hCreated
    exact ⟨x, hSome, ⟨hNew.config, hNew.id_lt⟩, World.ofObjects_keeps hNew.grows⟩
  length := hLength
  samples := hSamples
  compares := fun v w hDomain hLike => by rw [h.checker]; exact hCompares v w hDomain hLike
  room := fun _ _ _ => hRoom

theorem affords :
    (World.ofObjects config snapshot alike domain like bytes length).Affords suite where
  usable := h.fixture.usable
  samples := h.fixture.samples_ne
  workers := h.fixture.workers
  channels := h.fixture.channels
  threads := fun store _ => (h.fixture.threads store).mono fun _ _ => World.ofObjects_keeps

end Presents

end Suite

end SerializerContract
