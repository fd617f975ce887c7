import SerializerContract.Proofs.Interchange.Optional
import SerializerContract.Proofs.Nesting.Basic

/-! Equal serializers can stand in for each other. Serializers are compared by their types, their limits and their
paddings, level by level; whatever else tells two of them apart shows neither in what they do nor in their
snapshots. -/
namespace SerializerContract

open Duplication (Alike)

/-- A frame is put around whatever is written as the payload. -/
theorem Contract.writeSnapshot_alike {σ A S N : Type} {t : ValueType} {C : Contract σ A t S N} {n : N}
    {valid : σ → Prop} (h : Alike valid (C.writePayload n) (C.writePayload n)) :
    Alike valid (C.writeSnapshot n) (C.writeSnapshot n) :=
  h.withLocal.bind fun _ => .onFirst _

namespace Family

variable {f : Family}

/-- The two are equal, and nothing changes when they are compared. -/
def Equal (x y : f.Serializer) (store : Store) : Prop := (f.contract.equals x y).outcome store = (.ok true, store)

/-- Whatever can be done with one of the two from now on can be done with the other one, and leads to the same. -/
structure Interchangeable (x y : f.Serializer) (store : Store) : Prop where
  operations : (f.contract.operations x).DoSame store.Grows (f.contract.operations y)
  /-- Their snapshots are the same, and are always written as the same bytes, if they can be written. -/
  snapshots : ∃ n, f.contract.snapshot x = pure (some n) ∧ f.contract.snapshot y = pure (some n) ∧
    Alike store.Grows (f.contract.writeSnapshot n) (f.contract.writeSnapshot n)

end Family

namespace Nesting

variable {f : Family} {x y z : f.Serializer} {store : Store}

/-- Serializers are equal exactly if they are configured the same way, at every level. -/
theorem equals_eq (s s' : Nesting f) (hx : s.world.live x store) (hy : s'.world.live y store) :
    ∃ equal, f.contract.equals x y = pure equal ∧ (equal = true ↔ s = s') := by
  induction s with
  | number =>
      cases s'
      obtain ⟨id, kind⟩ := x
      obtain ⟨id', kind'⟩ := y
      obtain rfl : kind = .plain := hx
      obtain rfl : kind' = .plain := hy
      exact ⟨true, rfl, by simp⟩
  | text config =>
      cases s' with
      | text other =>
          obtain ⟨id, _⟩ := x
          obtain ⟨id', _⟩ := y
          obtain ⟨rfl, -⟩ := hx
          obtain ⟨rfl, -⟩ := hy
          exact ⟨_, rfl, by simp⟩
  | numbers =>
      cases s'
      exact ⟨true, NumbersSerializer.configured.equals x y hx.1 hy.1, by simp⟩
  | point =>
      cases s'
      exact ⟨true, rfl, by simp⟩
  | circle =>
      cases s'
      exact ⟨true, rfl, by simp⟩
  | @nullable f inner padding padded ih =>
      cases s' with
      | nullable other padding' padded' =>
          obtain ⟨equal, hEqual, hSame⟩ := ih other hx.1 hy.1
          have hEquals : (Family.nullable f).contract.equals x y = if padding = padding' then pure equal
              else pure false := by
            rw [← hEqual, ← hx.2.1, ← hy.2.1]
            rfl
          by_cases hPadding : padding = padding'
          · refine ⟨equal, by rw [hEquals, if_pos hPadding], ?_⟩
            simp [hSame, hPadding]
          · refine ⟨false, by rw [hEquals, if_neg hPadding], ?_⟩
            simp [hPadding]

/-- Two live serializers of one nesting cannot be told apart by their operations, now or later. -/
theorem operations_doSame (s : Nesting f) (hx : s.world.live x store) (hy : s.world.live y store) :
    (f.contract.operations x).DoSame store.Grows (f.contract.operations y) := by
  induction s with
  | number =>
      obtain ⟨id, kind⟩ := x
      obtain ⟨id', kind'⟩ := y
      obtain rfl : kind = .plain := hx
      obtain rfl : kind' = .plain := hy
      exact Operations.ofCodec_doSame ..
  | text config =>
      obtain ⟨id, configured⟩ := x
      obtain ⟨id', configured'⟩ := y
      obtain rfl : configured = config := hx.1
      obtain rfl : configured' = configured := hy.1
      cases configured' with
      | unbounded => exact Operations.ofCodec_doSame ..
      | bounded limit => exact TextSerializer.bounded_doSame limit
  | numbers =>
      obtain ⟨id, kind⟩ := x
      obtain ⟨id', kind'⟩ := y
      obtain ⟨rfl, hId⟩ := hx
      obtain ⟨rfl, hId'⟩ := hy
      exact NumbersSerializer.plain_doSame hId hId'
  | point => exact PointSerializer.operations_doSame
  | circle => exact CircleSerializer.operations_doSame
  | @nullable f inner padding padded ih =>
      have hWrapper : ∀ z, (nullable inner padding padded).world.live z store →
          (Family.nullable f).contract.operations z = Nullable.operations (f.contract.operations z.config.inner) padding :=
        fun _ => World.optional_operations
      rw [hWrapper x hx, hWrapper y hy]
      exact Nullable.operations_doSame (ih hx.1 hy.1)

theorem writeSnapshot_alike (s : Nesting f) {valid : Store → Prop} :
    Alike valid (f.contract.writeSnapshot s.described) (f.contract.writeSnapshot s.described) := by
  induction s with
  | number => exact Contract.writeSnapshot_alike (.pure ())
  | text config =>
      refine Contract.writeSnapshot_alike ?_
      cases config with
      | unbounded => exact Duplication.Alike.pure ()
      | bounded limit => exact Duplication.Alike.onFirst (OutputChannel.write wordCodec limit)
  | numbers => exact Contract.writeSnapshot_alike (.pure ())
  | point => exact Contract.writeSnapshot_alike (.pure ())
  | circle => exact Contract.writeSnapshot_alike (.pure ())
  | nullable inner padding padded ih => exact Contract.writeSnapshot_alike (.bind (.onFirst _) fun _ => ih)

/-- Each nesting duplicates into an equal serializer. -/
theorem duplicates (s : Nesting f) : s.world.Duplicates f.contract := by
  induction s with
  | number => exact NumberSerializer.world_duplicates
  | text config => exact World.ofObjects_duplicates (TextSerializer.configured config)
  | numbers => exact World.ofObjects_duplicates NumbersSerializer.configured
  | point => exact World.ofObjects_duplicates PointSerializer.configured
  | circle => exact World.ofObjects_duplicates CircleSerializer.configured
  | nullable inner padding padded ih => exact World.optional_duplicates ih fun _ _ => inner.keeps_of_grows

/-- Live serializers are equal exactly when they are of the same nesting. -/
theorem equal_iff (s s' : Nesting f) (hx : s.world.live x store) (hy : s'.world.live y store) :
    Family.Equal x y store ↔ s = s' := by
  obtain ⟨equal, hEquals, hSame⟩ := s.equals_eq s' hx hy
  rw [Family.Equal, hEquals, ← hSame]
  simp

/-- Two live serializers of one nesting can stand in for each other in every call. -/
theorem interchangeable (s : Nesting f) (hx : s.world.live x store) (hy : s.world.live y store) :
    Family.Interchangeable x y store :=
  ⟨s.operations_doSame hx hy,
    s.described, s.snapshot_eq_described hx, s.snapshot_eq_described hy, s.writeSnapshot_alike⟩

/-- Equal serializers are interchangeable. Comparing is an equivalence of all serializers of a family, however they
are configured, and changes nothing; a duplicate equals its source. If two are equal, then whatever is done with
one of them in any later store, the other one does the same in any other one: with the same values, sources and
reuse targets it returns, writes and leaves the same, or fails the same way; and so do their snapshots. -/
theorem equal_serializers_interchange (s s' s'' : Nesting f) (hx : s.world.live x store)
    (hy : s'.world.live y store) (hz : s''.world.live z store) :
    Family.Equal x x store ∧
    (∃ equal, (f.contract.equals x y).outcome store = (.ok equal, store) ∧
      (f.contract.equals y x).outcome store = (.ok equal, store)) ∧
    (Family.Equal x y store → Family.Equal y z store → Family.Equal x z store) ∧
    ((f.contract.duplicate x).Succeeds store fun made last => ∃ d, made = some d ∧
      Family.Equal d x last ∧ Family.Equal x d last) ∧
    (Family.Equal x y store → Family.Interchangeable x y store) := by
  refine ⟨(s.equal_iff s hx hx).mpr rfl, ?_, fun hxy hyz => ?_, ?_, fun hxy => ?_⟩
  · obtain ⟨equal, hEquals, hSame⟩ := s.equals_eq s' hx hy
    obtain ⟨equal', hEquals', hSame'⟩ := s'.equals_eq s hy hx
    have hBoth : equal = equal' := by
      rw [Bool.eq_iff_iff, hSame, hSame']
      exact eq_comm
    exact ⟨equal, by rw [hEquals]; rfl, by rw [hEquals', hBoth]; rfl⟩
  · have hMiddle := (s.equal_iff s' hx hy).mp hxy
    have hEnd := (s'.equal_iff s'' hy hz).mp hyz
    exact (s.equal_iff s'' hx hz).mpr (hMiddle.trans hEnd)
  · apply (s.duplicates x store hx).mono
    intro _ last hDuplicated
    obtain ⟨d, rfl, hd, -, hKeeps⟩ := hDuplicated
    have hLast := hKeeps.live x hx
    exact ⟨d, rfl, (s.equal_iff s hd hLast).mpr rfl, (s.equal_iff s hLast hd).mpr rfl⟩
  · obtain rfl := (s.equal_iff s' hx hy).mp hxy
    exact s.interchangeable hx hy

/-- Two wrapped serializers of lists, one of which has just written one. -/
theorem equal_serializers_interchange_numbers :
    let s : Nesting (.nullable .numbers) := .nullable .numbers 0 (Nat.zero_le _)
    let x : (Family.nullable .numbers).Serializer := ⟨1, ⟨⟨0, .plain⟩, 0, none⟩⟩
    let y : (Family.nullable .numbers).Serializer := ⟨3, ⟨⟨2, .plain⟩, 0, none⟩⟩
    let store : Store := ⟨[{ scratch := ⟨[0, 0, 0, 0]⟩ }, {}, {}, {}], 0, 0⟩
    s.world.live x store ∧ s.world.live y store ∧ Family.Equal x y store ∧ Family.Interchangeable x y store := by
  intro s x y store
  have hx : s.world.live x store := ⟨⟨rfl, by decide⟩, rfl, rfl⟩
  have hy : s.world.live y store := ⟨⟨rfl, by decide⟩, rfl, rfl⟩
  have hEqual : Family.Equal x y store := rfl
  exact ⟨hx, hy, hEqual, (equal_serializers_interchange s s s hx hy hx).2.2.2.2 hEqual⟩

end Nesting

end SerializerContract
