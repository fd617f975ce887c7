import SerializerContract.Nullable.Contract
import SerializerContract.Proofs.Conformance.Nullability
import SerializerContract.Proofs.Conformance.Objects

/-! What a wrapper does with values. It adds a flag to every value and a padding to null, and leaves the rest to
what it wraps. -/
namespace SerializerContract

variable {A S N : Type} {t : ValueType}

/-- A wrapper is an object that holds what it wraps and its padding. -/
theorem Wrapper.make_succeeds (inner : S) (padding : Nat) (store : Store) :
    (Wrapper.make (some inner) padding).Succeeds store fun made last =>
      made.config = ⟨inner, padding, none⟩ ∧ store.Grows last := by
  have hPadding : Nullable.checkPadding padding = .ok padding :=
    if_neg (Int.not_lt.mpr (Int.natCast_nonneg padding))
  apply (Action.ofExcept_succeeds hPadding).bind
  intro _ _ hSame
  obtain ⟨rfl, rfl⟩ := hSame
  apply (Object.make_succeeds _ _).mono
  intro made last hMade
  exact ⟨hMade.config, hMade.grows⟩

namespace World

/-- What is known of wrappers of some padding, if what they wrap is known. -/
def optional (W : World Store S N t.Val) (padding : Nat) :
    World Store (Object (Wrapper S)) (WrapperSnapshot N) (ValueType.optional t).Val where
  valid := W.valid
  live x store := W.live x.config.inner store ∧ x.config.padding = padding ∧ x.config.emptyInstances = none
  alike x y store := W.alike x.config.inner y.config.inner store
  describes n x store := ∃ m, n = ⟨some m, padding⟩ ∧ W.describes m x.config.inner store
  domain v := ∀ u, v = some u → W.domain u
  like := Option.Rel W.like
  bytes x v := W.optionalBytes x.config.inner padding v
  length := Nullable.length padding
  room := W.room

variable {W : World Store S N t.Val} {C : Contract Store A t S N} {padding : Nat}
    {ofAny : A → Option (WrapperSnapshot N)} {registry : Registry Store A} {snapshotBytes : Bytes}

theorem Keeps.optional {before after : Store} (h : W.Keeps before after) :
    (W.optional padding).Keeps before after where
  valid := h.valid
  live := fun x hLive => ⟨h.live x.config.inner hLive.1, hLive.2⟩
  alike := fun x y => h.alike x.config.inner y.config.inner
  describes := by
    intro n x hDescribes
    obtain ⟨m, rfl, hDescribes⟩ := hDescribes
    exact ⟨m, rfl, h.describes m x.config.inner hDescribes⟩

theorem optional_operations {x : Object (Wrapper S)} {store : Store}
    (hLive : (W.optional padding).live x store) :
    (Wrapper.contract C ofAny).operations x = Nullable.operations (C.operations x.config.inner) padding := by
  obtain ⟨id, inner, padding', empty⟩ := x
  obtain ⟨-, rfl, rfl⟩ := hLive
  rfl

/-! ## Bytes -/

/-- The flag is copied, and then the padding or the value. -/
theorem rawCopy_succeeds_of_flag {inner : Operations Store t.Val} {store : Store} (isNull : Bool)
    {input : InputChannel} {rest : Bytes} {out : OutputChannel}
    {post : Unit → (InputChannel × OutputChannel) × Store → Prop}
    (hInput : input.rest = Nullable.flagByte isNull :: rest)
    (hRest : ∀ later : InputChannel, later.rest = rest →
      (if isNull then Action.onFirst (OutputChannel.move padding) else inner.rawCopy).Succeeds
        ((later, out.appended [Nullable.flagByte isNull]), store) post) :
    (Nullable.rawCopy inner padding).Succeeds ((input, out), store) post := by
  apply (Nullable.readFlag_succeeds hInput).onFirst.onFirst.bind
  intro read middle hRead
  obtain ⟨⟨later, out'⟩, store'⟩ := middle
  obtain ⟨⟨⟨rfl, hLater⟩, rfl⟩, rfl⟩ := hRead
  have hWritten : (Nullable.writeFlag read).Succeeds out' fun _ last =>
      last = out'.appended [Nullable.flagByte read] := ⟨(), _, Nullable.writeFlag_outcome read out', rfl⟩
  apply hWritten.onSecond.onFirst.bind
  intro _ middle hWritten
  obtain ⟨⟨later', out''⟩, store''⟩ := middle
  obtain ⟨⟨rfl, rfl⟩, rfl⟩ := hWritten
  exact hRest later' hLater

theorem optional_rawCopy_succeeds {x : S} {store : Store} {v : Option t.Val} {input : InputChannel}
    {suffix : Bytes} {out : OutputChannel} (hRawCopies : W.RawCopies C) (hLive : W.live x store)
    (hDomain : ∀ u, v = some u → W.domain u) (hInput : input.rest = W.optionalBytes x padding v ++ suffix)
    (hRoom : input.rest.length ≤ W.room) (hOut : out.size + (W.optionalBytes x padding v).length ≤ W.room) :
    (Nullable.rawCopy (C.operations x) padding).Succeeds ((input, out), store) fun _ last =>
      last.1.1.rest = suffix ∧ last.1.2 = out.appended (W.optionalBytes x padding v) ∧
        W.Keeps store last.2 := by
  cases v with
  | none =>
      apply rawCopy_succeeds_of_flag true hInput
      intro later hLater
      apply (OutputChannel.move_succeeds _ List.length_replicate hLater).onFirst.mono
      intro _ last hMoved
      obtain ⟨⟨hEnd, hCopied⟩, hSame⟩ := hMoved
      rw [OutputChannel.appended_appended] at hCopied
      exact ⟨hEnd, hCopied, hSame ▸ Keeps.refl W store⟩
  | some u =>
      have hLength : (W.optionalBytes x padding (some u)).length = 1 + (W.bytes x u).length :=
        W.length_valueBytes x u
      apply rawCopy_succeeds_of_flag false hInput
      intro later hLater
      have hLater : later.rest = W.bytes x u ++ suffix := hLater
      have hShorter : later.rest.length ≤ W.room := by
        rw [hInput, List.length_append, hLength] at hRoom
        rw [hLater, List.length_append]
        omega
      have hFits : (out.appended [Nullable.flagByte false]).size + (W.bytes x u).length ≤ W.room := by
        rw [OutputChannel.size_appended, List.length_singleton]
        omega
      apply (hRawCopies x store u later suffix _ hLive (hDomain u rfl) hLater hShorter hFits).mono
      intro _ last hCopied
      rw [OutputChannel.appended_appended] at hCopied
      exact hCopied

theorem optional_deserializeInto_succeeds {x : S} {store : Store} {v : Option t.Val} {input : InputChannel}
    {suffix : Bytes} (hDeserializes : W.Deserializes C) (hReads : W.ReadsIntoTarget C) (hLive : W.live x store)
    (hDomain : ∀ u, v = some u → W.domain u) (hInput : input.rest = W.optionalBytes x padding v ++ suffix)
    (hRoom : input.rest.length ≤ W.room) (target : Option t.Val) :
    (Nullable.deserializeInto (C.operations x) padding).Succeeds ((target, input), store) fun returned last =>
      returned = .target ∧ Option.Rel W.like v last.1.1 ∧ last.1.2.rest = suffix ∧ W.Keeps store last.2 := by
  cases v with
  | none =>
      apply (deserializeInto_none_succeeds (C.operations x) hInput target).mono
      intro returned last hRead
      obtain ⟨rfl, hNull, hRest, hSame⟩ := hRead
      refine ⟨rfl, ?_, hRest, hSame ▸ Keeps.refl W store⟩
      rw [hNull]
      exact .none
  | some u =>
      have hFlag : input.rest = Nullable.flagByte false :: (W.bytes x u ++ suffix) := hInput
      have hShorter : (input.advanceTo (W.bytes x u ++ suffix)).rest.length ≤ W.room := by
        rw [hFlag, List.length_cons] at hRoom
        exact Nat.le_of_succ_le hRoom
      cases target with
      | none =>
          obtain ⟨w, ⟨input', last⟩, hOutcome, hLike, hRest, hKeeps⟩ :=
            hDeserializes x store u _ suffix hLive (hDomain u rfl) rfl hShorter
          exact ⟨.target, _, Nullable.deserializeInto_new_outcome hFlag hOutcome, rfl, .some hLike,
            hRest, hKeeps⟩
      | some old =>
          obtain ⟨returned, ⟨⟨held, input'⟩, last⟩, hOutcome, -, hLike, hRest, hKeeps⟩ :=
            hReads x store u old _ suffix hLive (hDomain u rfl) rfl hShorter
          exact ⟨.target, _, Nullable.deserializeInto_lent_outcome hFlag hOutcome, rfl, .some hLike,
            hRest, hKeeps⟩

/-! ## What a wrapper does with values, whatever its padding -/

theorem optional_copies (h : W.Copies C) : (W.optional padding).Copies (Wrapper.contract C ofAny) := by
  intro x store v hLive hDomain
  rw [optional_operations hLive]
  cases v with
  | none => exact Action.pure_succeeds ⟨.none, Keeps.refl _ _⟩
  | some u =>
      apply (h x.config.inner store u hLive.1 (hDomain u rfl)).bind
      intro w last hCopied
      exact Action.pure_succeeds ⟨.some hCopied.1, hCopied.2.optional⟩

theorem optional_copiesInto (h : W.Copies C) (hInto : W.CopiesInto C) :
    (W.optional padding).CopiesInto (Wrapper.contract C ofAny) := by
  intro x store v target hLive hDomain
  rw [optional_operations hLive]
  cases v with
  | none => exact ⟨.target, (none, store), rfl, rfl, .none, Keeps.refl _ _⟩
  | some u =>
      apply (copyInto_some_succeeds h hInto hLive.1 (hDomain u rfl) target).mono
      intro returned last hCopied
      obtain ⟨rfl, w, hHeld, hLike, hKeeps⟩ := hCopied
      refine ⟨rfl, ?_, hKeeps.optional⟩
      rw [hHeld]
      exact .some hLike

theorem optional_serializes (h : W.Serializes C) (hPadding : padding ≤ 0x7fffffff)
    (hRoom : W.room ≤ Bytes.longest) : (W.optional padding).Serializes (Wrapper.contract C ofAny) := by
  intro x store v out hLive hDomain hFits
  rw [optional_operations hLive]
  apply (serialize_succeeds h hLive.1 hDomain hPadding hFits hRoom).mono
  intro _ last hWritten
  exact ⟨hWritten.1, hWritten.2.optional⟩

theorem optional_deserializes (h : W.Deserializes C) :
    (W.optional padding).Deserializes (Wrapper.contract C ofAny) := by
  intro x store v input suffix hLive hDomain hInput hRoom
  rw [optional_operations hLive]
  apply (deserialize_succeeds h hLive.1 hDomain hInput hRoom).mono
  intro w last hRead
  exact ⟨hRead.1, hRead.2.1, hRead.2.2.optional⟩

theorem optional_readsIntoTarget (h : W.Deserializes C) (hInto : W.ReadsIntoTarget C) :
    (W.optional padding).ReadsIntoTarget (Wrapper.contract C ofAny) := by
  intro x store v target input suffix hLive hDomain hInput hRoom
  rw [optional_operations hLive]
  apply (optional_deserializeInto_succeeds h hInto hLive.1 hDomain hInput hRoom target).mono
  intro returned last hRead
  exact ⟨hRead.1, hRead.2.1, hRead.2.2.1, hRead.2.2.2.optional⟩

/-- Null can always be written; any other value only if what is wrapped writes it. -/
theorem optional_writesOnly (h : W.WritesOnly C) :
    (W.optional padding).WritesOnly (Wrapper.contract C ofAny) := by
  intro x store v out last hLive hWritten
  rw [optional_operations hLive] at hWritten
  obtain ⟨final, store'⟩ := last
  cases v with
  | none =>
      obtain ⟨⟨flagged, middle⟩, hFlag, hSkipped⟩ := Action.then_ok_iff.mp hWritten
      obtain ⟨rfl, rfl⟩ := Nullable.appended_of_writeFlag hFlag
      obtain ⟨hSkip, rfl⟩ := Action.onFirst_ok_iff.mp hSkipped
      have hOut := OutputChannel.appended_of_skip hSkip
      rw [OutputChannel.appended_appended] at hOut
      exact ⟨nofun, hOut, Keeps.refl _ _⟩
  | some u =>
      obtain ⟨⟨flagged, middle⟩, hFlag, hInner⟩ := Action.then_ok_iff.mp hWritten
      obtain ⟨rfl, rfl⟩ := Nullable.appended_of_writeFlag hFlag
      obtain ⟨hDomain, hOut, hKeeps⟩ := h x.config.inner store u _ _ hLive.1 hInner
      rw [OutputChannel.appended_appended] at hOut
      exact ⟨fun w hSame => Option.some.inj hSame ▸ hDomain, hOut, hKeeps.optional⟩

/-! ## Lengths -/

theorem optional_length (hLength : (padding : Int) < 0x7fffffff) :
    (W.optional padding).length = wrappedLength padding := by
  have hSame := length_toNat hLength
  rwa [Int.toNat_natCast] at hSame

/-- A padding as long as every value makes null as long as every other value. -/
theorem optional_hasLength (hFixed : W.HasLength) (hPadding : padding = 0 ∨ (padding : Int) = W.length)
    (hLength : (padding : Int) < 0x7fffffff) : (W.optional padding).HasLength := by
  intro hPositive x store v hLive hDomain
  rw [optional_length hLength] at hPositive ⊢
  unfold wrappedLength at hPositive ⊢
  by_cases hPadded : 0 < (padding : Int)
  · rw [if_pos hPadded]
    have hSame : (padding : Int) = W.length := by omega
    cases v with
    | none =>
        have hNull : ((W.optional padding).bytes x none).length = 1 + padding := length_nullBytes padding
        omega
    | some u =>
        have hValue : ((W.optional padding).bytes x (some u)).length =
            1 + (W.bytes x.config.inner u).length := W.length_valueBytes x.config.inner u
        have hInner := hFixed (by omega) x.config.inner store u hLive.1 (hDomain u rfl)
        omega
  · rw [if_neg hPadded] at hPositive
    exact absurd hPositive (by decide)

end World

end SerializerContract
