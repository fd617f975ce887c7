import Mathlib.Algebra.Group.Int.Defs
import SerializerContract.Proofs.Conformance.Number
import SerializerContract.Proofs.Conformance.Optional.Values
import SerializerContract.Proofs.Wrapping.Level

/-! Any number of wrappings. Every wrapper takes its padding from the length that is reported one level below, so
a fixed length grows by one at each level, and what is not fixed stays so. -/
namespace SerializerContract

/-! ## One wrapping -/

namespace Wrapper

variable {A S N : Type} {t : ValueType} {C : Contract Store A t S N} {ofAny : A → Option (WrapperSnapshot N)}

theorem operations_eq {w : Object (Wrapper S)} (h : w.config.emptyInstances = none) :
    (Wrapper.contract C ofAny).operations w =
      Nullable.operations (C.operations w.config.inner) w.config.padding := by
  change Wrapper.operations C w.config = _
  simp [Wrapper.operations, h]

/-- The padding is the length that is always reported, if that is positive. -/
theorem wrap_succeeds {x : S} {length : Int}
    (hReports : Nullable.Reports (fun _ => True) (C.operations x).length length) (store : Store) :
    (wrap C (some x) true).Succeeds store fun w _ => w.config = ⟨x, length.toNat, none⟩ := by
  apply (Nullable.paddingFor_succeeds hReports trivial).bind
  intro padding middle hPadding
  apply (Action.ofExcept_succeeds hPadding.1).bind
  intro _ _ hSame
  obtain ⟨rfl, rfl⟩ := hSame
  exact (Object.make_succeeds _ _).mono fun _ _ hMade => hMade.config

/-- No length is reported that is neither fixed nor variable, whatever the padding is. -/
theorem length_ne_zero {w : Object (Wrapper S)} (h : w.config.padding ≤ 0x7fffffff) (store : Store) :
    ∃ n, ((Wrapper.contract C ofAny).operations w).length.outcome store = (.ok n, store) ∧ n ≠ 0 := by
  refine ⟨Nullable.length w.config.padding, ?_, ?_⟩
  · change (Wrapper.operations C w.config).length.outcome store = _
    unfold Wrapper.operations
    split <;> rfl
  · unfold Nullable.length
    split
    · rw [BitVec.toInt_eq_toNat_bmod, BitVec.toNat_ofNat, Int.bmod_def]
      omega
    · decide

end Wrapper

namespace Wrapping

variable {A S N : Type} {t : ValueType}

/-- The type of the values after so many wrappings. -/
def type (t : ValueType) : Nat → ValueType
  | 0 => t
  | d + 1 => .optional (type t d)

def Serializer (S : Type) : Nat → Type
  | 0 => S
  | d + 1 => Object (Wrapper (Serializer S d))

def Snapshot (N : Type) : Nat → Type
  | 0 => N
  | d + 1 => WrapperSnapshot (Snapshot N d)

/-- The family of what was wrapped so many times. -/
def contract (C : Contract Store A t S N) (ofAny : (d : Nat) → A → Option (Snapshot N d)) :
    (d : Nat) → Contract Store A (type t d) (Serializer S d) (Snapshot N d)
  | 0 => C
  | d + 1 => Wrapper.contract (contract C ofAny d) (ofAny (d + 1))

/-- Wraps a serializer so many times, each time with a padding if what is wrapped has a fixed length. -/
def wrapTimes (C : Contract Store A t S N) (ofAny : (d : Nat) → A → Option (Snapshot N d)) (x : S) :
    (d : Nat) → Action Store (Serializer S d)
  | 0 => pure x
  | d + 1 => do Wrapper.wrap (contract C ofAny d) (some (← wrapTimes C ofAny x d)) true

/-- The level at which a value is null, if it is; the outermost one is the first. -/
def nullLevel : (d : Nat) → (type t d).Val → Option Nat
  | 0, _ => none
  | _ + 1, none => some 0
  | d + 1, some v => (nullLevel d v).map (· + 1)

/-- The level of a null is one of the levels of the tower. -/
theorem nullLevel_lt : (d : Nat) → (v : (type t d).Val) → {k : Nat} → nullLevel d v = some k → k < d
  | 0, _, _, h => nomatch h
  | _ + 1, none, _, h => Option.some.inj h ▸ Nat.succ_pos _
  | d + 1, some v, _, h => by
      obtain ⟨k, hInner, rfl⟩ := Option.map_eq_some_iff.mp h
      exact Nat.succ_lt_succ (nullLevel_lt d v hInner)

/-- The length that is reported after so many wrappings. -/
def lengthOf (length : Int) : Nat → Int
  | 0 => length
  | d + 1 => World.wrappedLength (lengthOf length d)

/-- What a serializer is wrapped in: each level has the padding that the length below asks for. -/
def Wraps (x : S) (length : Int) : (d : Nat) → Serializer S d → Prop
  | 0, w => w = x
  | d + 1, w => w.config.padding = (lengthOf length d).toNat ∧ w.config.emptyInstances = none ∧
      Wraps x length d w.config.inner

variable {length : Int} {d : Nat}

/-- Each level adds one byte to a fixed length. -/
theorem lengthOf_of_pos (h : 0 < length) (d : Nat) : lengthOf length d = length + d := by
  induction d with
  | zero => simp [lengthOf]
  | succ d ih =>
      rw [lengthOf, ih, World.wrappedLength, if_pos (by omega)]
      omega

/-- A length that is not fixed stays so at every level. -/
theorem lengthOf_nonpos (h : length ≤ 0) (d : Nat) : lengthOf length d ≤ 0 := by
  induction d with
  | zero => exact h
  | succ d ih =>
      rw [lengthOf, World.wrappedLength, if_neg (by omega)]
      decide

theorem lengthOf_lt (hFits : 0 < length → length + (d + 1 : Nat) < 2 ^ 31) : lengthOf length d < 0x7fffffff := by
  by_cases hPositive : 0 < length
  · rw [lengthOf_of_pos hPositive]
    have := hFits hPositive
    omega
  · have := lengthOf_nonpos (Int.not_lt.mp hPositive) d
    omega

section

variable {C : Contract Store A t S N} {ofAny : (d : Nat) → A → Option (Snapshot N d)} {x : S}
    {w : Serializer S d}

/-- The top of a tower wraps the tower below with the padding of its length. -/
theorem Wraps.operations_eq {w : Serializer S (d + 1)} (h : Wraps x length (d + 1) w) :
    (contract C ofAny (d + 1)).operations w =
      Nullable.operations ((contract C ofAny d).operations w.config.inner) (lengthOf length d).toNat := by
  obtain ⟨hPadding, hProper, -⟩ := h
  exact hPadding ▸ Wrapper.operations_eq hProper

/-- A wrapper reports its length without asking what it wraps. -/
theorem Wraps.length_outcome {w : Serializer S (d + 1)} (h : Wraps x length (d + 1) w)
    (hFits : 0 < length → length + (d + 1 : Nat) < 2 ^ 31) (store : Store) :
    ((contract C ofAny (d + 1)).operations w).length.outcome store =
      (.ok (lengthOf length (d + 1)), store) := by
  rw [h.operations_eq, lengthOf, ← World.length_toNat (lengthOf_lt hFits)]
  rfl

variable (hReports : Nullable.Reports (fun _ => True) (C.operations x).length length)

include hReports in
/-- A tower reports the length of its depth as long as that fits. -/
theorem Wraps.reports (h : Wraps x length d w) (hFits : 0 < length → length + d < 2 ^ 31) :
    Nullable.Reports (fun _ => True) ((contract C ofAny d).operations w).length (lengthOf length d) := by
  cases d with
  | zero =>
      obtain rfl := h
      exact hReports
  | succ d => exact fun store _ => ⟨_, store, h.length_outcome hFits store, rfl, trivial⟩

include hReports in
/-- Wrapping succeeds as often as the length fits. -/
theorem wrapTimes_succeeds (ofAny : (d : Nat) → A → Option (Snapshot N d))
    (hFits : 0 < length → length + d < 2 ^ 31) (store : Store) :
    (wrapTimes C ofAny x d).Succeeds store fun w _ => Wraps x length d w := by
  induction d with
  | zero => exact Action.pure_succeeds rfl
  | succ d ih =>
      have hBelow : 0 < length → length + d < 2 ^ 31 := fun hPositive => by
        have := hFits hPositive
        omega
      apply (ih hBelow).bind
      intro w middle hWraps
      apply (Wrapper.wrap_succeeds (hWraps.reports hReports hBelow) middle).mono
      intro made _ hConfig
      refine ⟨?_, ?_, ?_⟩ <;> rw [hConfig]
      exact hWraps

/-- A fixed length grows by the flag of each level. -/
theorem Wraps.appends (h : Wraps x length d w) (hPositive : 0 < length)
    (hAppends : (C.operations x).Appends length.toNat) :
    ((contract C ofAny d).operations w).Appends (length + d).toNat := by
  induction d with
  | zero =>
      obtain rfl := h
      rw [Int.natCast_zero, Int.add_zero]
      exact hAppends
  | succ d ih =>
      have hLength : (length + (d + 1 : Nat)).toNat = (lengthOf length d).toNat + 1 := by
        rw [lengthOf_of_pos hPositive]
        omega
      rw [h.operations_eq, hLength]
      have hInner := ih h.2.2
      rw [← lengthOf_of_pos hPositive] at hInner
      exact Nullable.operations_appends hInner

variable (hPositive : 0 < length) (hAppends : (C.operations x).Appends length.toNat)

include hPositive hAppends

/-- A tower reads its own bytes if the serializer at its bottom does. -/
theorem Wraps.readsOwn (h : Wraps x length d w) (hReads : (C.operations x).ReadsOwn) :
    ((contract C ofAny d).operations w).ReadsOwn := by
  induction d with
  | zero =>
      obtain rfl := h
      exact hReads
  | succ d ih =>
      rw [h.operations_eq]
      exact Nullable.operations_readsOwn (h.2.2.appends hPositive hAppends) (ih h.2.2)

theorem Wraps.readsOwnInto (h : Wraps x length d w) (hReads : (C.operations x).ReadsOwn)
    (hInto : (C.operations x).ReadsOwnInto) : ((contract C ofAny d).operations w).ReadsOwnInto := by
  induction d with
  | zero =>
      obtain rfl := h
      exact hInto
  | succ d ih =>
      rw [h.operations_eq]
      exact Nullable.operations_readsOwnInto (h.2.2.appends hPositive hAppends)
        (h.2.2.readsOwn hPositive hAppends hReads) (ih h.2.2)

theorem Wraps.copiesOwn (h : Wraps x length d w) (hCopies : (C.operations x).CopiesOwn) :
    ((contract C ofAny d).operations w).CopiesOwn := by
  induction d with
  | zero =>
      obtain rfl := h
      exact hCopies
  | succ d ih =>
      rw [h.operations_eq]
      exact Nullable.operations_copiesOwn (h.2.2.appends hPositive hAppends) (ih h.2.2)

end

/-- Null is written as the flags of the levels around it, its own flag, and a padding. -/
theorem Wraps.serialize_null {C : Contract Store A t S N} {ofAny : (d : Nat) → A → Option (Snapshot N d)} {x : S}
    {w : Serializer S d} (h : Wraps x length d w) {v : (type t d).Val} {k : Nat} (hNull : nullLevel d v = some k)
    {out : OutputChannel} (store : Store)
    (hRoom : (lengthOf length (d - 1 - k)).toNat ≤ OutputChannel.capacity - (out.size + (k + 1)))
    (hMemory : (lengthOf length (d - 1 - k)).toNat ≤ Bytes.mostMemory) :
    (((contract C ofAny d).operations w).serialize v).outcome (out, store) =
      (.ok (), (out.appended (List.replicate k (Nullable.flagByte false) ++
        World.nullBytes (lengthOf length (d - 1 - k)).toNat), store)) := by
  induction d generalizing k out with
  | zero => nomatch hNull
  | succ d ih =>
      rw [h.operations_eq]
      cases v with
      | none =>
          obtain rfl := Option.some.inj hNull
          exact Nullable.serialize_none_outcome hRoom hMemory store
      | some u =>
          obtain ⟨k, hInner, rfl⟩ := Option.map_eq_some_iff.mp hNull
          have hLevel : d + 1 - 1 - (k + 1) = d - 1 - k := by omega
          have hSize : (out.appended [Nullable.flagByte false]).size = out.size + 1 := by
            simp [OutputChannel.size_appended]
          rw [hLevel] at hRoom hMemory ⊢
          refine (Nullable.serialize_some_outcome u out store).trans ?_
          rw [ih h.2.2 hInner (by omega) hMemory, OutputChannel.appended_appended]
          rfl

/-! ## The length of what was wrapped any number of times -/

/-- Padding keeps fixed lengths fixed. If a serializer has a fixed length and writes it, then so does every wrapper
around it: the length grows by one at each level, null at any level is written with as many bytes as a value, and
what is written is read back or copied to its end if that is so for the serializer. If the length is not fixed,
no wrapper has one, and null is one byte behind the flags of the levels around it. No wrapper has a length of
zero. -/
theorem wrapped_length_fixed (C : Contract Store A t S N) (ofAny : (d : Nat) → A → Option (Snapshot N d)) (x : S)
    (length : Int) (hReports : (C.operations x).AlwaysReports length)
    (hAppends : 0 < length → (C.operations x).Appends length.toNat) (d : Nat) (hWrapped : 1 ≤ d)
    (hFits : 0 < length → length + d < 2 ^ 31) (store : Store) :
    ((wrapTimes C ofAny x d).Succeeds store fun w _ =>
      let wrapped := (contract C ofAny d).operations w
      (0 < length → (∀ later, wrapped.length.outcome later = (.ok (length + d), later)) ∧
        wrapped.Appends (length + d).toNat ∧
        (∀ v k, nullLevel d v = some k → ∀ (out : OutputChannel) (later : Store),
          out.size + (length + d).toNat ≤ OutputChannel.capacity →
            (wrapped.serialize v).outcome (out, later) =
              (.ok (), (out.appended (List.replicate k (Nullable.flagByte false) ++ [Nullable.flagByte true] ++
                Bytes.zeros ((length + d).toNat - (k + 1))), later))) ∧
        ((C.operations x).ReadsOwn → wrapped.ReadsOwn ∧
          ((C.operations x).ReadsOwnInto → wrapped.ReadsOwnInto)) ∧
        ((C.operations x).CopiesOwn → wrapped.CopiesOwn)) ∧
      (length ≤ 0 → (∀ later, wrapped.length.outcome later = (.ok variableLength, later)) ∧
        ∀ v k, nullLevel d v = some k → ∀ (out : OutputChannel) (later : Store),
          (wrapped.serialize v).outcome (out, later) =
            (.ok (), (out.appended (List.replicate k (Nullable.flagByte false) ++ [Nullable.flagByte true]),
              later)))) ∧
    ∀ (ofWrapper : A → Option (WrapperSnapshot N)) (w : Object (Wrapper S)), w.config.padding ≤ 0x7fffffff →
      ∀ later, ∃ n, ((Wrapper.contract C ofWrapper).operations w).length.outcome later = (.ok n, later) ∧ n ≠ 0 := by
  refine ⟨?_, fun ofWrapper w hPadding later => Wrapper.length_ne_zero hPadding later⟩
  obtain ⟨d, rfl⟩ : ∃ below, d = below + 1 := ⟨d - 1, by omega⟩
  apply (wrapTimes_succeeds hReports.reports ofAny hFits store).mono
  intro w _ hWraps
  refine ⟨fun hPositive => ⟨?_, ?_, ?_, ?_, ?_⟩, fun hNot => ⟨?_, ?_⟩⟩
  · intro later
    rw [hWraps.length_outcome hFits later, lengthOf_of_pos hPositive]
  · exact hWraps.appends hPositive (hAppends hPositive)
  · intro v k hNull out later hRoom
    have hBelow := nullLevel_lt (d + 1) v hNull
    have hBound := hFits hPositive
    have hPadding : (lengthOf length (d + 1 - 1 - k)).toNat = (length + (d + 1 : Nat)).toNat - (k + 1) := by
      rw [lengthOf_of_pos hPositive]
      omega
    have hMemory : (lengthOf length (d + 1 - 1 - k)).toNat ≤ Bytes.mostMemory := by
      rw [hPadding, Bytes.mostMemory]
      omega
    rw [hWraps.serialize_null hNull later (by omega) hMemory, hPadding, World.nullBytes]
    simp
  · exact fun hReads => ⟨hWraps.readsOwn hPositive (hAppends hPositive) hReads,
      hWraps.readsOwnInto hPositive (hAppends hPositive) hReads⟩
  · exact hWraps.copiesOwn hPositive (hAppends hPositive)
  · intro later
    have hBelow := lengthOf_nonpos hNot d
    rw [hWraps.length_outcome hFits later, lengthOf, World.wrappedLength, if_neg (by omega)]
  · intro v k hNull out later
    have hPadding : (lengthOf length (d + 1 - 1 - k)).toNat = 0 := by
      have hLevel := lengthOf_nonpos hNot (d + 1 - 1 - k)
      omega
    rw [hWraps.serialize_null hNull later (by omega) (by omega), hPadding]
    rfl

/-- Numbers that are wrapped twice take six bytes, and so does null, outside or inside. -/
theorem wrapped_length_fixed_numbers :
    let numbers := NumberSerializer.contract (A := Unit) fun _ => none
    let x : NumberSerializer := ⟨0, .plain⟩
    (numbers.operations x).AlwaysReports 4 ∧
      (numbers.operations x).Appends 4 ∧
      (wrapTimes numbers (fun _ _ => none) x 2).Succeeds {} fun w _ =>
        let wrapped := (contract numbers (fun _ _ => none) 2).operations w
        wrapped.length.outcome {} = (.ok 6, {}) ∧
          (wrapped.serialize (some none)).outcome ({}, {}) = (.ok (), (⟨[0, 1, 0, 0, 0, 0]⟩, {})) := by
  intro numbers x
  have hReports : (numbers.operations x).AlwaysReports 4 := fun store => ⟨store, rfl⟩
  have hAppends : (numbers.operations x).Appends 4 := by
    intro v out store later last hWritten
    have hOut := ((Operations.ofCodec_serialize_succeeds (wordCodec_trips v) out).of_outcome hWritten).1
    exact ⟨wordBytes v, length_wordBytes v, hOut⟩
  refine ⟨hReports, hAppends, ?_⟩
  have hWrapped := (wrapped_length_fixed numbers (fun _ _ => none) x 4 hReports (fun _ => hAppends) 2 (by decide)
    (fun _ => by decide) {}).1
  apply hWrapped.mono
  intro w _ hFixed
  obtain ⟨hLength, -, hNull, -⟩ := hFixed.1 (by decide)
  exact ⟨hLength {}, hNull (some none) 1 rfl {} {} (by decide)⟩

end Wrapping

end SerializerContract
