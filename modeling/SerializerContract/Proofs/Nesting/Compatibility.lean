import SerializerContract.Proofs.Conformance.Snapshots
import SerializerContract.Proofs.Nesting.RoundTrip

/-! Verdicts about any number of wrappers. Wrappers are compared level by level: the paddings have to be the
same, because null is skipped by the padding of the reader, and what is innermost has to be compatible. -/
namespace SerializerContract

namespace Nesting

variable {f : Family}

/-- The second one can take over what was written with the first one. -/
def Compatible : {f : Family} → Nesting f → Nesting f → Prop
  | _, number, number => True
  | _, text config, text other => config.Compatible other
  | _, numbers, numbers => True
  | _, point, point => True
  | _, circle, circle => True
  | _, nullable inner padding _, nullable other padding' _ => padding' = padding ∧ inner.Compatible other

/-- A limit that grew only adds values, at the bottom of all wrappers. -/
theorem Compatible.domain {old new : Nesting f} (h : old.Compatible new) {v : f.Value}
    (hDomain : old.world.domain v) : new.world.domain v := by
  induction old with
  | number => cases new; exact hDomain
  | text config => cases new; exact Nat.le_trans hDomain h.most_le
  | numbers => cases new; exact hDomain
  | point => cases new; exact hDomain
  | circle => cases new; exact hDomain
  | nullable inner padding padded ih =>
      cases new with
      | nullable other padding' padded' => exact fun u hSome => ih h.2 (hDomain u hSome)

/-- Compatible nestings of a family write the same bytes for each value. -/
theorem Compatible.written {old new : Nesting f} (h : old.Compatible new) (v : f.Value) :
    new.written v = old.written v := by
  induction old with
  | number | text config | numbers | point | circle => cases new; rfl
  | nullable inner padding padded ih =>
      cases new with
      | nullable other padding' padded' =>
          cases v with
          | none => exact congrArg (fun n => Nullable.flagByte true :: Bytes.zeros n) h.1
          | some u => exact congrArg (List.cons (Nullable.flagByte false)) (ih h.2 u)

/-- The verdict is that of the innermost serializers, unless paddings differ on the way. -/
theorem resolvesWith (old new : Nesting f) :
    old.world.ResolvesWith new.world f.contract (old.Compatible new) := by
  induction old with
  | number => cases new; exact NumberSerializer.world_resolves.resolvesWith
  | text config => cases new; exact TextSerializer.world_resolvesWith config _
  | numbers =>
      cases new
      exact (World.ofObjects_resolves (NumbersSerializer.described .plain) (fun _ _ _ => trivial)
        NumbersSerializer.configured.resolve).resolvesWith
  | point =>
      cases new
      exact (World.ofObjects_resolves PointSerializer.described (fun _ _ _ => trivial)
        PointSerializer.configured.resolve).resolvesWith
  | circle =>
      cases new
      exact (World.ofObjects_resolves CircleSerializer.described (fun _ _ _ => trivial)
        CircleSerializer.configured.resolve).resolvesWith
  | nullable inner padding padded ih =>
      cases new with
      | nullable other padding' padded' =>
          exact World.optional_resolvesWith (ih other) fun _ _ => inner.keeps_of_grows

/-- Whatever the old serializer writes, the new one writes the same way and reads back. -/
theorem Compatible.carries_of_written {old new : Nesting f} (h : old.Compatible new)
    {x y : f.Serializer} {v : f.Value} {out later : OutputChannel} {store last state : Store}
    (hOld : old.world.live x store)
    (hWritten : ((f.contract.operations x).serialize v).outcome (out, store) = (.ok (), (later, last)))
    (hNew : new.world.live y state) : later = out.appended (new.written v) ∧ new.Carries y v state := by
  obtain ⟨hDomain, hOut, -⟩ := old.transports.writesOnly x store v out _ hOld hWritten
  rw [old.world_bytes, ← h.written] at hOut
  exact ⟨hOut, new.carries hNew (h.domain hDomain)⟩

/-- A live serializer takes its snapshot without failing and without touching the store. -/
theorem snapshot_eq (s : Nesting f) {x : f.Serializer} {store : Store} (hLive : s.world.live x store) :
    ∃ n, f.contract.snapshot x = pure (some n) ∧ s.world.describes n x store :=
  ⟨s.described, s.snapshot_eq_described hLive, s.describes_described x store⟩

/-- No verdict but incompatibility lets data be misread. What the old serializer writes for a value, at any
time, are the bytes that the new one reads back as the value, whatever is behind them; and the serializer
that is used from then on, restored or reconfigured, equals the old one. -/
theorem verdict_sound (old new : Nesting f) {x y : f.Serializer} {store : Store} (property : String)
    (hOld : old.world.live x store) (hNew : new.world.live y store) :
    ∃ n, (f.contract.snapshot x).outcome store = (.ok (some n), store) ∧
      (f.contract.resolve n y).Succeeds store fun verdict last => verdict.isIncompatible = false →
        (∀ (v : f.Value) (out later : OutputChannel) (before after : Store), old.world.live x before →
          ((f.contract.operations x).serialize v).outcome (out, before) = (.ok (), (later, after)) →
            ∀ state, new.world.live y state →
              later = out.appended (new.written v) ∧ new.Carries y v state) ∧
        (Suite.chosen f.contract property n verdict).Succeeds last fun chosen final =>
          ∃ z, chosen = some z ∧
            (f.contract.equals z x).Succeeds final (fun equal _ => equal = true) ∧
            (f.contract.equals x z).Succeeds final (fun equal _ => equal = true) := by
  obtain ⟨n, hTaken, hDescribes⟩ := old.snapshot_eq hOld
  refine ⟨n, by rw [hTaken]; rfl, ?_⟩
  apply (resolvesWith old new n x y store hDescribes hOld hNew).mono
  intro verdict last hVerdict hSound
  obtain ⟨hKeeps, ⟨-, rfl⟩ | ⟨hCompatible, hReplacement⟩⟩ := hVerdict
  · nomatch hSound
  · have hLive := hKeeps.live x hOld
    refine ⟨fun v out later before after hBefore hWritten state hState =>
      hCompatible.carries_of_written hBefore hWritten hState, ?_⟩
    apply (World.chosen_succeeds old.restorable.restores (hKeeps.describes n x hDescribes) hLive
      hReplacement).mono
    intro chosen final hChosen
    obtain ⟨z, rfl, hReplaces, hFinal⟩ := hChosen
    exact ⟨z, rfl, old.equals_of_replaces (hFinal.live x hLive) hReplaces⟩

/-- Texts of nine bytes at most, with the paddings of the short ones. -/
def longerTexts : Nesting (.nullable (.nullable .text)) := twiceWrappedTexts 9

def longerTextSerializer : (Family.nullable (.nullable .text)).Serializer :=
  ⟨2, ⟨⟨1, ⟨⟨0, .bounded 9⟩, 4, none⟩⟩, 0, none⟩⟩

/-- What describes the serializer of short texts. -/
def shortTextSnapshot : (Family.nullable (.nullable .text)).Snapshot :=
  (⟨some ⟨some (.bounded 3), 4⟩, 0⟩ : WrapperSnapshot (WrapperSnapshot TextConfig))

/-- What takes over for the short texts: new objects with their limit and their paddings. -/
def shortTextSuccessor : (Family.nullable (.nullable .text)).Serializer :=
  ⟨5, ⟨⟨4, ⟨⟨3, .bounded 3⟩, 4, none⟩⟩, 0, none⟩⟩

/-- Longer texts take over short ones, with the limit of the short ones. -/
theorem verdict_sound_longer_texts :
    ((Family.contract _).resolve shortTextSnapshot longerTextSerializer).outcome ⟨[{}, {}, {}], 0, 0⟩ =
      (.ok (.reconfigured (some shortTextSuccessor)), ⟨[{}, {}, {}, {}, {}, {}], 0, 0⟩) ∧
    ((Family.contract _).equals shortTextSuccessor shortTextSerializer).Succeeds
      ⟨[{}, {}, {}, {}, {}, {}], 0, 0⟩ fun equal _ => equal = true := by
  have hVerdict : ((Family.contract _).resolve shortTextSnapshot longerTextSerializer).outcome
      ⟨[{}, {}, {}], 0, 0⟩ =
        (.ok (.reconfigured (some shortTextSuccessor)), ⟨[{}, {}, {}, {}, {}, {}], 0, 0⟩) := rfl
  have hLonger : longerTexts.world.live longerTextSerializer ⟨[{}, {}, {}], 0, 0⟩ :=
    ⟨⟨⟨rfl, by decide⟩, rfl, rfl⟩, rfl, rfl⟩
  obtain ⟨n, hTaken, hResolved⟩ :=
    verdict_sound shortTexts longerTexts "reconfigure" shortTextSerializer_live hLonger
  obtain rfl : n = shortTextSnapshot :=
    (Option.some.inj (Except.ok.inj (congrArg Prod.fst hTaken))).symm
  obtain ⟨-, hChosen⟩ := hResolved.of_outcome hVerdict rfl
  obtain ⟨z, hSame, hEqual, -⟩ := hChosen.of_outcome rfl
  exact ⟨hVerdict, Option.some.inj hSame ▸ hEqual⟩

end Nesting

end SerializerContract
