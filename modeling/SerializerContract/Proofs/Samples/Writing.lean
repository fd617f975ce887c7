import SerializerContract.Proofs.Samples.Basic
import SerializerContract.Proofs.Schedules.OwnCells

/-! Writing has no memory. What a serializer writes for a value is the value's encoding, behind whatever was there,
or nothing at all if the value is refused; and this is the same after any calls of the serializer, of which any
may have failed. -/
namespace SerializerContract

/-! ## Codecs that write all or nothing -/

namespace Codec

variable {α β ε : Type}

/-- The bytes that a value is encoded as, or the failure of a value that is refused. -/
def encoding (codec : Codec α) (v : α) : Except Failure Bytes :=
  if (codec.encode v).complete then .ok (codec.encode v).bytes else .error OutputChannel.tooLarge

/-- Of a value that is refused nothing is emitted. -/
def RefusesWhole (codec : Codec α) : Prop := ∀ v, (codec.encode v).complete = false → (codec.encode v).bytes = []

/-- A number is never refused. -/
theorem number_refusesWhole (order : ByteOrder) (n : Nat) : (number order n).RefusesWhole := nofun

theorem both_number_refusesWhole (order : ByteOrder) (n m : Nat) :
    (both (number order n) (number order m)).RefusesWhole := nofun

/-- A container whose elements can all be written is refused by its length, which comes first. -/
theorem contiguous_refusesWhole (format : Format) {codec : Codec ε}
    (h : ∀ xs, (encodeAll codec xs).complete = true) : (contiguous format codec).RefusesWhole := by
  intro xs hRefused
  by_cases hFits : xs.length ≤ format.length.maximum
  · have hField : encodeLength format xs.length = .done (format.order.toBytes format.length.bytes xs.length) :=
      if_pos hFits
    have hComplete : ((contiguous format codec).encode xs).complete = true := by
      change ((encodeLength format xs.length).andThen (encodeAll codec xs)).complete = true
      rw [hField]
      exact h xs
    rw [hComplete] at hRefused
    nomatch hRefused
  · have hField : encodeLength format xs.length = .refused := if_neg hFits
    change ((encodeLength format xs.length).andThen (encodeAll codec xs)).bytes = []
    rw [hField]
    rfl

end Codec

/-! ## Actions that write all or nothing -/

namespace Action

variable {σ α : Type}

/-- The action writes these bytes behind what is there, or it fails and has written nothing. -/
def Puts (action : Action (OutputChannel × σ) Unit) (result : Except Failure Bytes) (out : OutputChannel)
    (state : σ) : Prop :=
  match result with
  | .ok bytes => ∃ last, action.outcome (out, state) = (.ok (), (out.appended bytes, last))
  | .error failure => ∃ last, action.outcome (out, state) = (.error failure, (out, last))

variable {out : OutputChannel} {state : σ}

theorem Puts.of_outcome_eq {action other : Action (OutputChannel × σ) Unit} {result : Except Failure Bytes}
    (h : other.Puts result out state) (hSame : action.outcome (out, state) = other.outcome (out, state)) :
    action.Puts result out state := by
  unfold Puts at h ⊢
  rwa [hSame]

theorem Puts.of_encode {codec : Codec α} {v : α} {action : Action (OutputChannel × σ) Unit} {last : σ}
    (h : action.outcome (out, state) = if (codec.encode v).complete
      then (.ok (), (out.appended (codec.encode v).bytes, last))
      else (.error OutputChannel.tooLarge, (out, last))) :
    action.Puts (codec.encoding v) out state := by
  unfold Puts Codec.encoding
  cases hComplete : (codec.encode v).complete with
  | true => exact ⟨last, h.trans (if_pos hComplete)⟩
  | false =>
      rw [hComplete] at h
      exact ⟨last, h⟩

/-- A write of a codec that refuses whole values appends the encoding or nothing. -/
theorem write_puts {codec : Codec α} (h : codec.RefusesWhole) (v : α) (out : OutputChannel) (state : σ) :
    (Action.onFirst (OutputChannel.write codec v)).Puts (codec.encoding v) out state := by
  have hWrite : (Action.onFirst (OutputChannel.write codec v)).outcome (out, state) =
      (if (codec.encode v).complete then .ok () else .error OutputChannel.tooLarge,
        (out.appended (codec.encode v).bytes, state)) := rfl
  unfold Puts Codec.encoding
  cases hComplete : (codec.encode v).complete with
  | true => exact ⟨state, by rw [hWrite, hComplete]; rfl⟩
  | false =>
      have hNothing : out.appended (codec.encode v).bytes = out := by
        rw [h v hComplete, OutputChannel.appended, List.append_nil]
      exact ⟨state, by rw [hWrite, hComplete, hNothing]; rfl⟩

/-- What is refused at first is refused. -/
theorem Puts.after {check : Except Failure α} {next : α → Action (OutputChannel × σ) Unit}
    {result : α → Except Failure Bytes}
    (h : ∀ a, check = .ok a → (next a).Puts (result a) out state) :
    (Action.ofExcept check >>= next).Puts (check >>= result) out state := by
  cases check with
  | ok a => exact h a rfl
  | error failure => exact ⟨state, rfl⟩

end Action

/-- Two values are written one after the other as they are together. -/
theorem OutputChannel.write_both {α β : Type} (first : Codec α) (second : Codec β) (v : α) (w : β)
    (out : OutputChannel) :
    (do write first v; write second w : Action OutputChannel Unit).outcome out =
      (write (.both first second) (v, w)).outcome out := by
  have hWrite {γ : Type} (codec : Codec γ) (u : γ) (out : OutputChannel) : (write codec u).outcome out =
      (if (codec.encode u).complete then .ok () else .error tooLarge, out.appended (codec.encode u).bytes) := rfl
  have hBoth : (Codec.both first second).encode (v, w) = (first.encode v).andThen (second.encode w) := rfl
  rw [Action.outcome_bind, hWrite, hWrite, hBoth]
  cases hFirst : (first.encode v).complete with
  | true => simp [Emitted.andThen, hFirst, hWrite, appended_appended]
  | false => simp [Emitted.andThen, hFirst]

/-! ## Samples -/

namespace Sample

variable {f : Family}

/-- The bytes of a value: of a point those of its coordinates, and of a circle those of its radius. Values that have
none are refused; how the serializer is configured does not matter to this. -/
def encoding : {f : Family} → Sample f → f.Value → Except Failure Bytes
  | _, number, v => wordCodec.encoding v
  | _, text _, v => stringCodec.encoding v
  | _, numbers, v => NumbersSerializer.codec.encoding v
  | _, point, v => (Codec.both doubleCodec doubleCodec).encoding (Point.x v, Point.y v)
  | _, circle, v => CircleSerializer.radiusOf v >>= doubleCodec.encoding

/-- Values of a type with a codec are encoded by it, in the format of channels. -/
theorem encoding_eq_codec (s : Sample f) (h : f.type.Serializable) (v : f.Value) :
    s.encoding v = (f.type.codec .network h).encoding v := by
  cases s with
  | number | text | numbers => rfl
  | point | circle => exact h.elim

/-- The values that a serializer is configured for. -/
def check : {f : Family} → Sample f → f.Value → Except Failure Unit
  | _, text (.bounded limit), v => TextSerializer.checkLength limit (List.length (α := UInt8) v)
  | _, _, _ => .ok ()

/-- What is written for a value, or why it is refused. -/
def written (s : Sample f) (v : f.Value) : Except Failure Bytes := do
  s.check v
  s.encoding v

/-- A sample serializer appends what is written for the value, or fails and appends nothing. -/
theorem serialize_puts (s : Sample f) (v : f.Value) (out : OutputChannel) {id : Nat} {store : Store}
    (hCell : id < store.cells.length) :
    ((s.operations id).serialize v).Puts (s.written v) out store := by
  have hText : stringCodec.RefusesWhole :=
    Codec.contiguous_refusesWhole .network fun xs => by rw [encodeAll_byte]; rfl
  cases s with
  | number => exact Action.write_puts (Codec.number_refusesWhole .network 4) v out store
  | text config =>
      cases config with
      | unbounded => exact Action.write_puts hText v out store
      | bounded limit => exact .after fun _ _ => Action.write_puts hText v out store
  | numbers =>
      have hEmits := NumbersSerializer.writeThroughScratch_emits v out hCell
      exact .of_encode hEmits
  | point =>
      have hBoth := Action.write_puts (Codec.both_number_refusesWhole .network 8 8) (Point.x v, Point.y v) out store
      refine hBoth.of_outcome_eq ?_
      exact congrArg (fun outcome => (outcome.1, (outcome.2, store)))
        (OutputChannel.write_both doubleCodec doubleCodec (Point.x v) (Point.y v) out)
  | circle =>
      exact .after fun radius _ => Action.write_puts (Codec.number_refusesWhole .network 8) radius out store

end Sample

end SerializerContract
