import SerializerContract.Sample.Building

/-!
# Scripts

A script says how a serializer of 32-bit numbers answers each of its operations, so that every promise
of the contract can be broken on its own. Sums wrap around at 32 bits.
-/

namespace SerializerContract

/-- The operations at which a script can break off. -/
inductive Occasion where
  | create
  | copy
  | copyInto
  | rawCopy
  | length
  | serialize
  | deserialize
  | deserializeInto
  | duplicate
  | snapshot
  | equals
  | writePayload
  | readPayload
  | restore
  | resolve
deriving DecidableEq, Repr

/-- A failure at an operation, always or only when the operation is about one number. -/
structure Outburst where
  occasion : Occasion
  failure : Failure
  number : Option Int := none
deriving DecidableEq, Repr

/-- What becomes of a reuse target. -/
inductive ReuseHabit where
  | overwrites
  /-- It is overwritten only if it was zero. -/
  | keepsOld
  /-- It is left alone, and returned. -/
  | ignores
  /-- It is left alone, and something else is returned. -/
  | returnsOther
deriving DecidableEq, Repr

/-- What a duplicate is. -/
inductive DuplicateHabit where
  | itself
  | fresh
  | otherKey
  | nothing
deriving DecidableEq, Repr

inductive EqualityHabit where
  | byKey
  | byIdentity
  | never
deriving DecidableEq, Repr

inductive Rebuilt where
  | same
  | nothing
  | plain
  | otherKey
deriving DecidableEq, Repr

inductive Verdict where
  | asIs
  | incompatible
  | rebuilt (serializer : Rebuilt)
deriving DecidableEq, Repr

/-- How the snapshot of a scripted serializer answers its operations. -/
structure SnapshotScript where
  id : Bytes := Bytes.ofText "drv::Scripted"
  version : Int := 1
  written : Bytes := []
  /-- How many bytes of a payload it reads. -/
  read : Nat := written.length
  restored : Rebuilt := .same
  verdict : Verdict := .asIs
deriving DecidableEq, Repr

structure Script where
  outbursts : List Outburst := []
  key : BitVec 32 := 0
  duplicates : DuplicateHabit := .itself
  /-- From some duplicate on, duplicates follow another script. -/
  laterDuplicates : Option (Nat × Script) := none
  created : BitVec 32 := 0
  copyAdd : BitVec 32 := 0
  copyInto : ReuseHabit := .overwrites
  /-- Added by copies that overwrite a reuse target. -/
  copyIntoAdd : BitVec 32 := 0
  rawMoved : Nat := 4
  rawPadding : Nat := 0
  /-- The lengths reported by successive calls; the last one repeats. -/
  lengths : List Int := [4]
  writes : Nat := 1
  writeAdd : BitVec 32 := 0
  writeTail : Bytes := []
  reads : Nat := 1
  readAdd : BitVec 32 := 0
  /-- How many bytes are passed over after reading. -/
  readTail : Nat := 0
  readInto : ReuseHabit := .overwrites
  equality : EqualityHabit := .byKey
  snapshot : Option SnapshotScript := some {}

namespace Script

variable {σ : Type}

/-- Whether an outburst is due at an operation about some number. -/
def Outburst.isDue (outburst : Outburst) (occasion : Occasion) (number : Option Int) : Bool :=
  outburst.occasion == occasion && (outburst.number.isNone || outburst.number == number)

/-- Fails with the first outburst that is due. -/
def check (script : Script) (occasion : Occasion) (number : Option Int := none) : Action σ Unit :=
  match script.outbursts.find? fun outburst => Outburst.isDue outburst occasion number with
  | some outburst => throw outburst.failure
  | none => return ()

/-- Puts a value into a reuse target as is the habit; `overwriting` is what an overwritten target gets. -/
def reuse (habit : ReuseHabit) (v overwriting : BitVec 32) :
    Action (BitVec 32 × σ) (Returned (BitVec 32)) := fun (target, state) =>
  match habit with
  | .overwrites => (.ok .target, (overwriting, state))
  | .keepsOld => (.ok .target, (if target = 0 then v else target, state))
  | .ignores => (.ok .target, (target, state))
  | .returnsOther => (.ok (.other v), (target, state))

def lengthAfter (script : Script) (calls : Nat) : Int :=
  script.lengths.getD (min calls (script.lengths.length - 1)) variableLength

def writeTimes (v : BitVec 32) : Nat → Action OutputChannel Unit
  | 0 => return ()
  | n + 1 => do
    OutputChannel.write wordCodec v
    writeTimes v n

/-- Reads some numbers, of which the last one counts. -/
def readLast : Nat → BitVec 32 → Action InputChannel (BitVec 32)
  | 0, last => return last
  | n + 1, _ => do readLast n (← InputChannel.read wordCodec)

def readNumber (script : Script) : Action InputChannel (BitVec 32) := do
  let last ← readLast script.reads 0
  InputChannel.skip script.readTail
  return last + script.readAdd

def operations (script : Script) (id : Nat) : Operations Store (BitVec 32) where
  create := do
    script.check .create
    return script.created
  copy v := do
    script.check .copy (some v.toInt)
    return v + script.copyAdd
  copyInto v := do
    script.check .copyInto (some v.toInt)
    reuse script.copyInto v (v + script.copyIntoAdd)
  rawCopy := do
    script.check .rawCopy
    Action.onFirst do
      OutputChannel.move script.rawMoved
      Action.onSecond (OutputChannel.writeRaw (Bytes.zeros script.rawPadding))
  length := do
    script.check .length
    let calls := (← Store.look id).lengthCalls
    Store.modifyCell id fun cell => { cell with lengthCalls := cell.lengthCalls + 1 }
    return script.lengthAfter calls
  serialize v := do
    script.check .serialize (some v.toInt)
    Action.onFirst do
      writeTimes (v + script.writeAdd) script.writes
      OutputChannel.writeRaw script.writeTail
  deserialize := do
    let v ← Action.onFirst script.readNumber
    script.check .deserialize (some v.toInt)
    return v
  deserializeInto := do
    let v ← Action.onFirst (Action.onSecond script.readNumber)
    script.check .deserializeInto (some v.toInt)
    Action.onFirst (reuse script.readInto v v)

end Script

end SerializerContract
