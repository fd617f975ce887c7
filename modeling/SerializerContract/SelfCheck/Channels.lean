import SerializerContract.Registry
import SerializerContract.SelfCheck.Codecs

/-!
# Scenarios about channels
-/

namespace SerializerContract.SelfCheck

open Scenario

def shortCodec : Codec (BitVec 16) := .number .network 2

def writesAccumulate (out : OutputChannel) : Scenario OutputChannel := do
  let v ← randomWord
  let out ← after out (OutputChannel.write wordCodec v)
  let out ← after out (OutputChannel.write stringCodec (Bytes.ofText "abc"))
  let out ← after out (OutputChannel.write boolCodec 1)
  equalNumbers out.size (4 + 4 + 3 + 1)
  let input := out.inputView
  equalNumbers input.available out.size
  let (number, input) ← run input (InputChannel.read wordCodec)
  equalNumbers number.toInt v.toInt
  let (text, input) ← run input (InputChannel.read stringCodec)
  equalTexts text.toText "abc"
  let (truth, input) ← run input (InputChannel.read boolCodec)
  holds (truth != 0)
  equalNumbers input.available 0
  equalNumbers input.position out.size
  return out

def viewIsIndependent (out : OutputChannel) : Scenario OutputChannel := do
  let out ← after out (OutputChannel.write shortCodec 1)
  let input := out.inputView
  let out ← after out (OutputChannel.write shortCodec 2)
  equalNumbers input.available 2
  equalNumbers out.size (2 * 2)
  return out

def rawBytes (out : OutputChannel) : Scenario OutputChannel := do
  let out ← after out (OutputChannel.writeRaw [1, 2, 3, 4, 5])
  let out ← after out (OutputChannel.skip 3)
  equalBytes out.data [1, 2, 3, 4, 5, 0, 0, 0]
  let (front, input) ← run out.inputView (InputChannel.readRaw 2)
  equalNumbers (front.getD 0 0).toNat 1
  equalNumbers (front.getD 1 0).toNat 2
  let ((), input) ← run input (InputChannel.skip 3)
  equalNumbers input.available 3
  let (result, input) := (InputChannel.skip 4).outcome input
  fails (ofKind .deserialization) result
  equalNumbers input.available 3
  return out

def failedRead (out : OutputChannel) : Scenario OutputChannel := do
  let out ← after out (OutputChannel.write shortCodec 7)
  let (result, (_, input)) :=
    (InputChannel.readInto (.number .network 8)).outcome ((0 : BitVec 64), out.inputView)
  fails (ofKind .deserialization) result
  equalNumbers input.position 0
  let (number, _) ← run input (InputChannel.read shortCodec)
  equalNumbers number.toInt 7
  return out

/-- Nothing is copied when too few bytes are left. -/
def shortfall (source : InputChannel) (target : OutputChannel) : Scenario Unit := do
  let (result, (source, target)) := (OutputChannel.move 5).outcome (source, target)
  fails (ofKind .deserialization) result
  equalNumbers target.size 4
  equalNumbers source.available 4

def rangeCopy (out : OutputChannel) : Scenario OutputChannel := do
  let out ← after out (OutputChannel.write wordCodec 42)
  let out ← after out (OutputChannel.write wordCodec 43)
  let ((), (source, target)) ← run (out.inputView, {}) (OutputChannel.move 4)
  equalNumbers source.available 4
  equalNumbers target.size 4
  let (number, _) ← run target.inputView (InputChannel.read wordCodec)
  equalNumbers number.toInt 42
  inSection "Shortfall copies nothing" (shortfall source target)
  return out

def reuseChannel : (count : Nat) → (i : Nat) → Scenario Unit
  | 0, _ => return ()
  | count + 1, i => do
    let out ← after {} (OutputChannel.write wordCodec (BitVec.ofNat 32 i))
    let input := InputChannel.ofBytes out.data
    equalNumbers input.position 0
    let (number, _) ← run input (InputChannel.read wordCodec)
    equalNumbers number.toInt i
    let out ← after out OutputChannel.clear
    equalNumbers out.size 0
    reuseChannel count (i + 1)

def clearAndReset : Scenario Unit := do
  equalNumbers ({} : InputChannel).available 0
  reuseChannel 3 0

/-- The first sections share one output channel. -/
def channels : Scenario Unit := do
  let out ← through "Writes accumulate in order" writesAccumulate {}
  let out ← through "Input view is independent of later writes" viewIsIndependent out
  let out ← through "Raw bytes" rawBytes out
  let out ← through "Failed read does not advance" failedRead out
  let _ ← through "Range copy" rangeCopy out
  inSection "Clear and reset" clearAndReset

end SerializerContract.SelfCheck
