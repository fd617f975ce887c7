import SerializerContract.Channel

/-!
# The store

All that serializers can remember between two calls. A serializer is an object: a reference to its own
cell of the store, together with a configuration that never changes. Two references are one object if
they share the cell.
-/

namespace SerializerContract

/-- What one serializer remembers. -/
structure Cell where
  duplicates : Nat := 0
  lengthCalls : Nat := 0
  /-- A channel that values pass through on their way out. -/
  scratch : OutputChannel := {}
  slot : BitVec 32 := 0
deriving DecidableEq, Repr

/-- The cells of all serializers made so far, and what the surroundings of a test count. -/
structure Store where
  cells : List Cell := []
  served : Nat := 0
  threads : Nat := 0
deriving DecidableEq, Repr

/-- A reference to a serializer with a configuration of type `κ`. -/
structure Object (κ : Type) where
  id : Nat
  config : κ
deriving DecidableEq, Repr

namespace Store

/-- A cell that nothing else refers to. -/
def allocate : Action Store Nat :=
  Action.of fun store => (.ok store.cells.length, { store with cells := store.cells ++ [{}] })

/-- The cell of an object; a cell that was never used is empty. -/
def cell (store : Store) (id : Nat) : Cell := store.cells.getD id {}

def look (id : Nat) : Action Store Cell := Action.of fun store => (.ok (store.cell id), store)

def modifyCell (id : Nat) (change : Cell → Cell) : Action Store Unit :=
  Action.of fun store => (.ok (), { store with cells := store.cells.modify id change })

def onScratch (id : Nat) {α : Type} (action : Action OutputChannel α) : Action Store α :=
  Action.zoom (fun store => (store.cell id).scratch)
    (fun scratch store =>
      { store with cells := store.cells.modify id fun cell => { cell with scratch := scratch } })
    action

end Store

namespace Object

variable {κ : Type}

/-- Whether two references are one object. -/
def isSame (x y : Object κ) : Bool := x.id == y.id

def make (config : κ) : Action Store (Object κ) := do
  return ⟨← Store.allocate, config⟩

end Object

end SerializerContract
