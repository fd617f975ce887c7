/-!
# Rows

Sequences whose length is part of their type.
-/

namespace SerializerContract

def Row (α : Type) : Nat → Type
  | 0 => Unit
  | n + 1 => α × Row α n

namespace Row

variable {α : Type}

def toList : {n : Nat} → Row α n → List α
  | 0, _ => []
  | _ + 1, (first, rest) => first :: rest.toList

/-- A row of the given length from a list, padded at the end. -/
def ofList (padding : α) : (n : Nat) → List α → Row α n
  | 0, _ => ()
  | n + 1, [] => (padding, ofList padding n [])
  | n + 1, x :: xs => (x, ofList padding n xs)

def replicate (x : α) : (n : Nat) → Row α n
  | 0 => ()
  | n + 1 => (x, replicate x n)

end Row

end SerializerContract
