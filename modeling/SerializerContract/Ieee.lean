/-!
# Binary floating point numbers as bit patterns

A floating point number is its bits. Comparison is defined on the bits, so that it can be reasoned
about: a NaN differs from everything, and the two zeros are the same number.
-/

namespace SerializerContract

/-- A binary interchange format: one sign bit, then the exponent, then the fraction. -/
structure FloatFormat where
  exponentBits : Nat
  fractionBits : Nat
deriving DecidableEq, Repr

namespace FloatFormat

def single : FloatFormat := ⟨8, 23⟩

def double : FloatFormat := ⟨11, 52⟩

/-- What is left of the 80-bit extended format without the unit bit that it writes. -/
def extended : FloatFormat := ⟨15, 63⟩

variable (format : FloatFormat)

def magnitude (bits : Nat) : Nat := bits % (1 <<< (format.exponentBits + format.fractionBits))

/-- The magnitude of infinity; anything larger is a NaN. -/
def infinity : Nat := ((1 <<< format.exponentBits) - 1) <<< format.fractionBits

def isNegative (bits : Nat) : Bool :=
  (bits >>> (format.exponentBits + format.fractionBits)) % 2 == 1

def isNaN (bits : Nat) : Bool := decide (format.infinity < format.magnitude bits)

/-- The position of a number that is not a NaN in the order of all numbers; both zeros are at 0. -/
def rank (bits : Nat) : Int :=
  if format.isNegative bits then -(format.magnitude bits : Int) else format.magnitude bits

/-- Numeric equality: never true of a NaN, true of zeros of either sign. -/
def same (a b : Nat) : Bool :=
  !format.isNaN a && !format.isNaN b && format.rank a == format.rank b

/-- Numeric order: never true of a NaN. -/
def less (a b : Nat) : Bool :=
  !format.isNaN a && !format.isNaN b && decide (format.rank a < format.rank b)

def exponentField (bits : Nat) : Nat := format.magnitude bits >>> format.fractionBits

def fractionField (bits : Nat) : Nat := format.magnitude bits % (1 <<< format.fractionBits)

/-- The absolute value of a finite number as a fraction of whole numbers, the denominator positive. -/
def toRatio (bits : Nat) : Nat × Nat :=
  let field := format.exponentField bits
  let fraction := format.fractionField bits
  let bias := (1 <<< (format.exponentBits - 1)) - 1 + format.fractionBits
  let mantissa := if field = 0 then fraction else fraction + (1 <<< format.fractionBits)
  let exponent := if field = 0 then 1 else field
  if bias ≤ exponent then (mantissa <<< (exponent - bias), 1) else (mantissa, 1 <<< (bias - exponent))

/-! ## The extended format -/

/-- The unit bit and the fraction of an extended number. -/
def significand (bits : Nat) : Nat := bits % (1 <<< 64)

def extendedExponent (bits : Nat) : Nat := (bits >>> 64) % (1 <<< 15)

/-- The bits of an extended number without its unit bit. Above the sign there is only padding. With the smallest
exponent the unit bit may be set, and makes a normal number of it; with any other exponent it has to be set, and
nothing that lacks it is a number. -/
def ofExtended (bits : Nat) : Nat :=
  let exponent := extendedExponent bits
  let magnitude :=
    if exponent = 0 then significand bits
    else if significand bits < 1 <<< 63 then extended.infinity + 1
    else (exponent - 1) * (1 <<< 63) + significand bits
  (bits >>> 79) % 2 * (1 <<< 78) + magnitude

/-- What is not a number in the extended format: a unit bit is missing, or there is more than it beside the largest
exponent. -/
theorem isNaN_ofExtended (bits : Nat) : extended.isNaN (ofExtended bits) = true ↔
    (extendedExponent bits ≠ 0 ∧ significand bits < 1 <<< 63) ∨
      (extendedExponent bits = (1 <<< 15) - 1 ∧ significand bits ≠ 1 <<< 63) := by
  have hExponent : extendedExponent bits < 1 <<< 15 := Nat.mod_lt _ (by decide)
  have hSignificand : significand bits < 1 <<< 64 := Nat.mod_lt _ (by decide)
  have hMagnitude {n sign : Nat} (h : n < 1 <<< 78) : extended.magnitude (sign * (1 <<< 78) + n) = n :=
    Nat.mul_add_mod_of_lt h
  have hInfinity : extended.infinity = (1 <<< 78) - (1 <<< 63) := by decide
  rw [isNaN, decide_eq_true_iff, ofExtended, hInfinity]
  generalize extendedExponent bits = exponent at *
  generalize significand bits = significand at *
  by_cases hZero : exponent = 0
  · rw [if_pos hZero, hMagnitude (by omega)]
    omega
  · rw [if_neg hZero]
    by_cases hUnit : significand < 1 <<< 63
    · rw [if_pos hUnit, hMagnitude (by decide)]
      omega
    · rw [if_neg hUnit, hMagnitude (by omega)]
      omega

/-- The smallest normal number, in both of its spellings. -/
example : extended.same (ofExtended (1 <<< 63)) (ofExtended ((1 <<< 64) + (1 <<< 63))) = true := by decide

end FloatFormat

end SerializerContract
