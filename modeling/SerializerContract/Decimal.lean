import SerializerContract.Ieee

/-!
# Numbers in decimal

A positive fraction is rounded to a given count of significant digits, a tie going to the even
neighbour. How the digits are then laid out is a `Style`: with no trailing zeros, positionally where
the exponent is moderate, with an exponent elsewhere.
-/

namespace SerializerContract

namespace Decimal

/-- How many decimal digits a whole number has; none for zero. -/
def digitCount (n : Nat) : Nat :=
  if h : n = 0 then 0 else digitCount (n / 10) + 1
termination_by n
decreasing_by omega

/-- `num / den` rounded to a whole number, a tie going to the even neighbour. -/
def roundDiv (num den : Nat) : Nat :=
  let quotient := num / den
  let twice := 2 * (num % den)
  if twice < den then quotient
  else if den < twice then quotient + 1
  else quotient + quotient % 2

/-- The decimal exponent of a positive fraction: the `e` with `10 ^ e ≤ num / den < 10 ^ (e + 1)`. -/
def exponentOf (num den : Nat) : Int :=
  if den ≤ num then (digitCount (num / den) : Int) - 1
  else -(digitCount ((den + num - 1) / num - 1) : Int)

/-- A positive fraction to `count` significant digits: a whole number of exactly `count` digits and
the exponent of its first digit. -/
def significant (count num den : Nat) : Nat × Int :=
  let exponent := exponentOf num den
  let shift : Int := (count : Int) - 1 - exponent
  let digits := roundDiv (num * Nat.pow 10 shift.toNat) (den * Nat.pow 10 (-shift).toNat)
  if digits = Nat.pow 10 count then (Nat.pow 10 (count - 1), exponent + 1) else (digits, exponent)

structure Style where
  digits : Nat
  /-- The smallest exponent of the first digit that is still written positionally. -/
  lowest : Int
  exponentDigits : Nat
deriving Repr

/-- The style of numbers in messages: six digits, positional from `0.0001` to below `1000000`. -/
def Style.message : Style := ⟨6, -4, 2⟩

def dropTrailingZeros (cs : List Char) : List Char :=
  (cs.reverse.dropWhile (· == '0')).reverse

/-- A whole part and a fraction; the point is left out with an empty fraction. -/
def withPoint (whole fraction : List Char) : List Char :=
  match dropTrailingZeros fraction with
  | [] => whole
  | kept => whole ++ '.' :: kept

def padLeft (width : Nat) (cs : List Char) : List Char :=
  List.replicate (width - cs.length) '0' ++ cs

/-- Lays out significant digits whose first digit has the given exponent. -/
def Style.layout (style : Style) (digits : Nat) (exponent : Int) : List Char :=
  let cs := digits.repr.toList
  if exponent < style.lowest ∨ (style.digits : Int) ≤ exponent then
    let sign := if exponent < 0 then '-' else '+'
    withPoint (cs.take 1) (cs.drop 1) ++
      'e' :: sign :: padLeft style.exponentDigits exponent.natAbs.repr.toList
  else if exponent < 0 then
    withPoint ['0'] (List.replicate (exponent.natAbs - 1) '0' ++ cs)
  else
    withPoint (cs.take (exponent.natAbs + 1)) (cs.drop (exponent.natAbs + 1))

/-- The text of a floating point number given by its bits. -/
def Style.text (style : Style) (format : FloatFormat) (bits : Nat) : String :=
  let sign := if format.isNegative bits then ['-'] else []
  let body :=
    if format.isNaN bits then ['n', 'a', 'n']
    else if format.magnitude bits = format.infinity then ['i', 'n', 'f']
    else if format.magnitude bits = 0 then ['0']
    else
      let (num, den) := format.toRatio bits
      let (digits, exponent) := significant style.digits num den
      style.layout digits exponent
  String.ofList (sign ++ body)

end Decimal

end SerializerContract
