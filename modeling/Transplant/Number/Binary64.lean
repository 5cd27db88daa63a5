/-!
Floating-point numbers with 53 binary digits, from 0 up. Each is a multiple of the smallest, so
that a number is kept as how many of these units it has, and arithmetic is that of the naturals:
an operation finds its exact result as a quotient of two naturals and rounds it once.
-/

namespace Transplant

/-- A number as a count of units, of which there are `2 ^ 1074` in 1. -/
structure Binary64 where
  units : Nat
deriving DecidableEq, Repr

namespace Binary64

/-- The units in 1. -/
def one : Nat := Nat.pow 2 1074

/-- The first number that is too large, in units. -/
def limit : Nat := Nat.pow 2 1024 * one

/-- The natural nearest to `num / den`, the even one of two that are equally near. -/
def divideToNearest (num den : Nat) : Nat :=
  let whole := num / den
  let rest := 2 * (num % den)
  if rest < den ∨ (rest = den ∧ whole % 2 = 0) then whole else whole + 1

/-- The number nearest to `num / den` units, among those whose binary digits after the 53rd are 0. -/
def nearest (num den : Nat) : Binary64 :=
  let surplus := Nat.log2 (num / den) + 1 - 53
  let step := Nat.pow 2 surplus
  ⟨divideToNearest num (den * step) * step⟩

/-- The number nearest to `num / den`. -/
def ofQuotient (num den : Nat) : Binary64 := nearest (num * one) den

/-- The number nearest to a natural. -/
def ofNat (n : Nat) : Binary64 := ofQuotient n 1

/-- Whether a number is small enough to be one. -/
def isFinite (x : Binary64) : Bool := x.units < limit

/-- The product, rounded. -/
def mul (x y : Binary64) : Binary64 := nearest (x.units * y.units) one

/-- The quotient, rounded. -/
def div (x y : Binary64) : Binary64 := nearest (x.units * one) y.units

/-- The number nearest to a power of ten. -/
def pow10 (n : Nat) : Binary64 := ofNat (Nat.pow 10 n)

/-- The largest exponent whose power of ten is small enough to be a number. -/
def maxPow10 : Nat := 308

/-- A number times a power of ten, each factor and the result rounded; `none` if it is too large.
Where one power does not do, the number is divided by the largest until one does. -/
def scale (x : Binary64) (exponent : Int) : Option Binary64 :=
  if exponent.natAbs ≤ maxPow10 then
    let power := pow10 exponent.natAbs
    let result := if 0 ≤ exponent then x.mul power else x.div power
    if result.isFinite then some result else none
  else if x.units = 0 then some x
  else if 0 ≤ exponent then none
  else scale (x.div (pow10 maxPow10)) (exponent + maxPow10)
termination_by exponent.natAbs
decreasing_by simp only [maxPow10] at *; omega

end Binary64

end Transplant
