import Transplant.Number.Binary64
import Transplant.Text

/-!
The shortest decimal that reads back as a given floating-point number: of the decimals with the
fewest digits the nearest to it.
-/

namespace Transplant

/-- The number `coefficient · 10 ^ exponent`. -/
structure Decimal where
  coefficient : Nat
  exponent : Int
deriving DecidableEq, Repr

namespace Decimal

/-- A decimal as a quotient of naturals. -/
def quotient (d : Decimal) : Nat × Nat :=
  if 0 ≤ d.exponent then (d.coefficient * Nat.pow 10 d.exponent.natAbs, 1)
  else (d.coefficient, Nat.pow 10 d.exponent.natAbs)

/-- The floating-point number nearest to a decimal. -/
def toBinary64 (d : Decimal) : Binary64 := .ofQuotient d.quotient.1 d.quotient.2

/-- The units of a number, counted in steps of `10 ^ exponent`: the full steps, and twice what is
left over against one step. -/
def steps (x : Binary64) (exponent : Int) : Nat × Ordering :=
  let num := if 0 ≤ exponent then x.units else x.units * Nat.pow 10 exponent.natAbs
  let den := if 0 ≤ exponent then Binary64.one * Nat.pow 10 exponent.natAbs else Binary64.one
  (num / den, compare (2 * (num % den)) den)

/-- The decimal with this exponent that reads back as `x`: one of the two next to `x`, and where
both do, the nearer, or the even one. -/
def onGrid? (x : Binary64) (exponent : Int) : Option Decimal :=
  let (below, rest) := steps x exponent
  let lower : Decimal := ⟨below, exponent⟩
  let upper : Decimal := ⟨below + 1, exponent⟩
  let nearer := match rest with
    | .lt => lower
    | .gt => upper
    | .eq => if below % 2 = 0 then lower else upper
  if lower.toBinary64 = x then if upper.toBinary64 = x then some nearer else some lower
  else if upper.toBinary64 = x then some upper else none

/-- The power of ten that the first digit of a number stands for: the largest at which there is a
full step. Every number lies between the powers looked at. -/
def leadingExponent (x : Binary64) : Int :=
  ((List.range 640).findSome? fun (k : Nat) =>
    let exponent : Int := 310 - (k : Int)
    if (steps x exponent).1 ≠ 0 then some exponent else none).getD 0

/-- The shortest decimal that reads back as `x`. With 17 digits there always is one. -/
def shortest (x : Binary64) : Decimal :=
  ((List.range 17).findSome? fun (n : Nat) => onGrid? x (leadingExponent x - (n : Int))).getD
    ⟨x.units / Binary64.one, 0⟩

/-- The digits of a decimal without zeros at the end, and the power of ten the first stands for. -/
def leadingDigits (d : Decimal) : Text × Int :=
  let digits := Nat.toDigits 10 d.coefficient
  (Text.dropEndWhile (· == '0') digits, d.exponent + digits.length - 1)

end Decimal

end Transplant
