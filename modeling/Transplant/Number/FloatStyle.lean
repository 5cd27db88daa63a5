import Transplant.Number.Shortest

/-!
Floating-point numbers as text: the digits are those of the shortest decimal that reads back, and
a style says where a number is written positionally and where with an exponent.
-/

namespace Transplant

/-- How floating-point numbers are written: from which to which power of ten, that of the first
digit, they are written without an exponent. -/
structure FloatStyle where
  leastPositional : Int
  greatestPositional : Int

namespace FloatStyle

/-- A number in positional notation, with at least one digit on either side of the point. -/
def positional (digits : Text) (leading : Int) : Text :=
  if leading < 0 then
    "0.".toList ++ List.replicate (leading.natAbs - 1) '0' ++ digits
  else
    let width := leading.natAbs + 1
    let fraction := digits.drop width
    digits.take width ++ List.replicate (width - digits.length) '0' ++
      '.' :: (if fraction = [] then ['0'] else fraction)

/-- A number in scientific notation. The exponent always has a sign. -/
def scientific (digits : Text) (leading : Int) : Text :=
  let fraction := digits.drop 1
  digits.take 1 ++ (if fraction = [] then [] else '.' :: fraction) ++
    ['e', if leading < 0 then '-' else '+'] ++ Nat.toDigits 10 leading.natAbs

/-- A number as it is written. -/
def write (style : FloatStyle) (x : Binary64) : Text :=
  if x.units = 0 then "0.0".toList
  else
    let (digits, leading) := (Decimal.shortest x).leadingDigits
    if style.leastPositional ≤ leading ∧ leading ≤ style.greatestPositional then
      positional digits leading
    else scientific digits leading

end FloatStyle

end Transplant
