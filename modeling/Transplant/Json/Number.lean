import Transplant.Number.FloatStyle

/-!
Numbers in JSON documents. A numeral without fraction and exponent stands for an integer, if that
fits into a machine word, and any other for a floating-point number.

The floating-point number need not be the nearest to the numeral: as many digits as fit into a word
make up a first factor, the others only count towards the exponent, and the factor is then scaled by
a power of ten, with a rounding of its own.
-/

namespace Transplant.Json
variable {t rest : Text}

/-- A number as its characters: a sign, the digits of its integer part, and, if it has them, those
of its fraction and its exponent. -/
structure Numeral where
  negative : Bool
  whole : Text
  fraction : Option Text
  exponent : Option (Bool × Text)
deriving DecidableEq, Repr

/-- The value of a number in a document. -/
inductive Number where
  | natural (n : Nat)
  /-- The number `-n`, with `n` not 0. -/
  | negative (n : Nat)
  /-- A floating-point number, and whether it has a minus sign. -/
  | float (negative : Bool) (magnitude : Binary64)
deriving DecidableEq, Repr

namespace Numeral

/-- The largest word. -/
def maxWord : Nat := Nat.pow 2 64 - 1

/-- Appends decimal digits to a word for as long as they fit, and gives the digits left. -/
def fill (word : Nat) : Text → Nat × Text
  | [] => (word, [])
  | c :: cs =>
    let next := 10 * word + (c.toNat - '0'.toNat)
    if next ≤ maxWord then fill next cs else (word, c :: cs)

/-- The value of an exponent. -/
def exponentValue (negative : Bool) (digits : Text) : Int :=
  let n : Int := Nat.ofDigitChars 10 digits 0
  if negative then -n else n

/-- The value of a numeral, unless it is too large for a number. -/
def value? (n : Numeral) : Option Number :=
  let (word, unread) := fill 0 n.whole
  match n.fraction, n.exponent, unread with
  | none, none, [] =>
    if !n.negative then some (.natural word)
    else if word ≠ 0 ∧ word ≤ Nat.pow 2 63 then some (.negative word)
    else some (.float true (.ofNat word))
  | fraction, exponent, unread =>
    let digits := fraction.getD []
    let (word, unreadDigits) := fill word digits
    let shift : Int := (unread.length : Int) - (digits.length - unreadDigits.length : Nat)
    let power := exponent.elim 0 fun (negative, digits) => exponentValue negative digits
    ((Binary64.ofNat word).scale (shift + power)).map (.float n.negative)

/-- The digits a text begins with, at least one, and the rest. -/
def digits? (t : Text) : Option (Text × Text) :=
  match t.takeWhile Char.isDigit with
  | [] => none
  | digits => some (digits, t.dropWhile Char.isDigit)

/-- The integer part a text begins with: digits, of which the first is 0 only if it is alone. -/
def whole? (t : Text) : Option (Text × Text) :=
  (digits? t).bind fun (digits, rest) =>
    if digits.head? = some '0' ∧ digits.length ≠ 1 then none else some (digits, rest)

/-- The fraction a text begins with, if it begins with a point. -/
def fraction? : Text → Option (Option Text × Text)
  | '.' :: cs => (digits? cs).map fun (digits, rest) => (some digits, rest)
  | t => some (none, t)

/-- The exponent a text begins with, if it begins with an `e`. -/
def exponent? : Text → Option (Option (Bool × Text) × Text)
  | c :: cs =>
    if c = 'e' ∨ c = 'E' then
      let (negative, cs) := match cs with
        | '-' :: cs => (true, cs)
        | '+' :: cs => (false, cs)
        | cs => (false, cs)
      (digits? cs).map fun (digits, rest) => (some (negative, digits), rest)
    else some (none, c :: cs)
  | [] => some (none, [])

/-- The numeral a text begins with, if it can be read as one. -/
def read? (t : Text) : Option (Numeral × Text) := do
  let (negative, t) := match t with
    | '-' :: cs => (true, cs)
    | _ => (false, t)
  let (whole, t) ← whole? t
  let (fraction, t) ← fraction? t
  let (exponent, t) ← exponent? t
  return (⟨negative, whole, fraction, exponent⟩, t)

theorem digits?_rest_lt {digits : Text} (h : digits? t = some (digits, rest)) :
    rest.length < t.length := by
  rw [digits?] at h
  split at h
  · cases h
  · rename_i hne
    simp only [Option.some.injEq, Prod.mk.injEq] at h
    have := congrArg List.length (List.takeWhile_append_dropWhile (p := Char.isDigit) (l := t))
    have := List.length_pos_iff.2 hne
    simp only [List.length_append] at *
    rw [← h.2]
    omega

theorem whole?_rest_lt {digits : Text} (h : whole? t = some (digits, rest)) :
    rest.length < t.length := by
  obtain ⟨⟨d, u⟩, hd, h⟩ := Option.bind_eq_some_iff.1 h
  simp only at h
  split at h
  · cases h
  · cases h
    exact digits?_rest_lt hd

theorem fraction?_rest_le {f : Option Text} (h : fraction? t = some (f, rest)) :
    rest.length ≤ t.length := by
  rw [fraction?.eq_def] at h
  split at h
  · obtain ⟨⟨d, u⟩, hd, e⟩ := Option.map_eq_some_iff.1 h
    cases e
    have := digits?_rest_lt hd
    simp only [List.length_cons]
    omega
  · cases h
    exact Nat.le_refl _

theorem exponent?_rest_le {e : Option (Bool × Text)} (h : exponent? t = some (e, rest)) :
    rest.length ≤ t.length := by
  rw [exponent?.eq_def] at h
  split at h
  · split at h
    · obtain ⟨⟨d, u⟩, hd, e⟩ := Option.map_eq_some_iff.1 h
      cases e
      have := digits?_rest_lt hd
      revert this
      split <;> simp only [List.length_cons] <;> omega
    · cases h
      exact Nat.le_refl _
  · cases h
    exact Nat.le_refl _

theorem read?_rest_lt {n : Numeral} (h : read? t = some (n, rest)) :
    rest.length < t.length := by
  simp only [read?, Option.bind_eq_bind, Option.bind_eq_some_iff, Option.pure_def,
    Option.some.injEq, Prod.mk.injEq, Prod.exists] at h
  obtain ⟨w, u, hw, f, v, hf, e, x, he, -, rfl⟩ := h
  have whole := whole?_rest_lt hw
  have fraction := fraction?_rest_le hf
  have exponent := exponent?_rest_le he
  revert whole
  split <;> simp only [List.length_cons] <;> omega

end Numeral

/-- Floating-point numbers are written positionally from `0.00001` to below `10 ^ 16`. -/
def floatStyle : FloatStyle := ⟨-5, 15⟩

example : floatStyle.write (.ofNat 0) = "0.0".toList := by decide +kernel

example : floatStyle.write (.ofQuotient 1 10) = "0.1".toList := by decide +kernel

example : floatStyle.write (.ofQuotient 1 100000) = "0.00001".toList := by decide +kernel

example : floatStyle.write (.ofQuotient 12 10000000) = "1.2e-6".toList := by decide +kernel

example : floatStyle.write (.ofNat (10 ^ 15)) = "1000000000000000.0".toList := by decide +kernel

example : floatStyle.write (.ofNat (10 ^ 16)) = "1e+16".toList := by decide +kernel

end Transplant.Json
