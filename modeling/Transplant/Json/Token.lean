import Transplant.Json.Number

/-!
The tokens of JSON documents. A text is cut into tokens from the left; where it cannot be cut any
further the last token is `fault`.
-/

namespace Transplant.Json
variable {t rest : Text} {token : Token}

/-- What stands for a part of a string: a character, or an escape with a code unit. -/
inductive StringItem where
  | char (c : Char)
  | unit (n : Nat)
deriving DecidableEq, Repr

/-- A token. -/
inductive Token where
  | openBracket
  | closeBracket
  | openBrace
  | closeBrace
  | comma
  | colon
  | null
  | bool (b : Bool)
  | number (n : Numeral)
  | string (items : List StringItem)
  /-- What begins here is no token. -/
  | fault
deriving DecidableEq, Repr

/-- The character that an escape letter stands for. -/
def escaped? : Char → Option Char
  | '"' => some '"'
  | '\\' => some '\\'
  | '/' => some '/'
  | 'b' => some '\x08'
  | 'f' => some '\x0c'
  | 'n' => some '\n'
  | 'r' => some '\r'
  | 't' => some '\t'
  | _ => none

/-- The value of a hexadecimal digit. -/
def hexDigit? (c : Char) : Option Nat :=
  if c.isDigit then some (c.toNat - '0'.toNat)
  else if 'a' ≤ c ∧ c ≤ 'f' then some (c.toNat - 'a'.toNat + 10)
  else if 'A' ≤ c ∧ c ≤ 'F' then some (c.toNat - 'A'.toNat + 10)
  else none

/-- The value of four hexadecimal digits. -/
def hex4? (a b c d : Char) : Option Nat := do
  return (((← hexDigit? a) * 16 + (← hexDigit? b)) * 16 + (← hexDigit? c)) * 16 + (← hexDigit? d)

/-- The items of a string, up to the quote that ends it, and the rest. Control characters must be
escaped. -/
def stringItems? : Text → Option (List StringItem × Text)
  | '"' :: cs => some ([], cs)
  | '\\' :: 'u' :: a :: b :: c :: d :: cs => do
    let n ← hex4? a b c d
    let (items, rest) ← stringItems? cs
    return (.unit n :: items, rest)
  | '\\' :: e :: cs => do
    let c ← escaped? e
    let (items, rest) ← stringItems? cs
    return (.char c :: items, rest)
  | c :: cs =>
    if c.toNat < 32 ∨ c = '\\' then none
    else (stringItems? cs).map fun (items, rest) => (.char c :: items, rest)
  | [] => none

/-- The text of a string. Two units that are a surrogate pair are one character; a surrogate without
its partner is none. -/
def stringText? : List StringItem → Option Text
  | [] => some []
  | .char c :: items => (stringText? items).map (c :: ·)
  | .unit n :: items =>
    if 0xD800 ≤ n ∧ n < 0xDC00 then
      match items with
      | .unit m :: items =>
        if 0xDC00 ≤ m ∧ m < 0xE000 then
          (stringText? items).map (Char.ofNat (0x10000 + (n - 0xD800) * 0x400 + (m - 0xDC00)) :: ·)
        else none
      | _ => none
    else if 0xDC00 ≤ n ∧ n < 0xE000 then none
    else (stringText? items).map (Char.ofNat n :: ·)

/-- The white space that may stand between tokens. -/
def isSpace (c : Char) : Bool := c == ' ' || c == '\n' || c == '\t' || c == '\r'

/-- The token a text begins with, and the rest. -/
def token? : Text → Option (Token × Text)
  | [] => none
  | '[' :: cs => some (.openBracket, cs)
  | ']' :: cs => some (.closeBracket, cs)
  | '{' :: cs => some (.openBrace, cs)
  | '}' :: cs => some (.closeBrace, cs)
  | ',' :: cs => some (.comma, cs)
  | ':' :: cs => some (.colon, cs)
  | '"' :: cs => (stringItems? cs).map fun (items, rest) => (.string items, rest)
  | 'n' :: 'u' :: 'l' :: 'l' :: cs => some (.null, cs)
  | 't' :: 'r' :: 'u' :: 'e' :: cs => some (.bool true, cs)
  | 'f' :: 'a' :: 'l' :: 's' :: 'e' :: cs => some (.bool false, cs)
  | t => (Numeral.read? t).map fun (n, rest) => (.number n, rest)

theorem stringItems?_rest_lt {items : List StringItem} (h : stringItems? t = some (items, rest)) :
    rest.length < t.length := by
  fun_induction stringItems? t generalizing items rest with
  | case1 => simp_all
  | case2 a b c d cs ih =>
    simp only [Option.bind_eq_bind, Option.bind_eq_some_iff, Option.pure_def, Option.some.injEq,
      Prod.mk.injEq, Prod.exists] at h
    obtain ⟨n, -, items', rest', h', -, rfl⟩ := h
    have := ih h'
    simp only [List.length_cons]
    omega
  | case3 e cs _ ih =>
    simp only [Option.bind_eq_bind, Option.bind_eq_some_iff, Option.pure_def, Option.some.injEq,
      Prod.mk.injEq, Prod.exists] at h
    obtain ⟨n, -, items', rest', h', -, rfl⟩ := h
    have := ih h'
    simp only [List.length_cons]
    omega
  | case4 => simp at h
  | case5 c cs _ _ _ _ ih =>
    simp only [Option.map_eq_some_iff, Prod.mk.injEq, Prod.exists] at h
    obtain ⟨items', rest', h', -, rfl⟩ := h
    have := ih h'
    simp only [List.length_cons]
    omega
  | case6 => simp at h

theorem token?_rest_lt (h : token? t = some (token, rest)) : rest.length < t.length := by
  rw [token?.eq_def] at h
  split at h
  case h_1 => cases h
  case h_8 =>
    obtain ⟨⟨items, rest'⟩, h', e⟩ := Option.map_eq_some_iff.1 h
    cases e
    have := stringItems?_rest_lt h'
    simp only [List.length_cons]
    omega
  case h_12 =>
    obtain ⟨⟨n, rest'⟩, h', e⟩ := Option.map_eq_some_iff.1 h
    cases e
    exact Numeral.read?_rest_lt h'
  all_goals
    cases h
    simp only [List.length_cons]
    omega

/-- The tokens of a text. -/
def tokens (t : Text) : List Token :=
  match t with
  | [] => []
  | c :: cs =>
    if isSpace c then tokens cs
    else match _h : token? (c :: cs) with
      | some (token, rest) => token :: tokens rest
      | none => [.fault]
termination_by t.length
decreasing_by
  · simp
  · exact token?_rest_lt _h

end Transplant.Json
