import Transplant.Text
import Transplant.Unicode.CaseMapping
import Transplant.Unicode.Letter

/-!
Word casing of identifiers and of single path segments: `kebab-case`, `PascalCase` and `camelCase`.
Every function is defined on every text.
-/

namespace Transplant.Casing
open Unicode
variable {c d : Char} {s : Text}

/-- Whether `c` begins a word after `prev`: an uppercase letter does so after a lowercase one, and,
as the last capital of a run, before a lowercase one. The second rule needs a run that is not just
the capital the text begins with, so `atSecond` switches it off for the second character. -/
def beginsWord (atSecond : Bool) (prev c : Char) (next? : Option Char) : Bool :=
  isUpper c && (isLower prev || !atSecond && isUpper prev && next?.any isLower)

/-- The rest of a name in kebab case, given the character before it. -/
def kebabAfter (atSecond : Bool) (prev : Char) : Text → Text
  | [] => []
  | c :: cs =>
    (if beginsWord atSecond prev c cs.head? then ['-'] else []) ++ toLower c ++
      kebabAfter false c cs

/-- A name in kebab case: `HTMLParser` becomes `html-parser`, and `VForm` becomes `vform`. -/
def toKebab : Text → Text
  | [] => []
  | c :: cs => toLower c ++ kebabAfter true c cs

/-- A word with its first character in uppercase and the others as they are. -/
def capitalize : Text → Text
  | [] => []
  | c :: cs => toUpper c ++ cs

/-- A kebab name in Pascal case. Empty words are dropped. -/
def toPascal (s : Text) : Text :=
  ((s.split '-').filter (· ≠ [])).flatMap capitalize

/-- A kebab name in camel case. -/
def toCamel (s : Text) : Text :=
  match toPascal s with
  | [] => []
  | c :: cs => toLower c ++ cs

/-- Whether a segment is in Pascal case: ASCII letters and digits, an uppercase letter first. -/
def isPascal : Text → Bool
  | [] => false
  | c :: cs => c.isUpper && cs.all Char.isAlphanum

/-- Whether a segment has no uppercase character, and at least one character. -/
def isKebab (s : Text) : Bool := !s.isEmpty && !s.any isUpper

/-- Where no character is uppercase no hyphen is put in. -/
theorem kebabAfter_of_isUpper_eq_false (b : Bool) (d : Char) (h : ∀ c ∈ s, isUpper c = false) :
    kebabAfter b d s = s.flatMap toLower := by
  induction s generalizing b d with
  | nil => rfl
  | cons c s ih =>
    have hc := h c (by simp)
    simp [kebabAfter, beginsWord, hc, ih false c fun x hx => h x (by simp [hx])]

theorem toKebab_of_isKebab (h : isKebab s) : toKebab s = s.flatMap toLower := by
  cases s with
  | nil => rfl
  | cons c s =>
    simp only [isKebab, List.any_cons, Bool.and_eq_true, Bool.not_eq_true', Bool.or_eq_false_iff,
      List.any_eq_false, Bool.not_eq_true] at h
    simp [toKebab, kebabAfter_of_isUpper_eq_false true c h.2.2]

theorem isPascal_cons : isPascal (c :: s) ↔ c.isUpper ∧ ∀ d ∈ s, d.isAlphanum := by
  simp [isPascal]

end Transplant.Casing
