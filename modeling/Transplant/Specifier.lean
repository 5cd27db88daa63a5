import Transplant.Text

/-!
Module specifiers, the quoted names that imports carry. A specifier names a package of the
library's own scope, a file relative to the importing one, or something else.
-/

namespace Transplant

/-- What a specifier names. -/
inductive SpecifierClass where
  /-- A package of the scope. -/
  | package
  /-- A file, by its place relative to the importing file. -/
  | relative
  /-- Anything else, such as another package or an alias of the project. -/
  | other
deriving DecidableEq, Repr

namespace Specifier

/-- The scope whose packages are copied. -/
def scope : Text := "@microbuild".toList

theorem scope_eq : scope = ['@', 'm', 'i', 'c', 'r', 'o', 'b', 'u', 'i', 'l', 'd'] := rfl

/-- Whether a specifier is the scope itself or lies below it. -/
def isScoped (s : Text) : Bool :=
  match s.stripStart? scope with
  | some [] => true
  | some (c :: _) => c == '/'
  | none => false

/-- Whether a specifier is `.` or `..`, or begins with one of them and a slash. -/
def isRelative : Text → Bool
  | ['.'] | ['.', '.'] => true
  | '.' :: '/' :: _ | '.' :: '.' :: '/' :: _ => true
  | _ => false

/-- The class of a specifier. The scope is looked for first, though no specifier has both forms. -/
def classify (s : Text) : SpecifierClass :=
  if isScoped s then .package else if isRelative s then .relative else .other

variable {s : Text}

theorem isScoped_iff : isScoped s ↔ s = scope ∨ ∃ r, s = scope ++ '/' :: r := by
  have key : ∀ r, s = scope ++ r ↔ s.stripStart? scope = some r := fun r =>
    Text.stripStart?_eq_some_iff.symm
  have self : s = scope ↔ s.stripStart? scope = some [] := by rw [← key, List.append_nil]
  rw [self]
  simp only [key, isScoped]
  cases s.stripStart? scope with
  | none => simp
  | some r => cases r <;> simp

theorem isRelative_eq_false_of_isScoped (h : isScoped s) : isRelative s = false := by
  obtain rfl | ⟨r, rfl⟩ := isScoped_iff.1 h <;> simp [isRelative, scope_eq]

theorem classify_eq_package_iff : classify s = .package ↔ isScoped s := by
  cases h : isScoped s <;> cases h' : isRelative s <;> simp [classify, h, h']

theorem classify_eq_relative_iff : classify s = .relative ↔ isRelative s := by
  cases h : isScoped s with
  | true => simp [classify, h, isRelative_eq_false_of_isScoped h]
  | false => cases h' : isRelative s <;> simp [classify, h, h']

end Specifier

end Transplant
