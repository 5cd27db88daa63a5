import Transplant.NameSet

/-!
The settings of a project that sources are copied into: where its components and its shared
libraries lie, and what it has installed.
-/

namespace Transplant

/-- The import paths of a project's components and of its shared libraries. -/
structure Aliases where
  components : Text
  lib : Text
deriving DecidableEq, Repr

/-- The settings of a project. -/
structure Config where
  model : Text
  tsx : Bool
  srcDir : Bool
  aliases : Aliases
  installedLib : NameSet
  installedComponents : NameSet
deriving DecidableEq

/-- An alias a project cannot work with. -/
inductive AliasError where
  /-- Nothing but white space. -/
  | blank (key : String)
  /-- Paths are put behind an alias with a slash, so that it must not bring one. -/
  | trailingSlash (key : String) (value : Text)
deriving DecidableEq, Repr

/-- The wording of an alias error. -/
def AliasError.message : AliasError → String
  | .blank key => key ++ " cannot be empty"
  | .trailingSlash key value => key ++ " must not end with '/': " ++ String.ofList value

namespace Aliases

/-- The aliases of a project that sets none. -/
def standard : Aliases where
  components := "@/components/ui".toList
  lib := "@/lib/microbuild".toList

/-- Refuses an alias that is blank or ends in a slash. -/
def checkOne (key : String) (value : Text) : Except AliasError Unit :=
  if value.trim = [] then .error (.blank key)
  else if value.getLast? = some '/' then .error (.trailingSlash key value)
  else .ok ()

/-- Checks both aliases, the components' first. -/
def check (a : Aliases) : Except AliasError Unit := do
  checkOne "aliases.components" a.components
  checkOne "aliases.lib" a.lib

/-- An alias that paths can be put behind. -/
def Usable (value : Text) : Prop := value.trim ≠ [] ∧ value.getLast? ≠ some '/'

theorem checkOne_eq_ok_iff {key : String} {value : Text} :
    checkOne key value = .ok () ↔ Usable value := by
  rw [checkOne, Usable]
  split
  · simp_all
  · split <;> simp_all

theorem check_eq_ok_iff {a : Aliases} :
    a.check = .ok () ↔ Usable a.components ∧ Usable a.lib := by
  rw [← @checkOne_eq_ok_iff "aliases.components", ← @checkOne_eq_ok_iff "aliases.lib"]
  cases h : checkOne "aliases.components" a.components <;> simp [check, h, bind, Except.bind]

end Aliases

namespace Config

/-- The settings of a project that makes none. -/
def standard : Config where
  model := "copy-own".toList
  tsx := true
  srcDir := false
  aliases := .standard
  installedLib := ∅
  installedComponents := ∅

instance : Inhabited Config := ⟨standard⟩

/-- The settings with other aliases. -/
def withAliases (c : Config) (components lib : Text) : Config :=
  { c with aliases := ⟨components, lib⟩ }

/-- The settings themselves, if their aliases can be worked with. -/
def validate (c : Config) : Except AliasError Config := do
  c.aliases.check
  return c

end Config

end Transplant
