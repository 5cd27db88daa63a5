import Transplant.Config
import Transplant.Source.Document
import Transplant.Specifier

/-!
Imports of the scope's packages. A package of the scope has a fixed place in the project it is
copied to, below one of the project's aliases, and its imports are pointed there. Packages without
such a place are left alone.
-/

namespace Transplant
open Source

/-- The packages that lie side by side below the alias for libraries. -/
inductive Library where
  | types
  | services
  | hooks
  | utils
deriving DecidableEq, Repr

/-- The name of a library, in imports and as a directory. -/
def Library.name : Library → String
  | .types => "types"
  | .services => "services"
  | .hooks => "hooks"
  | .utils => "utils"

/-- The packages of the scope that have a place in a project. -/
inductive Subpackage where
  | library (l : Library)
  /-- The components themselves. -/
  | uiInterfaces
  /-- The form components, which have a directory of their own among the components. -/
  | uiForm
deriving DecidableEq, Repr

namespace Subpackage

/-- The subpackages and the names they are imported by. -/
def all : List (String × Subpackage) :=
  [("ui-interfaces", .uiInterfaces), ("ui-form", .uiForm)] ++
    [Library.types, .services, .hooks, .utils].map fun l => (l.name, .library l)

/-- The subpackage of a name. -/
def ofName? (name : Text) : Option Subpackage :=
  (all.find? fun entry => entry.1.toList == name).map (·.2)

/-- The place of a subpackage in a project. -/
def base (a : Aliases) : Subpackage → Text
  | .library l => a.lib ++ '/' :: l.name.toList
  | .uiInterfaces => a.components
  | .uiForm => a.components ++ "/vform".toList

end Subpackage

namespace Package
variable {s : Text}

/-- What a specifier names below the scope. -/
def belowScope? (specifier : Text) : Option Text :=
  specifier.stripStart? (Specifier.scope ++ ['/'])

/-- The subpackage of a name that begins a path, and what follows its slash. -/
def subpackageAndPath? (path : Text) : Option (Subpackage × Text) :=
  let (name, rest) := (path.splitFirst? '/').getD (path, [])
  (Subpackage.ofName? name).map fun p => (p, rest)

/-- Where a package import points to in a project, unless the package has no place there. -/
def resolve? (a : Aliases) (specifier : Text) : Option Text := do
  let (subpackage, rest) ← subpackageAndPath? (← belowScope? specifier)
  let base := subpackage.base a
  return if rest = [] then base else base ++ '/' :: rest

/-- Points the package imports of a source into a project. -/
def mapImports (a : Aliases) (content : Text) : Text :=
  mapSpecifiers
    (fun i => if Specifier.classify i.specifier = .package then resolve? a i.specifier else none)
    content

/-- Whether a source imports anything from the scope. -/
def importsScope (content : Text) : Bool :=
  (imports content).any fun i => Specifier.isScoped i.specifier

/-- The library that a specifier names, or lies in. -/
def library? (specifier : Text) : Option Library := do
  match ← Subpackage.ofName? (← ((← belowScope? specifier).split '/').head?) with
  | .library l => some l
  | _ => none

/-- The libraries that a source imports. -/
def requiredLibs (content : Text) : NameSet :=
  .ofList ((imports content).filterMap fun i => (library? i.specifier).map (·.name.toList))

/-- The libraries that a source imports and a project lacks. -/
def missingLibs (installed : NameSet) (content : Text) : NameSet :=
  (requiredLibs content).filter fun name => name ∉ installed

theorem belowScope?_eq_some_iff {r : Text} :
    belowScope? s = some r ↔ s = Specifier.scope ++ '/' :: r := by
  simp [belowScope?, Text.stripStart?_eq_some_iff]

end Package

end Transplant
