import Transplant.FileCasing
import Transplant.Package
import Transplant.Provenance
import Transplant.Relocation

/-!
Everything that is done to a source when it is copied: its package imports are pointed into the
project, its relative imports follow the move, their file names are put into kebab case, and a
header is added that says where it came from.
-/

namespace Transplant

/-- How a source is to be copied. -/
structure Transplantation where
  /-- The move, if the file is not just to be adapted in place. -/
  move : Option FileMove
  /-- The header, if one is wanted. -/
  stamp : Option Stamp

namespace Transplantation

/-- The imports of a source for its new place. -/
def adapt (a : Aliases) (move : Option FileMove) (content : Text) : Text :=
  let content := Package.mapImports a content
  let content := match move with
    | some m => (m.relocation a.components).mapImports content
    | none => content
  FileCasing.mapImports content

/-- The source as it is to stand in the project. -/
def run (t : Transplantation) (a : Aliases) (content : Text) : Text :=
  let content := adapt a t.move content
  match t.stamp with
  | some s => s.addTo content
  | none => content

end Transplantation

end Transplant
