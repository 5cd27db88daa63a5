import Transplant.Path
import Transplant.Source.Document
import Transplant.Specifier

/-!
Moving a source file within the tree of its package. The tree has a root at either end: among the
sources the first directory `src`, in the project the directory that components or forms are copied
to. The relative imports of a moved file are written anew, so that they name the same files as
before; what lies in or below the file's own directory is taken to move along with it.
-/

namespace Transplant
open Source

/-- The directory of the project that sources are copied to. -/
inductive DestinationRoot where
  /-- The one an import alias stands for. -/
  | alias (path : Text)
  /-- The last of this name, which may consist of several segments. -/
  | directory (name : Text)
deriving DecidableEq, Repr

namespace DestinationRoot

/-- The marks an alias may begin with in place of the project's root. -/
def aliasMarks : List Text := ["@/", "~/", "#/", "./", "/"].map String.toList

/-- An alias without its mark. -/
def withoutMark (path : Text) : Text := (aliasMarks.findSome? path.stripStart?).getD path

/-- The segments that end in the root. -/
def segments : DestinationRoot → List Text
  | .alias path => Path.split (withoutMark path)
  | .directory name => Path.split name

end DestinationRoot

/-- A move from one directory to another, both given by their segments below the root. -/
structure Relocation where
  source : List Text
  dest : List Text
deriving DecidableEq, Repr

namespace Relocation
variable {m : Relocation}

/-- The directories below the first `src`, or all of them. -/
def belowSource (dirs : List Text) : List Text :=
  match dirs.dropWhile (· ≠ "src".toList) with
  | [] => dirs
  | _ :: below => below

/-- The directories below the last run of a root's segments. -/
def belowRoot? (root dirs : List Text) : Option (List Text) :=
  (Path.lastRun? root dirs).map fun i => dirs.drop (i + root.length)

/-- The move that takes a file from one path to another. A destination outside the root counts as
one that lies directly in it. -/
def ofPaths (source dest : Text) (root : DestinationRoot) : Relocation where
  source := belowSource (Path.parentDirs source)
  dest := (belowRoot? root.segments (Path.parentDirs dest)).getD []

/-- Where a file lies after the move. The files in and below the source directory move along,
unless this is the root: then it is only the importing file that moves. -/
def target (m : Relocation) (p : Position) : Position :=
  if m.source ≠ [] ∧ p.ups = 0 ∧ m.source <+: p.segments then
    { p with segments := m.dest ++ p.segments.drop m.source.length }
  else p

/-- The specifier for the moved file, unless that is the very specifier that the file would have
had before. In this case its own spelling is kept. -/
def specifier? (m : Relocation) (specifier : Text) : Option Text :=
  let before := Path.resolve m.source specifier
  let moved := Path.relativeSpecifier m.dest (m.target before)
  if moved = Path.relativeSpecifier m.source before then none else some moved

/-- Writes the relative imports of a moved file anew. A file that stays where it is keeps them. -/
def mapImports (m : Relocation) (content : Text) : Text :=
  if m.source = m.dest then content
  else mapSpecifiers
    (fun i => if Specifier.classify i.specifier = .relative then m.specifier? i.specifier else none)
    content

theorem mapImports_self (h : m.source = m.dest) (content : Text) : m.mapImports content = content := by
  simp [mapImports, h]

theorem target_source_append (h : m.source ≠ []) (r : List Text) :
    m.target ⟨0, m.source ++ r⟩ = ⟨0, m.dest ++ r⟩ := by
  simp [target, h]

end Relocation

/-- What a file is copied as. -/
inductive FileMove where
  /-- A component, to the directory of the components' alias. -/
  | components (source dest : Text)
  /-- A form component, to the directory `vform`. -/
  | vform (source dest : Text)
deriving DecidableEq, Repr

/-- The move of directories that comes with it, for a given alias of the components. -/
def FileMove.relocation (components : Text) : FileMove → Relocation
  | .components source dest => .ofPaths source dest (.alias components)
  | .vform source dest => .ofPaths source dest (.directory "vform".toList)

end Transplant
