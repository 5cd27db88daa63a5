import Transplant.Casing
import Transplant.Source.Document
import Transplant.Specifier

/-!
File names in relative imports. Copied files have names in kebab case, so that the last name of a
relative specifier is put into it where it is in Pascal case; and where a file has the name of its
directory, both are one file in the project.

A file may ask to be left alone, by a directive in a line before its first import.
-/

namespace Transplant.FileCasing
open Source Casing

/-- The line that switches the casing of file names off. -/
def directive : Text := "// ".toList ++ Specifier.scope ++ "-preserve-casing".toList

/-- Whether a line holds the directive. It may be followed by a remark. -/
def isDirective (line : Text) : Bool :=
  match line.trim.stripStart? directive with
  | some [] => true
  | some (c :: _) => Unicode.isWhiteSpace c
  | none => false

/-- The pieces of a document before its first statement. -/
def head (d : Document) : Document := d.takeWhile fun
  | .char _ => true
  | .statement _ => false

/-- Whether a source asks for its file names to be left alone. Only the lines before its first import
can do so. -/
def isPreserved (content : Text) : Bool :=
  (Text.lines (head (document content)).write).any isDirective

/-- The segment that names a directory's own file. -/
def index : Text := "index".toList

/-- Whether a segment leads nowhere by name. -/
def isDots (segment : Text) : Bool := segment == ['.'] || segment == ['.', '.']

/-- Drops the last directory of a specifier, which has the name of the file behind it. The file
takes its place, one level up: a `..` is dropped, and where no dots are left in front a `.` is put
there. -/
def dropDuplicate (dirs : List Text) : List Text :=
  let up := dirs.dropLast.erase ['.', '.']
  if up.head?.any isDots then up else ['.'] :: up

/-- A specifier with its last name in kebab case, unless that name is not in Pascal case. What
follows the first point of the name is its extension and stays. -/
def kebabParts? (dirs : List Text) (name : Text) : Option (List Text) :=
  let (stem, extension) :=
    match name.splitFirst? '.' with
    | some (stem, ext) => (stem, '.' :: ext)
    | none => (name, [])
  if isPascal stem then
    let kebab := toKebab stem
    let isDuplicate := dirs.getLast?.any fun dir => !isDots dir && toKebab dir == kebab
    some ((if isDuplicate then dropDuplicate dirs else dirs) ++ [kebab ++ extension])
  else none

/-- A specifier's parts before a final `index`, where that names the file of the directory in front
of it, and the `index` itself. -/
def splitIndex (parts : List Text) : List Text × List Text :=
  if 2 < parts.length ∧ parts.getLast? = some index then (parts.dropLast, [index]) else (parts, [])

/-- A specifier with its file name in kebab case, if that makes it another one. -/
def specifier? (specifier : Text) : Option Text := do
  let (parts, suffix) := splitIndex (specifier.split '/')
  let kebab ← kebabParts? parts.dropLast (← parts.getLast?)
  let result := Text.join '/' (kebab ++ suffix)
  if result = specifier then none else some result

/-- Puts the file names of a source's relative imports into kebab case. -/
def mapImports (content : Text) : Text :=
  if isPreserved content then content
  else mapSpecifiers
    (fun i => if Specifier.classify i.specifier = .relative then specifier? i.specifier else none)
    content

end Transplant.FileCasing
