import Transplant.Date
import Transplant.Specifier

/-!
Provenance headers. A copied source carries a comment that says which package it was copied from,
in which version, and when. The header is the first thing in the file but for a directive such as
`"use client"`, which must stay in front. A source has one header at most: a new one takes the place
of the old.
-/

namespace Transplant

/-- What is written into a header. -/
structure Stamp where
  package : Text
  subpath : Text
  version : Text
  date : Text
deriving DecidableEq, Repr

/-- What is read from headers, as far as it is there. -/
structure Provenance where
  origin : Option Text
  version : Option Text
  date : Option Text
deriving DecidableEq, Repr

namespace Provenance

/-- The tag of the line that names the package. -/
def originTag : Text := Specifier.scope ++ "-origin".toList

/-- The tag of the line that gives the version. -/
def versionTag : Text := Specifier.scope ++ "-version".toList

/-- The tag of the line that gives the date. -/
def dateTag : Text := Specifier.scope ++ "-date".toList

/-! The directive in front -/

/-- A text without the quotes around it. -/
def unquote? (t : Text) : Option Text :=
  let without (q : Char) := (t.stripStart? [q]).bind (Text.stripEnd? · [q])
  (without '"').or (without '\'')

/-- Whether a line is a directive that must stay the first of its file. It may end in semicolons. -/
def isDirective (line : Text) : Bool :=
  match unquote? (Text.trimEnd (line.trim.dropEndWhile (· == ';'))) with
  | some d => d == "use client".toList || d == "use server".toList
  | none => false

/-- A source as the directive it begins with, which may be empty, and the rest. -/
def splitDirective (content : Text) : Text × Text :=
  match content.fullLines with
  | line :: rest => if isDirective line then (line, rest.flatten) else ([], content)
  | [] => ([], content)

/-! Removal -/

/-- The lines of a comment up to the one that ends it, and the lines after it. -/
def splitComment? : List Text → Option (List Text × List Text)
  | [] => none
  | line :: rest =>
    if line.trim.stripEnd? "*/".toList |>.isSome then some ([line], rest)
    else (splitComment? rest).map fun (comment, rest) => (line :: comment, rest)

/-- Whether a text has one of the tags in it. -/
def hasTag (t : Text) : Bool := [originTag, versionTag, dateTag].any (·.occursIn t)

/-- The lines of a source without the header that stands first among them, if there is one: a
documentation comment that has a tag in it, below nothing but blank lines. -/
def stripLines? (lines : List Text) : Option (List Text) :=
  match lines.dropWhile (·.trim == []) with
  | [] => none
  | opening :: rest => do
    guard (opening.trim = "/**".toList)
    let (comment, rest) ← splitComment? rest
    guard (hasTag (opening :: comment).flatten)
    return lines.takeWhile (·.trim == []) ++ rest

/-- A source without its header. -/
def strip (content : Text) : Text :=
  let (directive, rest) := splitDirective content
  match stripLines? rest.fullLines with
  | some lines => directive ++ lines.flatten
  | none => content

/-! Reading -/

/-- A text without the ends of comments at its end, of which there may be several. -/
def dropCommentEnds (t : Text) : Text := (go t.reverse).reverse
where
  go : Text → Text
    | '/' :: '*' :: r => go r
    | r => r

/-- What stands in a line of a documentation comment. -/
def commentBody? (line : Text) : Option Text :=
  ((line.trim.stripStart? "/**".toList).or (line.trim.stripStart? ['*'])).map
    fun body => (dropCommentEnds body).trim

/-- What follows a tag. White space must part them. -/
def tagValue? (tag body : Text) : Option Text := do
  let rest ← body.stripStart? tag
  guard (rest.head?.any Unicode.isWhiteSpace ∧ rest.trim ≠ [])
  return rest.trim

/-- What follows the first line that begins with a tag. -/
def field? (tag content : Text) : Option Text :=
  content.lines.findSome? fun line => (commentBody? line).bind (tagValue? tag)

/-- What the tags of a source say, wherever in it they stand. -/
def read (content : Text) : Provenance where
  origin := field? originTag content
  version := field? versionTag content
  date := field? dateTag content

/-- The same, unless there is no tag in the source. -/
def read? (content : Text) : Option Provenance :=
  let p := read content
  if p = ⟨none, none, none⟩ then none else some p

/-- An origin as the package and the path in it. The name of a scoped package has two segments. -/
def packageAndSubpath (origin : Text) : Text × Text :=
  let parts :=
    match origin with
    | '@' :: _ => do
      let (scope, rest) ← origin.splitFirst? '/'
      let (name, subpath) ← rest.splitFirst? '/'
      return (scope ++ '/' :: name, subpath)
    | _ => origin.splitFirst? '/'
  parts.getD (origin, [])

/-- The date, if the text that stands for it is one. -/
def parsedDate? (p : Provenance) : Option Date := p.date.bind Date.parse?

end Provenance

namespace Stamp
open Provenance

/-- The package and the path in it, with one slash between them, as a header names them. -/
def origin (s : Stamp) : Text :=
  let package := s.package.dropEndWhile (· == '/')
  let subpath := Text.dropEndWhile (· == '/') (s.subpath.dropWhile (· == '/'))
  if subpath = [] then package else package ++ '/' :: subpath

/-- A line of a header. -/
def line (tag value : Text) : Text := " * ".toList ++ tag ++ ' ' :: value ++ ['\n']

/-- The header. -/
def header (s : Stamp) : Text :=
  "/**\n".toList ++ line originTag s.origin ++ line versionTag s.version ++ line dateTag s.date ++
    " */\n".toList

/-- Puts a header into a source, in place of the one it has. -/
def addTo (s : Stamp) (content : Text) : Text :=
  let (directive, rest) := splitDirective (strip content)
  let lineEnd := if directive = [] ∨ directive.getLast? = some '\n' then [] else ['\n']
  directive ++ lineEnd ++ s.header ++ rest

end Stamp

end Transplant
