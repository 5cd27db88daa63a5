import Transplant.Source.Statement

/-!
A source text as a document: its import statements in order, and every other character by itself.
Writing a document gives the text back (`write_scan`), so that a change of the specifiers is a
change of the statements' specifiers and of nothing else.
-/

namespace Transplant.Source
variable {t rest : Text} {s : Statement}

/-- A piece of a document. -/
inductive Piece where
  | char (c : Char)
  | statement (s : Statement)
deriving DecidableEq, Repr

/-- A source text taken apart. -/
abbrev Document := List Piece

/-- An import statement as others see it, with the byte at which it begins. -/
structure Import where
  kind : ImportKind
  specifier : Text
  offset : Nat
deriving DecidableEq, Repr

/-- The characters of a piece. -/
def Piece.text : Piece → Text
  | .char c => [c]
  | .statement s => s.text

namespace Document

/-- The text of a document. -/
def write (d : Document) : Text := d.flatMap Piece.text

/-- The imports of a document that begins at byte `start`. -/
def importsFrom (start : Nat) : Document → List Import
  | [] => []
  | .char c :: d => importsFrom (start + c.utf8Size) d
  | .statement s :: d =>
    ⟨s.kind, s.specifier, start⟩ :: importsFrom (start + s.text.byteSize) d

/-- The document with other specifiers: `f` says which import gets which. -/
def mapSpecifiersFrom (f : Import → Option Text) (start : Nat) : Document → Document
  | [] => []
  | .char c :: d => .char c :: mapSpecifiersFrom f (start + c.utf8Size) d
  | .statement s :: d =>
    .statement { s with specifier := (f ⟨s.kind, s.specifier, start⟩).getD s.specifier } ::
      mapSpecifiersFrom f (start + s.text.byteSize) d

end Document

/-- Takes a text apart. A statement begins where a line does; after a statement the search goes on
behind its specifier, in the middle of a line. -/
def scan (atLineStart : Bool) : Text → Document
  | [] => []
  | c :: cs =>
    match _h : if atLineStart then statement? (c :: cs) else none with
    | some (s, rest) => .statement s :: scan false rest
    | none => .char c :: scan (c == '\n') cs
termination_by t => t.length
decreasing_by
  · split at _h
    · exact statement?_rest_lt _h
    · cases _h
  · simp

/-- The document of a text. -/
def document (t : Text) : Document := scan true t

/-- The imports of a text, in order. -/
def imports (t : Text) : List Import := (document t).importsFrom 0

/-- The byte at which the first import begins. -/
def firstOffset? (t : Text) : Option Nat := (imports t).head?.map (·.offset)

/-- The text with other specifiers. Where `f` has none the specifier stays, and all else stays. -/
def mapSpecifiers (f : Import → Option Text) (t : Text) : Text :=
  ((document t).mapSpecifiersFrom f 0).write

@[simp] theorem scan_nil (b : Bool) : scan b [] = [] := by
  rw [scan]

theorem scan_inside (c : Char) (t : Text) :
    scan false (c :: t) = .char c :: scan (c == '\n') t := by
  rw [scan]
  simp

theorem scan_none {c : Char} (h : statement? (c :: t) = none) (b : Bool) :
    scan b (c :: t) = .char c :: scan (c == '\n') t := by
  rw [scan]
  split
  · cases b <;> simp_all
  · rfl

theorem scan_statement (h : statement? t = some (s, rest)) :
    scan true t = .statement s :: scan false rest := by
  cases t with
  | nil =>
    have := statement?_rest_lt h
    simp at this
  | cons c t =>
    rw [scan]
    split <;> simp_all

/-- Taking a text apart loses nothing. -/
theorem write_scan (b : Bool) (t : Text) : (scan b t).write = t := by
  fun_induction scan b t with
  | case1 => rfl
  | case2 b c t s rest h ih =>
    split at h
    · have := (statement?_of h).text_eq
      simp_all [Document.write, Piece.text, Statement.text, Reading.text]
    · cases h
  | case3 b c t h ih => simp_all [Document.write, Piece.text]

theorem mapSpecifiersFrom_none (d : Document) (n : Nat) :
    d.mapSpecifiersFrom (fun _ => none) n = d := by
  induction d generalizing n with
  | nil => rfl
  | cons p d ih => cases p <;> simp [Document.mapSpecifiersFrom, ih]

theorem mapSpecifiers_none (t : Text) : mapSpecifiers (fun _ => none) t = t := by
  rw [mapSpecifiers, mapSpecifiersFrom_none, document, write_scan]

end Transplant.Source
