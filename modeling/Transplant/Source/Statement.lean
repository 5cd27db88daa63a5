import Transplant.Source.Clause

/-!
Import statements, as far as the specifier: `import … from '…'`, `import '…'`, `export * from '…'`
and `export { … } from '…'`. A statement is looked for where a line begins.
-/

namespace Transplant.Source
variable {t rest : Text} {s : Statement}

/-- The kinds of import statements. -/
inductive ImportKind where
  /-- `import X from '…'` -/
  | value
  /-- `import type X from '…'` -/
  | typeOnly
  /-- `import '…'` -/
  | sideEffect
  /-- `export … from '…'` -/
  | reexport
deriving DecidableEq, Repr

/-- A statement up to the end of its specifier: `lead` begins where the line does and takes in the
quote that opens the specifier. -/
structure Statement where
  kind : ImportKind
  lead : Text
  specifier : Text
deriving DecidableEq, Repr

/-- The characters of a statement. -/
def Statement.text (s : Statement) : Text := s.lead ++ s.specifier

/-- Whether what stands after `import` begins with the keyword `type`. -/
def isTypeOnly (clause : Text) : Bool :=
  match clause.trimStart.stripStart? "type".toList with
  | some (c :: _) => Unicode.isWhiteSpace c || c == '{' || c == '*'
  | _ => false

/-- Reads what stands after `import`: a clause, at whose start the keyword must be over. -/
def importReader : Reader := fun t =>
  if t.head?.any Unicode.isWord then none else readClause importClause (.clause 't') t

/-- A character of a name. -/
def inName (c : Char) : Bool := Unicode.isWord c || c == '$'

/-- Reads a name and what follows it. A name that ends in `from` may be taken apart there, when what
follows cannot be read otherwise. -/
def nameReader : Reader := fun t =>
  let name := t.takeWhile inName
  let rest := t.dropWhile inName
  if name = [] then none
  else ((spacedFrom? rest).map (.after name)).or
    (match Text.stripEnd? name "from".toList with
      | some (_ :: _) => (quoted? rest).map (.after name)
      | _ => none)

/-- Reads what stands after `export` and `type`: a star, with or without a name, or names in
braces. -/
def reexportReader : Reader := fun t =>
  ((Reader.word ['*'] (.skipSome isBlank (.word "as".toList (.skipSome isBlank nameReader)))) t).or
    ((Reader.word ['*'] spacedFrom? t).or
      (Reader.word ['{'] (readClause exportNames (.clause '{')) t))

/-- Reads what stands after `export`. -/
def exportReader : Reader := .skipSome isBlank fun t =>
  (Reader.word "type".toList (.skip isBlank reexportReader) t).or (reexportReader t)

/-- Reads an import. A clause is looked for before a bare specifier. -/
def import? (t : Text) : Option (ImportKind × Reading) :=
  (t.stripStart? "import".toList).bind fun rest =>
    ((importReader rest).map fun r =>
        (if isTypeOnly r.lead then .typeOnly else .value, r.after "import".toList)).or
      ((quoted? rest).map fun r => (.sideEffect, r.after "import".toList))

/-- Reads a re-export. -/
def reexport? (t : Text) : Option (ImportKind × Reading) :=
  (Reader.word "export".toList exportReader t).map fun r => (.reexport, r)

/-- The statement that a line begins with, and the text after its specifier. -/
def statement? (t : Text) : Option (Statement × Text) :=
  let body := t.dropWhile isBlank
  ((import? body).or (reexport? body)).map fun (kind, r) =>
    (⟨kind, t.takeWhile isBlank ++ r.lead, r.specifier⟩, r.rest)

theorem importReader_sound : Reader.Sound importReader := by
  intro t r h
  rw [importReader] at h
  split at h
  · cases h
  · exact readClause_sound fromQuoted?_sound _ t r h

theorem nameReader_sound : Reader.Sound nameReader := by
  intro t r h
  have split_t := List.takeWhile_append_dropWhile (p := inName) (l := t)
  rw [nameReader] at h
  split at h
  · cases h
  · rw [Option.or_eq_some_iff] at h
    obtain h | ⟨-, h⟩ := h
    · obtain ⟨r', h', rfl⟩ := Option.map_eq_some_iff.1 h
      have := (spacedFrom?_sound _ _ h').after (t.takeWhile inName)
      rwa [split_t] at this
    · split at h
      · obtain ⟨r', h', rfl⟩ := Option.map_eq_some_iff.1 h
        have := (quoted?_sound _ _ h').after (t.takeWhile inName)
        rwa [split_t] at this
      · cases h

theorem reexportReader_sound : Reader.Sound reexportReader := by
  intro t r h
  rw [reexportReader, Option.or_eq_some_iff, Option.or_eq_some_iff] at h
  obtain h | ⟨-, h | ⟨-, h⟩⟩ := h
  · exact (nameReader_sound.skipSome.word _).skipSome.word _ t r h
  · exact spacedFrom?_sound.word _ t r h
  · exact (readClause_sound (f := exportNames) (spacedFrom?_sound.word _) _).word _ t r h

theorem exportReader_sound : Reader.Sound exportReader := by
  refine Reader.Sound.skipSome fun t r h => ?_
  rw [Option.or_eq_some_iff] at h
  obtain h | ⟨-, h⟩ := h
  · exact reexportReader_sound.skip.word _ t r h
  · exact reexportReader_sound t r h

/-- A statement is the beginning of the text it was found in, and its specifier stands between
quotes. -/
theorem statement?_of (h : statement? t = some (s, rest)) :
    Reading.Of t ⟨s.lead, s.specifier, rest⟩ := by
  obtain ⟨⟨kind, r⟩, hr, h⟩ := Option.map_eq_some_iff.1 h
  cases h
  have body : Reading.Of (t.dropWhile isBlank) r := by
    rw [Option.or_eq_some_iff] at hr
    obtain hr | ⟨-, hr⟩ := hr
    · obtain ⟨u, hu, hr⟩ := Option.bind_eq_some_iff.1 hr
      rw [Text.stripStart?_eq_some_iff.1 hu]
      rw [Option.or_eq_some_iff] at hr
      obtain hr | ⟨-, hr⟩ := hr <;> obtain ⟨r', h', e⟩ := Option.map_eq_some_iff.1 hr <;> cases e
      · exact (importReader_sound _ _ h').after _
      · exact (quoted?_sound _ _ h').after _
    · obtain ⟨r', h', e⟩ := Option.map_eq_some_iff.1 hr
      cases e
      exact exportReader_sound.word _ _ _ h'
  have := body.after (t.takeWhile isBlank)
  rwa [List.takeWhile_append_dropWhile] at this

theorem statement?_rest_lt (h : statement? t = some (s, rest)) : rest.length < t.length :=
  (statement?_of h).rest_lt

end Transplant.Source
