import Transplant.Source.Reading
import Transplant.Unicode.Word

/-!
Clauses: what stands between `import` and `from`, and between the braces of a re-export. A clause
is made of single characters and comments. A text can often be read in several ways, as a comment
need not be read to its end, and the reading that counts is the first one in this order: where a
clause may end it ends, else it goes on; a line comment is tried from its end backwards, as far as
to the characters that open it; a block comment is tried from its first `*/` on.

Trying the ways one after the other would read the same stretch of text again and again. So the
readings of a text from each of its characters on are kept together, for every point of the grammar
(`Place`), and each is found once, when it is first asked for, and in one step from those of the next
character.
-/

namespace Transplant.Source
variable {f : ClauseForm} {t : Text} {c prev : Char} {r : Reading} {a b : Option Reading}

/-- A kind of clause: after which characters it may end, how it ends, and which characters it may
hold outside comments. -/
structure ClauseForm where
  endsAfter : Char → Bool
  finish : Reader
  allows : Char → Bool

/-- Where in a clause the reading stands: in the clause itself, after a slash that must open a
comment, in a line comment, in a block comment, or in a block comment after a star. In the first
and the third the character before is known. -/
inductive Place where
  | clause (prev : Char)
  | slash
  | line (prev : Char)
  | block
  | star

/-- The readings of one text from the different places. The readings from `clause prev` and
`line prev` are put together from those that end the clause at once, those that go on with the next
character as part of the clause, and those that go on with it as part of a line comment. -/
structure Readings where
  finish : Thunk (Option Reading)
  onward : Thunk (Option Reading)
  slash : Thunk (Option Reading)
  comment : Thunk (Option Reading)
  block : Thunk (Option Reading)
  star : Thunk (Option Reading)

/-- The first of two readings, or else the second, which is found only then. -/
def orElse (a : Option Reading) (b : Unit → Option Reading) : Option Reading :=
  match a with
  | some r => some r
  | none => b ()

/-- The reading from a place. -/
def Readings.at (f : ClauseForm) (rs : Readings) : Place → Option Reading
  | .clause prev =>
    orElse (if f.endsAfter prev then rs.finish.get else none) fun _ => rs.onward.get
  | .slash => rs.slash.get
  | .line prev => orElse rs.comment.get fun _ =>
    orElse (if f.endsAfter prev then rs.finish.get else none) fun _ => rs.onward.get
  | .block => rs.block.get
  | .star => rs.star.get

/-- The readings of the empty text: none but one that needs no text. -/
def Readings.empty (f : ClauseForm) : Readings :=
  ⟨f.finish [], .pure none, .pure none, .pure none, .pure none, .pure none⟩

/-- The readings of `c :: cs` from those of `cs`. -/
def Readings.cons (f : ClauseForm) (c : Char) (cs : Text) (rs : Thunk Readings) : Readings where
  finish := .mk fun _ => f.finish (c :: cs)
  onward := .mk fun _ => (if c = '/' then rs.get.at f .slash
    else if f.allows c then rs.get.at f (.clause c) else none).map (.after [c])
  slash := .mk fun _ => (if c = '/' then rs.get.at f (.line c)
    else if c = '*' then rs.get.at f .block else none).map (.after [c])
  comment := .mk fun _ => (if isLineEnd c then none else rs.get.at f (.line c)).map (.after [c])
  block := .mk fun _ =>
    (if c = '*' then rs.get.at f .star else rs.get.at f .block).map (.after [c])
  star := .mk fun _ =>
    (if c = '/' then orElse (rs.get.at f (.clause c)) fun _ => rs.get.at f .block
      else if c = '*' then rs.get.at f .star else rs.get.at f .block).map (.after [c])

/-- The readings of a text from every place. -/
def readings (f : ClauseForm) : Text → Readings
  | [] => .empty f
  | c :: cs => .cons f c cs (.mk fun _ => readings f cs)

/-- Reads the rest of a clause, from a place in it. -/
def readClause (f : ClauseForm) (place : Place) : Reader := fun t => (readings f t).at f place

theorem orElse_eq_or (a b : Option Reading) : (orElse a fun _ => b) = a.or b := by
  cases a <;> rfl

theorem readClause_clause_cons : readClause f (.clause prev) (c :: t) =
    (if f.endsAfter prev then f.finish (c :: t) else none).or
      ((if c = '/' then readClause f .slash t
        else if f.allows c then readClause f (.clause c) t else none).map (.after [c])) :=
  orElse_eq_or ..

theorem readClause_slash_cons : readClause f .slash (c :: t) =
    (if c = '/' then readClause f (.line c) t
      else if c = '*' then readClause f .block t else none).map (.after [c]) := rfl

theorem readClause_line_cons : readClause f (.line prev) (c :: t) =
    ((if isLineEnd c then none else readClause f (.line c) t).map (.after [c])).or
      (readClause f (.clause prev) (c :: t)) :=
  orElse_eq_or ..

theorem readClause_block_cons : readClause f .block (c :: t) =
    (if c = '*' then readClause f .star t else readClause f .block t).map (.after [c]) := rfl

theorem readClause_star_cons : readClause f .star (c :: t) =
    (if c = '/' then (readClause f (.clause c) t).or (readClause f .block t)
      else if c = '*' then readClause f .star t else readClause f .block t).map (.after [c]) := by
  rw [← orElse_eq_or]
  rfl

/-- At the end of a text a clause is over, if at all, at once. -/
theorem readClause_nil (place : Place) (h : readClause f place [] = some r) :
    f.finish [] = some r := by
  cases place <;>
    simp [readClause, readings, Readings.at, Readings.empty, orElse_eq_or, Thunk.get, Thunk.pure] at h
      <;> exact h.2

theorem readClause_sound (hf : f.finish.Sound) (place : Place) : (readClause f place).Sound := by
  intro t
  induction t generalizing place with
  | nil => exact fun r h => hf _ _ (readClause_nil place h)
  | cons c t ih =>
    have onward {m : Option Reading} (hm : ∀ r, m = some r → Reading.Of t r) (r : Reading)
        (h : m.map (.after [c]) = some r) : Reading.Of (c :: t) r := by
      obtain ⟨r', h', rfl⟩ := Option.map_eq_some_iff.1 h
      exact (hm r' h').after [c]
    have clause (prev : Char) (r : Reading) (h : readClause f (.clause prev) (c :: t) = some r) :
        Reading.Of (c :: t) r := by
      rw [readClause_clause_cons, Option.or_eq_some_iff] at h
      obtain h | ⟨-, h⟩ := h
      · split at h
        · exact hf _ _ h
        · cases h
      · refine onward (fun r' h' => ?_) r h
        split at h'
        · exact ih _ r' h'
        · split at h'
          · exact ih _ r' h'
          · cases h'
    intro r h
    cases place with
    | clause prev => exact clause prev r h
    | slash =>
      rw [readClause_slash_cons] at h
      refine onward (fun r' h' => ?_) r h
      split at h'
      · exact ih _ r' h'
      · split at h'
        · exact ih _ r' h'
        · cases h'
    | line prev =>
      rw [readClause_line_cons, Option.or_eq_some_iff] at h
      obtain h | ⟨-, h⟩ := h
      · refine onward (fun r' h' => ?_) r h
        split at h'
        · cases h'
        · exact ih _ r' h'
      · exact clause prev r h
    | block =>
      rw [readClause_block_cons] at h
      refine onward (fun r' h' => ?_) r h
      split at h' <;> exact ih _ r' h'
    | star =>
      rw [readClause_star_cons] at h
      refine onward (fun r' h' => ?_) r h
      split at h'
      · rw [Option.or_eq_some_iff] at h'
        obtain h' | ⟨-, h'⟩ := h' <;> exact ih _ r' h'
      · split at h' <;> exact ih _ r' h'

/-- The clause of an import ends before `from`, at the start of a word. -/
def importClause : ClauseForm where
  endsAfter prev := !Unicode.isWord prev
  finish := fromQuoted?
  allows c := !([';', '\'', '"', '\x60', '(', ')', '=', ':', '<', '>', '/'].contains c)

/-- The names of a re-export end at the closing brace, with `from` behind it. -/
def exportNames : ClauseForm where
  endsAfter _ := true
  finish := .word ['}'] spacedFrom?
  allows c := !(['}', '\'', '"', '\x60', '/', ';'].contains c)

end Transplant.Source
