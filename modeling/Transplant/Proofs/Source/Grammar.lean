import Transplant.Source.Statement

/-! How statements are written, and how their clauses are read. A clause is a sequence of single
characters and of comments, each with its end. It is read in just that way: it is not over sooner,
and no comment in it is read otherwise. -/
namespace Transplant.Source

/-- Texts made of comments, in which anything may stand, and of characters that are no `marks`. -/
inductive Clause (marks : Text) : Text → Prop where
  | nil : Clause marks []
  | char {c : Char} {t : Text} : c ∉ marks → Clause marks t → Clause marks (c :: t)
  | block {b t : Text} : ¬ "*/".toList <:+: b → Clause marks t →
      Clause marks ('/' :: '*' :: (b ++ '*' :: '/' :: t))
  | line {e : Char} {b t : Text} : (∀ c ∈ b, isLineEnd c = false) → isLineEnd e → Clause marks t →
      Clause marks ('/' :: '/' :: (b ++ e :: t))

/-- What may not stand in the clause of an import. -/
def importMarks : Text := ";'\"\x60()=:<>/".toList

/-- What may not stand between the braces of a re-export. -/
def exportMarks : Text := "\x7d'\"\x60/;".toList

/-- Nothing but spaces and tabs. -/
def Blanks (b : Text) : Prop := ∀ c ∈ b, isBlank c

/-- Nothing but white space. -/
def Spaces (w : Text) : Prop := ∀ c ∈ w, Unicode.isWhiteSpace c

/-- What a re-export names, and the white space behind it. -/
inductive Exported : Text → Prop where
  | star {w : Text} : Spaces w → Exported ('*' :: w)
  | named {a b name w : Text} : Blanks a → a ≠ [] → Blanks b → b ≠ [] →
      (∀ c ∈ name, inName c) → name ≠ [] → Spaces w → w ≠ [] →
        Exported ('*' :: (a ++ ("as".toList ++ (b ++ (name ++ w)))))
  | names {n w : Text} : Clause exportMarks n → Spaces w → Exported ('{' :: (n ++ '}' :: w))

/-- What stands in front of the quote that opens a specifier. -/
inductive Opening : ImportKind → Text → Prop where
  | clause {n b : Text} : Clause importMarks n → n ≠ [] →
      (∀ c ∈ n.head?, Unicode.isWord c = false) → (∀ c ∈ n.getLast?, Unicode.isWord c = false) →
        Blanks b → Opening (if isTypeOnly n then .typeOnly else .value)
          ("import".toList ++ (n ++ ("from".toList ++ b)))
  | bare {b : Text} : Blanks b → Opening .sideEffect ("import".toList ++ b)
  | reexport {a x b : Text} : Blanks a → a ≠ [] → Exported x → Blanks b →
      Opening .reexport ("export".toList ++ (a ++ (x ++ ("from".toList ++ b))))
  | typeReexport {a b x c : Text} : Blanks a → a ≠ [] → Blanks b → Exported x → Blanks c →
      Opening .reexport
        ("export".toList ++ (a ++ ("type".toList ++ (b ++ (x ++ ("from".toList ++ c))))))

variable {f : ClauseForm} {c e p : Char} {a b marks n t : Text} {r : Reading}

namespace Clause

theorem of_cons (h : Clause marks (c :: t)) (hc : c ≠ '/') : c ∉ marks ∧ Clause marks t := by
  cases h with
  | char hm h => exact ⟨hm, h⟩
  | block | line => exact absurd rfl hc

theorem of_append (h : Clause marks (a ++ t)) (ha : '/' ∉ a) : Clause marks t := by
  induction a with
  | nil => exact h
  | cons c a ih =>
    simp only [List.mem_cons, not_or] at ha
    exact ih (h.of_cons (Ne.symm ha.1)).2 ha.2

end Clause

/-! Readings of a clause -/

theorem readClause_finish (hend : f.endsAfter p) (h : f.finish t = some r) :
    readClause f (.clause p) t = some r := by
  cases t with
  | nil =>
    simp [readClause, readings, Readings.at, Readings.empty, orElse_eq_or, hend, h, Thunk.get]
  | cons c t => simp [readClause_clause_cons, hend, h]

/-- Where a clause cannot end, its next character is taken if it may stand in it. -/
theorem readClause_char (hc : f.allows c) (hslash : c ≠ '/') (hnone : f.finish (c :: t) = none)
    (h : readClause f (.clause c) t = some r) :
    readClause f (.clause p) (c :: t) = some (r.after [c]) := by
  simp [readClause_clause_cons, hnone, hslash, hc, h]

/-- A block comment is read to the first place where it can end. -/
theorem readClause_block_append (hb : ¬ "*/".toList <:+: b)
    (h : readClause f (.clause '/') t = some r) :
    readClause f .block (b ++ '*' :: '/' :: t) = some (r.after (b ++ ['*', '/'])) ∧
      (b.head? ≠ some '/' →
        readClause f .star (b ++ '*' :: '/' :: t) = some (r.after (b ++ ['*', '/']))) := by
  induction b with
  | nil => simp [readClause_block_cons, readClause_star_cons, h]
  | cons c b ih =>
    obtain ⟨block, star⟩ := ih fun hin => hb (hin.trans (List.suffix_cons c b).isInfix)
    by_cases hc : c = '*'
    · subst c
      have hhead : b.head? ≠ some '/' := by
        intro hs
        obtain ⟨b', rfl⟩ := List.head?_eq_some_iff.1 hs
        exact hb (List.prefix_append ['*', '/'] b').isInfix
      simp [readClause_block_cons, readClause_star_cons, star hhead]
    · refine ⟨by simp [readClause_block_cons, hc, block], fun hs => ?_⟩
      have hs : c ≠ '/' := by simpa using hs
      simp [readClause_star_cons, hc, hs, block]

/-- A line comment is read to the end of its line. -/
theorem readClause_line_append (hb : ∀ c ∈ b, isLineEnd c = false) (he : isLineEnd e)
    (h : ∀ p, readClause f (.clause p) (e :: t) = some r) :
    readClause f (.line p) (b ++ e :: t) = some (r.after b) := by
  induction b generalizing p with
  | nil => simp [readClause_line_cons, he, h]
  | cons c b ih =>
    have hc : isLineEnd c = false := hb c List.mem_cons_self
    simp [readClause_line_cons, hc, ih fun d hd => hb d (.tail c hd)]

/-- A form of clauses in which all characters may stand but its `marks`. -/
structure ClauseForm.Excludes (f : ClauseForm) (marks : Text) : Prop where
  allows : ∀ c, f.allows c ↔ c ∉ marks
  slash : '/' ∈ marks
  lineEnd : ∀ e ∈ marks, isLineEnd e = false

/-- A written clause is read as it is written, if it can end behind its last character and before
no other. -/
theorem readClause_append (hf : f.Excludes marks) (hn : Clause marks n)
    (hend : f.endsAfter (n.getLast?.getD p)) (h : f.finish t = some r)
    (hnone : ∀ m, m ≠ [] → Clause marks m → f.finish (m ++ t) = none) :
    readClause f (.clause p) (n ++ t) = some (r.after n) := by
  have char (c p : Char) (n : Text) (hc : c ∉ marks) (hn : Clause marks n)
      (hread : readClause f (.clause c) (n ++ t) = some (r.after n)) :
      readClause f (.clause p) (c :: n ++ t) = some (r.after (c :: n)) := by
    have hslash : c ≠ '/' := fun he => hc (he ▸ hf.slash)
    exact readClause_char ((hf.allows c).2 hc) hslash (hnone _ (by simp) (.char hc hn)) hread
  induction hn generalizing p with
  | nil => exact readClause_finish hend h
  | @char c n hc hn ih =>
    rw [List.getLast?_cons] at hend
    exact char c p n hc hn (ih hend)
  | @block b n hb hn ih =>
    simp only [List.getLast?_cons, List.getLast?_append, Option.some_or, Option.getD_some] at hend
    have hfinish := hnone _ (by simp) (.block hb hn)
    have hread := (readClause_block_append hb (ih hend)).1
    simp only [List.cons_append, List.append_assoc] at hfinish ⊢
    simp [readClause_clause_cons, hfinish, readClause_slash_cons, hread]
  | @line e b n hb he hn ih =>
    simp only [List.getLast?_cons, List.getLast?_append, Option.some_or, Option.getD_some] at hend
    have hfinish := hnone _ (by simp) (.line hb he hn)
    have hmark : e ∉ marks := fun hm => by simp [hf.lineEnd e hm] at he
    have hread : readClause f (.line '/') (b ++ e :: (n ++ t)) =
        some ((r.after (e :: n)).after b) :=
      readClause_line_append hb he fun p => char e p n hmark hn (ih hend)
    simp only [List.cons_append, List.append_assoc] at hfinish ⊢
    simp [readClause_clause_cons, hfinish, readClause_slash_cons, hread]

end Transplant.Source
