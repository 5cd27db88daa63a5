import Transplant.Proofs.Source.Grammar
import Transplant.Proofs.Source.Written

/-! What a statement that was found looks like. Its clause is made of characters that are no marks and
of comments, as it was written, but the comments need not have been read as they were written: a line
comment may have been left before its end, and a block comment may have been read on past its end. -/
namespace Transplant.Source

variable {f : ClauseForm} {c p : Char} {a b marks m n t u : Text} {r : Reading} {k : Reader}
  {x : Char → Bool} {kind : ImportKind}

/-- Clauses as they are read. -/
inductive Loose (marks : Text) : Text → Prop where
  | nil : Loose marks []
  | char {c : Char} {t : Text} : c ∉ marks → Loose marks t → Loose marks (c :: t)
  | line {b t : Text} : (∀ c ∈ b, isLineEnd c = false) → Loose marks t →
      Loose marks ('/' :: '/' :: (b ++ t))
  | block {b t : Text} : Loose marks t → Loose marks ('/' :: '*' :: (b ++ '*' :: '/' :: t))

/-- The beginning of a clause, which may break off in a block comment. -/
inductive Begun (marks : Text) : Text → Prop where
  | clause {n : Text} : Loose marks n → Begun marks n
  | comment {n b : Text} : Loose marks n → Begun marks (n ++ '/' :: '*' :: b)

theorem Loose.append (hm : Loose marks m) (hn : Loose marks n) : Loose marks (m ++ n) := by
  induction hm with
  | nil => exact hn
  | char hc h ih => exact .char hc ih
  | line hb h ih => simpa using Loose.line hb ih
  | @block b t h ih => simpa using Loose.block (b := b) ih

/-- Outside comments there are no marks. -/
theorem Loose.not_mem_marks (h : Loose marks n) (hslash : '/' ∉ n) : ∀ c ∈ n, c ∉ marks := by
  induction h with
  | nil => simp
  | @char c t hc h ih =>
    simp only [List.mem_cons, not_or] at hslash
    intro d hd
    rcases List.mem_cons.1 hd with rfl | hd
    · exact hc
    · exact ih hslash.2 d hd
  | line | block => simp at hslash

theorem Begun.append (hm : Loose marks m) (hn : Begun marks n) : Begun marks (m ++ n) := by
  cases hn with
  | clause hn => exact .clause (hm.append hn)
  | @comment n b hn =>
    rw [← List.append_assoc]
    exact .comment (hm.append hn)

/-- A line feed is behind a word that has none. -/
theorem exists_of_append_lf {w : Text} (hw : '\n' ∉ w) (h : m ++ '\n' :: t = w ++ n) :
    ∃ l, m = w ++ l ∧ l ++ '\n' :: t = n := by
  rcases List.append_eq_append_iff.1 h with ⟨l, rfl, hl⟩ | ⟨l, rfl, hl⟩
  · cases l with
    | nil => exact ⟨[], by simp, hl⟩
    | cons e l =>
      obtain ⟨rfl, -⟩ := List.cons.inj hl
      simp at hw
  · exact ⟨l, rfl, hl.symm⟩

/-- Up to the end of a line a clause has been begun. -/
theorem Loose.begun (h : Loose marks (m ++ '\n' :: t)) : Begun marks m := by
  generalize hn : m ++ '\n' :: t = n at h
  induction h generalizing m with
  | nil => simp at hn
  | @char c n hc h ih =>
    cases m with
    | nil => exact .clause .nil
    | cons d m =>
      obtain ⟨rfl, hm⟩ := List.cons.inj hn
      exact .append (.char hc .nil) (ih hm)
  | @line b n hb h ih =>
    obtain ⟨m, rfl, hm⟩ := exists_of_append_lf (w := ['/', '/']) (by decide) hn
    rcases List.append_eq_append_iff.1 hm with ⟨l, rfl, hl⟩ | ⟨l, rfl, hl⟩
    · cases l with
      | nil => exact .clause (by simpa using Loose.line hb .nil)
      | cons e l =>
        obtain ⟨rfl, -⟩ := List.cons.inj hl
        exact absurd (hb '\n' (by simp)) (by decide)
    · simpa using Begun.append (.line hb .nil) (ih hl.symm)
  | @block b n h ih =>
    obtain ⟨m, rfl, hm⟩ := exists_of_append_lf (w := ['/', '*']) (by decide) hn
    rcases List.append_eq_append_iff.1 hm with ⟨l, -, -⟩ | ⟨l, rfl, hl⟩
    · exact .comment (n := []) .nil
    · obtain ⟨l, rfl, hrest⟩ := exists_of_append_lf (w := ['*', '/']) (by decide) hl.symm
      simpa using Begun.append (.block (b := b) .nil) (ih hrest)

/-- What is read from a place on up to the end of the clause. -/
def Place.Reads (marks : Text) : Place → Text → Prop
  | .clause _, n => Loose marks n
  | .slash, n => Loose marks ('/' :: n)
  | .line _, n => ∃ b m, n = b ++ m ∧ (∀ c ∈ b, isLineEnd c = false) ∧ Loose marks m
  | .block, n => ∃ b m, n = b ++ '*' :: '/' :: m ∧ Loose marks m
  | .star, n => ∃ b m, '*' :: n = b ++ '*' :: '/' :: m ∧ Loose marks m

/-- A reading of a clause from a place: the clause is over behind `n`, and its end is read there. -/
structure Place.Read (f : ClauseForm) (marks : Text) (place : Place) (t : Text) (r : Reading)
    (n u : Text) (r' : Reading) : Prop where
  text_eq : t = n ++ u
  finish : f.finish u = some r'
  reading_eq : r = r'.after n
  reads : place.Reads marks n
  endsAfter_last : ∀ c ∈ n.getLast?, f.endsAfter c
  endsAfter_prev : n = [] → ∃ p, (place = .clause p ∨ place = .line p) ∧ f.endsAfter p

theorem readClause_read (hf : f.Excludes marks) (place : Place)
    (h : readClause f place t = some r) : ∃ n u r', place.Read f marks t r n u r' := by
  induction t generalizing place r with
  | nil =>
    cases place <;>
      simp [readClause, readings, Readings.at, Readings.empty, orElse_eq_or, Thunk.get, Thunk.pure] at h
    · exact ⟨[], [], r, rfl, h.2, rfl, .nil, by simp, fun _ => ⟨_, .inl rfl, h.1⟩⟩
    · exact ⟨[], [], r, rfl, h.2, rfl, ⟨[], [], rfl, by simp, .nil⟩, by simp,
        fun _ => ⟨_, .inr rfl, h.1⟩⟩
  | cons c t ih =>
    have onward {place : Place} (next : Place) {r : Reading}
        (hnext : ∀ p, next = .clause p ∨ next = .line p → p = c)
        (hreads : ∀ n, next.Reads marks n → place.Reads marks (c :: n))
        (h : (readClause f next t).map (.after [c]) = some r) :
        ∃ n u r', place.Read f marks (c :: t) r n u r' := by
      obtain ⟨r₁, h₁, rfl⟩ := Option.map_eq_some_iff.1 h
      obtain ⟨n, u, r', hread⟩ := ih next h₁
      refine ⟨c :: n, u, r', by simp [hread.text_eq], hread.finish, by simp [hread.reading_eq],
        hreads n hread.reads, fun d hd => ?_, by simp⟩
      cases n with
      | nil =>
        obtain ⟨p, hp, hend⟩ := hread.endsAfter_prev rfl
        obtain rfl := hnext p hp
        obtain rfl : p = d := by simpa using hd
        exact hend
      | cons e n => exact hread.endsAfter_last d (by simpa [List.getLast?_cons] using hd)
    have clause (p : Char) (r : Reading) (h : readClause f (.clause p) (c :: t) = some r) :
        ∃ n u r', Place.Read f marks (.clause p) (c :: t) r n u r' := by
      rw [readClause_clause_cons, Option.or_eq_some_iff] at h
      obtain h | ⟨-, h⟩ := h
      · split at h
        · exact ⟨[], c :: t, r, rfl, h, rfl, .nil, by simp, fun _ => ⟨p, .inl rfl, ‹_›⟩⟩
        · cases h
      · split at h
        · subst c
          exact onward .slash (by simp) (fun n hn => hn) h
        · split at h
          · rename_i hc
            exact onward (.clause c) (by simp) (fun n hn => .char ((hf.allows c).1 hc) hn) h
          · cases h
    cases place with
    | clause p => exact clause p r h
    | slash =>
      rw [readClause_slash_cons] at h
      split at h
      · subst c
        refine onward (.line '/') (by simp) ?_ h
        rintro n ⟨b, m, rfl, hb, hm⟩
        exact .line hb hm
      · split at h
        · subst c
          refine onward .block (by simp) ?_ h
          rintro n ⟨b, m, rfl, hm⟩
          exact .block hm
        · cases h
    | line p =>
      rw [readClause_line_cons, Option.or_eq_some_iff] at h
      obtain h | ⟨-, h⟩ := h
      · split at h
        · cases h
        · rename_i hc
          refine onward (.line c) (by simp) ?_ h
          rintro n ⟨b, m, rfl, hb, hm⟩
          refine ⟨c :: b, m, rfl, fun d hd => ?_, hm⟩
          rcases List.mem_cons.1 hd with rfl | hd
          · simpa using hc
          · exact hb d hd
      · obtain ⟨n, u, r', hread⟩ := clause p r h
        refine ⟨n, u, r', hread.text_eq, hread.finish, hread.reading_eq,
          ⟨[], n, rfl, by simp, hread.reads⟩, hread.endsAfter_last, fun hn => ?_⟩
        obtain ⟨q, hq, hend⟩ := hread.endsAfter_prev hn
        exact ⟨q, .inr (by simpa using hq), hend⟩
    | block =>
      rw [readClause_block_cons] at h
      split at h
      · subst c
        exact onward .star (by simp) (fun n hn => hn) h
      · refine onward .block (by simp) ?_ h
        rintro n ⟨b, m, rfl, hm⟩
        exact ⟨c :: b, m, rfl, hm⟩
    | star =>
      have block (hb : (readClause f .block t).map (.after [c]) = some r) :
          ∃ n u r', Place.Read f marks .star (c :: t) r n u r' := by
        refine onward .block (by simp) ?_ hb
        rintro n ⟨b, m, rfl, hm⟩
        exact ⟨'*' :: c :: b, m, rfl, hm⟩
      rw [readClause_star_cons] at h
      split at h
      · subst c
        obtain ⟨r₁, h₁, rfl⟩ := Option.map_eq_some_iff.1 h
        rw [Option.or_eq_some_iff] at h₁
        obtain h₁ | ⟨-, h₁⟩ := h₁
        · exact onward (.clause '/') (by simp) (fun n hn => ⟨[], n, rfl, hn⟩) (by rw [h₁]; rfl)
        · exact block (by rw [h₁]; rfl)
      · split at h
        · subst c
          refine onward .star (by simp) ?_ h
          rintro n ⟨b, m, hn, hm⟩
          exact ⟨'*' :: b, m, by rw [hn]; rfl, hm⟩
        · exact block h

end Transplant.Source
