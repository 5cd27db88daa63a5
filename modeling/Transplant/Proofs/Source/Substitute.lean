import Mathlib.Data.List.Basic
import Transplant.Proofs.Source.Inert

/-! Specifiers that can take the place of others. A reading may come to the quote that opens a
specifier in a comment only. If the reading failed from there, it must fail as well when another
specifier stands between the quotes, so that no statement is found that was not there before. -/
namespace Transplant.Source

variable {f : ClauseForm} {c e q : Char} {n n' s s' t u x : Text}

/-- A choice made alike in both texts gives alike what its branches give alike. -/
theorem ite_eq_of_ite_eq {α : Type} {b : Prop} [Decidable b] {y y' z z' v v' : α}
    (hy : y = v → y' = v') (hz : z = v → z' = v') (h : (if b then y else z) = v) :
    (if b then y' else z') = v' := by
  split at h
  · rw [if_pos ‹b›, hy h]
  · rw [if_neg ‹¬b›, hz h]

/-- From every place where a clause has no reading in the first text it has none in the second. -/
def Barred (f : ClauseForm) (t u : Text) : Prop :=
  ∀ place, readClause f place t = none → readClause f place u = none

namespace Barred

/-- One character in front of both texts, unless the clause may end there in the second only. -/
theorem cons (h : Barred f t u) (hfinish : f.finish (c :: t) = none → f.finish (c :: u) = none) :
    Barred f (c :: t) (c :: u) := by
  have clause (p : Char) (ht : readClause f (.clause p) (c :: t) = none) :
      readClause f (.clause p) (c :: u) = none := by
    rw [readClause_clause_cons, Option.or_eq_none_iff, Option.map_eq_none_iff] at ht ⊢
    obtain ⟨hend, honward⟩ := ht
    exact ⟨ite_eq_of_ite_eq hfinish id hend,
      ite_eq_of_ite_eq (h _) (ite_eq_of_ite_eq (h _) id) honward⟩
  intro place ht
  cases place with
  | clause p => exact clause p ht
  | slash =>
    rw [readClause_slash_cons, Option.map_eq_none_iff] at ht ⊢
    exact ite_eq_of_ite_eq (h _) (ite_eq_of_ite_eq (h _) id) ht
  | line p =>
    rw [readClause_line_cons, Option.or_eq_none_iff, Option.map_eq_none_iff] at ht ⊢
    exact ⟨ite_eq_of_ite_eq id (h _) ht.1, clause p ht.2⟩
  | block =>
    rw [readClause_block_cons, Option.map_eq_none_iff] at ht ⊢
    exact ite_eq_of_ite_eq (h _) (h _) ht
  | star =>
    rw [readClause_star_cons, Option.map_eq_none_iff] at ht ⊢
    refine ite_eq_of_ite_eq (fun hor => ?_) (ite_eq_of_ite_eq (h _) (h _)) ht
    rw [Option.or_eq_none_iff] at hor ⊢
    exact ⟨h _ hor.1, h _ hor.2⟩

theorem append (h : Barred f t u)
    (hfinish : ∀ n, f.finish (n ++ t) = none → f.finish (n ++ u) = none) (n : Text) :
    Barred f (n ++ t) (n ++ u) := by
  induction n with
  | nil => exact h
  | cons c n ih => exact ih.cons (hfinish (c :: n))

/-- Only the two kinds of comments lead past a quote. -/
theorem quote (hf : f.StopsAtQuotes) (hq : isQuote q)
    (hline : readClause f (.line q) t = none → readClause f (.line q) u = none)
    (hblock : readClause f .block t = none → readClause f .block u = none) :
    Barred f (q :: t) (q :: u) := by
  intro place ht
  cases place with
  | clause p => exact readClause_clause_quote hf hq
  | slash => exact readClause_slash_quote hq
  | line p =>
    rw [readClause_line_quote hf hq] at ht ⊢
    exact hline ht
  | block =>
    rw [readClause_block_quote hq] at ht ⊢
    exact hblock ht
  | star =>
    rw [readClause_star_quote hq] at ht ⊢
    exact hblock ht

end Barred

/-- The second specifier can take the place of the first, wherever what follows the specifier can be
changed. -/
def Substitute (s s' : Text) : Prop :=
  ∀ ⦃f : ClauseForm⦄ ⦃q e : Char⦄ ⦃t u : Text⦄, f.StopsAtQuotes → isQuote q → isQuote e →
    (∀ n, f.finish (n ++ e :: t) = none → f.finish (n ++ e :: u) = none) →
      Barred f (e :: t) (e :: u) → Barred f (q :: (s ++ e :: t)) (q :: (s' ++ e :: u))

theorem readClause_block_of_clause (h : readClause f (.clause c) ("/*".toList ++ t) = none) :
    readClause f .block t = none := by
  change readClause f (.clause c) ('/' :: '*' :: t) = none at h
  rw [readClause_clause_cons, Option.or_eq_none_iff] at h
  simpa [readClause_slash_cons] using h.2

/-- Where a clause cannot end, the character before it does not count. -/
theorem readClause_line_congr (hfinish : f.finish (c :: t) = none) {p : Char}
    (h : readClause f (.line p) (c :: t) = none) (d : Char) :
    readClause f (.line d) (c :: t) = none := by
  simp only [readClause_line_cons, readClause_clause_cons, hfinish] at h ⊢
  simpa using h

/-- A line comment goes on through a specifier. -/
theorem exists_readClause_line (hn : ∀ c ∈ n, inSpecifier c)
    (h : readClause f (.line c) (n ++ t) = none) : ∃ d, readClause f (.line d) t = none := by
  rcases List.eq_nil_or_concat' n with rfl | ⟨a, d, rfl⟩
  · exact ⟨c, h⟩
  · have hlineEnd (c : Char) (hc : c ∈ a ++ [d]) : isLineEnd c = false :=
      isLineEnd_eq_false_of_inSpecifier (hn c hc)
    rw [List.append_assoc, List.singleton_append] at h
    exact ⟨d, readClause_line_pass (fun c hc => hlineEnd c (by simp [hc])) (hlineEnd d (by simp)) h⟩

/-- A specifier that neither ends a block comment nor ends in `from` can stand where there was another,
unless it alone opens a block comment. -/
theorem Substitute.of_closes_none (hs : ∀ c ∈ s, inSpecifier c) (hs' : ∀ c ∈ s', inSpecifier c)
    (hclose : ¬ "*/".toList <:+: s')
    (hend : ∀ b : Text, (∀ c ∈ b, isBlank c) → ¬ "from".toList ++ b <:+ s')
    (hopen : "/*".toList <:+: s' → "/*".toList <:+: s) : Substitute s s' := by
  intro f q e t u hf hq he hfinish hbarred
  have hblock (hold : readClause f .block t = none) {m : Text} (hm : m <:+ s') :
      readClause f .block (m ++ e :: u) = none := by
    have hnew := hbarred .block ((readClause_block_quote he).2 hold)
    refine (readClause_block_stretch (fun h => hclose (h.trans hm.isInfix)) (fun _ => ?_) hnew).1
    exact (readClause_star_quote he).2 ((readClause_block_quote he).1 hnew)
  apply Barred.quote hf hq
  · intro h
    obtain ⟨d, hd⟩ := exists_readClause_line hs h
    have hline (d' : Char) : readClause f (.line d') (e :: u) = none :=
      (readClause_line_quote hf he).2 ((readClause_line_quote hf he).1 (hbarred _ hd))
    refine (readClause_line_stretch ?_ ?_ (fun _ => readClause_slash_quote he) hline).1
    · intro m hm
      apply hf.finish m e u (fun c hc => hs' c (hm.subset hc)) he
      intro hending
      obtain ⟨b, hb, hsuffix⟩ := hending.exists_suffix
      exact hend b hb (hsuffix.trans hm)
    · intro m hm
      -- The first specifier opens a block comment too, which went on up to the quote behind it.
      obtain ⟨a, b, hab⟩ := hopen ((List.prefix_append _ m).isInfix.trans hm.isInfix)
      have ha : ∀ c ∈ a, inSpecifier c := fun c hc => hs c (by simp [← hab, hc])
      rw [← hab, List.append_assoc, List.append_assoc] at h
      obtain ⟨d, hd⟩ := exists_readClause_line ha h
      have hcomment := readClause_block_of_clause (readClause_clause_of_line hd)
      exact hblock (readClause_block_pass he (.inl hcomment)) ((List.suffix_append _ m).trans hm)
  · intro h
    exact hblock (readClause_block_pass he (.inl h)) (List.suffix_refl s')

/-- An inert specifier can take any place. -/
theorem Inert.substitute (hs' : Inert s') (hs : ∀ c ∈ s, Source.inSpecifier c) : Substitute s s' :=
  .of_closes_none hs hs'.inSpecifier hs'.closes_none hs'.ends_none fun h =>
    absurd h hs'.opens_none

/-- Two specifiers that are the same from a slash on, and have no star in front of it, differ in
nothing that counts in a comment. -/
theorem Substitute.append_slash (hn : ∀ c ∈ n, inSpecifier c) (hn' : ∀ c ∈ n', inSpecifier c)
    (hx : ∀ c ∈ x, inSpecifier c) (hstar : '*' ∉ n) (hstar' : '*' ∉ n')
    (hlast : n'.getLast? ≠ some '/') : Substitute (n ++ '/' :: x) (n' ++ '/' :: x) := by
  intro f q e t u hf hq he hfinish hbarred
  have hrest : Barred f ('/' :: x ++ e :: t) ('/' :: x ++ e :: u) := hbarred.append hfinish _
  have hends (m : Text) (hm : m <:+ n') : f.finish (m ++ ('/' :: x ++ e :: u)) = none := by
    have hending : ¬ IsEnding (m ++ '/' :: x) := fun h => h.slash_not_mem (by simp)
    have hin : ∀ c ∈ m ++ '/' :: x, inSpecifier c := by
      intro c hc
      rcases List.mem_append.1 hc with hc | hc
      · exact hn' c (hm.subset hc)
      · rcases List.mem_cons.1 hc with rfl | hc
        · decide
        · exact hx c hc
    rw [← List.append_assoc]
    exact hf.finish (m ++ '/' :: x) e u hin he hending
  rw [List.append_assoc, List.append_assoc]
  apply Barred.quote hf hq
  · intro h
    obtain ⟨d, hd⟩ := exists_readClause_line hn h
    have hline := readClause_line_congr (hends [] List.nil_suffix) (hrest _ hd)
    refine (readClause_line_stretch hends ?_ (fun h => absurd h hlast) hline).1
    intro m hm
    exact absurd (hm.subset (by simp)) hstar'
  · intro h
    rw [readClause_block_star_free hstar] at h
    exact (readClause_block_star_free hstar').2 (hrest .block h)

end Transplant.Source
