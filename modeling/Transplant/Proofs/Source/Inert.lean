import Transplant.Source.Statement

/-! What a reading can make of the text between two quotes. It comes there in a comment, and from a
line comment it may get into the clause or into a block comment on the way. In an inert specifier it
cannot: a clause can neither end there, nor can a block comment begin or end. -/
namespace Transplant.Source

variable {f : ClauseForm} {c p q : Char} {n s t u w : Text}

/-- Nothing in the text ends a specifier, opens or closes a block comment, or leads to the quote
behind it as the end of a clause does. -/
structure Inert (s : Text) : Prop where
  inSpecifier : ∀ c ∈ s, inSpecifier c
  opens_none : ¬ "/*".toList <:+: s
  closes_none : ¬ "*/".toList <:+: s
  ends_none : ∀ b : Text, (∀ c ∈ b, isBlank c) → ¬ "from".toList ++ b <:+ s

/-- Blanks at the end do not count. -/
theorem not_suffix_of_dropEndWhile (h : ¬ "from".toList <:+ Text.dropEndWhile isBlank s)
    (w : Text) (hw : ∀ c ∈ w, isBlank c) : ¬ "from".toList ++ w <:+ s := by
  rintro ⟨p, rfl⟩
  have hdrop : Text.dropEndWhile isBlank (p ++ ("from".toList ++ w)) = p ++ "from".toList := by
    have hrev : (p ++ "from".toList).reverse.dropWhile isBlank = (p ++ "from".toList).reverse := by
      simp [isBlank]
    rw [← List.append_assoc, Text.dropEndWhile, List.reverse_append,
      List.dropWhile_append_of_pos fun c hc => hw c (List.mem_reverse.1 hc), hrev,
      List.reverse_reverse]
  rw [hdrop] at h
  exact h (List.suffix_append p _)

/-- Without a star there are no block comments, and the end is all that matters. -/
theorem Inert.of_no_star (h : ∀ c ∈ s, Source.inSpecifier c) (hstar : '*' ∉ s)
    (hend : ∀ b : Text, (∀ c ∈ b, isBlank c) → ¬ "from".toList ++ b <:+ s) : Inert s where
  inSpecifier := h
  opens_none ho := hstar (ho.subset (by decide))
  closes_none hc := hstar (hc.subset (by decide))
  ends_none := hend

/-- A specifier without a star and without `from` is inert. -/
theorem Inert.of_plain (h : ∀ c ∈ s, Source.inSpecifier c) (hstar : '*' ∉ s)
    (hfrom : ¬ "from".toList <:+: s) : Inert s :=
  .of_no_star h hstar fun b _ he => hfrom ((List.prefix_append _ b).isInfix.trans he.isInfix)

theorem isQuote_iff : isQuote q ↔ q = '\'' ∨ q = '"' := by
  simp [isQuote]

theorem inSpecifier_eq_false_of_isQuote (h : isQuote q) : inSpecifier q = false := by
  simp [inSpecifier, h]

theorem isLineEnd_eq_false_of_isQuote (h : isQuote q) : isLineEnd q = false := by
  rcases isQuote_iff.1 h with rfl | rfl <;> decide

theorem isLineEnd_eq_false_of_inSpecifier (h : inSpecifier c) : isLineEnd c = false := by
  simp_all [inSpecifier]

theorem ne_of_isQuote (h : isQuote q) : q ≠ '/' ∧ q ≠ '*' := by
  rcases isQuote_iff.1 h with rfl | rfl <;> decide

/-- Whether a clause may end in a text, if a quote comes next: there must be `from` and blanks, and
nothing but closing braces and white space in front. -/
def IsEnding (n : Text) : Prop :=
  ∃ a b : Text, n = a ++ "from".toList ++ b ∧ (∀ c ∈ b, isBlank c) ∧
    ∀ c ∈ a, c = '}' ∨ Unicode.isWhiteSpace c

theorem IsEnding.slash_not_mem (h : IsEnding n) : '/' ∉ n := by
  obtain ⟨a, b, rfl, hb, ha⟩ := h
  intro hslash
  rcases List.mem_append.1 hslash with hslash | hslash
  · rcases List.mem_append.1 hslash with hslash | hslash
    · rcases ha _ hslash with h | h <;> exact absurd h (by decide)
    · exact absurd hslash (by decide)
  · exact absurd (hb _ hslash) (by decide)

/-- Only a text that ends in `from` and blanks is an ending. -/
theorem IsEnding.exists_suffix (h : IsEnding n) :
    ∃ b : Text, (∀ c ∈ b, isBlank c) ∧ "from".toList ++ b <:+ n := by
  obtain ⟨a, b, rfl, hb, -⟩ := h
  refine ⟨b, hb, ?_⟩
  rw [List.append_assoc]
  exact List.suffix_append a _

/-- Neither the clause nor its end can take a quote, except that the quote may follow an ending. -/
structure ClauseForm.StopsAtQuotes (f : ClauseForm) : Prop where
  allows : ∀ q, isQuote q → f.allows q = false
  finish : ∀ n q u, (∀ c ∈ n, inSpecifier c) → isQuote q → ¬ IsEnding n →
    f.finish (n ++ q :: u) = none

section
variable (hf : f.StopsAtQuotes) (hq : isQuote q)
include hf hq

theorem readClause_clause_quote : readClause f (.clause p) (q :: u) = none := by
  have hnil : ¬ IsEnding [] := by
    intro h
    obtain ⟨b, -, hb⟩ := h.exists_suffix
    simpa using hb.length_le
  have hfinish := hf.finish [] q u (by simp) hq hnil
  rw [List.nil_append] at hfinish
  simp [readClause_clause_cons, hfinish, (ne_of_isQuote hq).1, hf.allows q hq]

theorem readClause_line_quote : readClause f (.line p) (q :: u) = none ↔
    readClause f (.line q) u = none := by
  rw [readClause_line_cons, readClause_clause_quote hf hq, isLineEnd_eq_false_of_isQuote hq]
  simp

omit hf

theorem readClause_slash_quote : readClause f .slash (q :: u) = none := by
  simp [readClause_slash_cons, ne_of_isQuote hq]

theorem readClause_block_quote : readClause f .block (q :: u) = none ↔ readClause f .block u = none := by
  simp [readClause_block_cons, (ne_of_isQuote hq).2]

theorem readClause_star_quote : readClause f .star (q :: u) = none ↔ readClause f .block u = none := by
  simp [readClause_star_cons, ne_of_isQuote hq]

end

theorem readClause_clause_of_line (h : readClause f (.line p) t = none) :
    readClause f (.clause p) t = none := by
  cases t with
  | nil =>
    simp only [readClause, readings, Readings.at, orElse_eq_or, Option.or_eq_none_iff] at h ⊢
    exact h.2
  | cons c t =>
    rw [readClause_line_cons, Option.or_eq_none_iff] at h
    exact h.2

/-- A line comment leads through a stretch of text to what stands behind it. On the way it may be
left where the clause may end, and where a block comment opens. -/
theorem readClause_line_stretch
    (hfinish : ∀ m, m <:+ n → f.finish (m ++ t) = none)
    (hopen : ∀ m, "/*".toList ++ m <:+ n → readClause f .block (m ++ t) = none)
    (hslash : n.getLast? = some '/' → readClause f .slash t = none)
    (hline : ∀ d, readClause f (.line d) t = none) :
    readClause f (.line p) (n ++ t) = none ∧ readClause f (.clause p) (n ++ t) = none ∧
      (n ≠ [] → (∀ m, n = '*' :: m → readClause f .block (m ++ t) = none) →
        readClause f .slash (n ++ t) = none) := by
  induction n generalizing p with
  | nil => exact ⟨hline p, readClause_clause_of_line (hline p), fun hne => absurd rfl hne⟩
  | cons c n ih =>
    have hlast : n.getLast? = some '/' → readClause f .slash t = none := by
      intro hn
      apply hslash
      rw [List.getLast?_cons, hn]
      rfl
    obtain ⟨line, clause, slash⟩ := ih (p := c)
      (fun m hm => hfinish m (hm.trans (List.suffix_cons c n)))
      (fun m hm => hopen m (hm.trans (List.suffix_cons c n))) hlast
    have hclause : readClause f (.clause p) (c :: n ++ t) = none := by
      have hend := hfinish (c :: n) (List.suffix_refl _)
      rw [List.cons_append] at hend ⊢
      rw [readClause_clause_cons, hend]
      by_cases hc : c = '/'
      · subst c
        by_cases hn : n = []
        · subst n
          simp [hslash rfl]
        · have hstar (m : Text) (hm : n = '*' :: m) : readClause f .block (m ++ t) = none := by
            apply hopen
            rw [hm]
            exact List.suffix_refl _
          simp [slash hn hstar]
      · simp [hc, clause]
    refine ⟨?_, hclause, fun _ hstar => ?_⟩
    · rw [List.cons_append, readClause_line_cons, ← List.cons_append, hclause, line]
      simp
    · rw [List.cons_append, readClause_slash_cons, line]
      by_cases hc : c = '*'
      · subst c
        simp [hstar n rfl]
      · simp [hc]

/-- A block comment leads through a stretch of text in which it does not end. -/
theorem readClause_block_stretch (hclose : ¬ "*/".toList <:+: n)
    (hstar : n.getLast? = some '*' → readClause f .star t = none)
    (hblock : readClause f .block t = none) :
    readClause f .block (n ++ t) = none ∧
      (n ≠ [] → n.head? ≠ some '/' → readClause f .star (n ++ t) = none) := by
  induction n with
  | nil => exact ⟨hblock, fun hne => absurd rfl hne⟩
  | cons c n ih =>
    have hlast : n.getLast? = some '*' → readClause f .star t = none := by
      intro hn
      apply hstar
      rw [List.getLast?_cons, hn]
      rfl
    obtain ⟨block, star⟩ := ih (fun hn => hclose (hn.trans (List.suffix_cons c n).isInfix)) hlast
    by_cases hc : c = '*'
    · subst c
      have hhead : readClause f .star (n ++ t) = none := by
        by_cases hn : n = []
        · subst n
          exact hstar rfl
        · apply star hn
          intro hs
          obtain ⟨n', rfl⟩ := List.head?_eq_some_iff.1 hs
          exact hclose (List.prefix_append ['*', '/'] n').isInfix
      simp [readClause_block_cons, readClause_star_cons, hhead]
    · refine ⟨by simp [readClause_block_cons, hc, block], fun _ hs => ?_⟩
      have hs : c ≠ '/' := by simpa using hs
      simp [readClause_star_cons, hc, hs, block]

/-- Where there is no star a block comment has no choice. -/
theorem readClause_block_star_free (hn : '*' ∉ n) :
    readClause f .block (n ++ t) = none ↔ readClause f .block t = none := by
  induction n with
  | nil => rfl
  | cons c n ih =>
    simp only [List.mem_cons, not_or] at hn
    rw [← ih hn.2, List.cons_append, readClause_block_cons, if_neg (Ne.symm hn.1),
      Option.map_eq_none_iff]

/-- A line comment may always go on to the end of its line. -/
theorem readClause_line_pass (hw : ∀ c ∈ w, isLineEnd c = false) (hq : isLineEnd q = false)
    (h : readClause f (.line p) (w ++ q :: t) = none) : readClause f (.line q) t = none := by
  induction w generalizing p with
  | nil =>
    rw [List.nil_append, readClause_line_cons, Option.or_eq_none_iff] at h
    simpa [hq] using h.1
  | cons c w ih =>
    rw [List.cons_append, readClause_line_cons, Option.or_eq_none_iff] at h
    have hc : isLineEnd c = false := hw c (by simp)
    exact ih (fun d hd => hw d (by simp [hd])) (by simpa [hc] using h.1)

/-- A block comment may always go on to any quote that follows. -/
theorem readClause_block_pass (hq : isQuote q)
    (h : readClause f .block (w ++ q :: t) = none ∨ readClause f .star (w ++ q :: t) = none) :
    readClause f .block t = none := by
  induction w with
  | nil => simpa [readClause_block_quote hq, readClause_star_quote hq] using h
  | cons c w ih =>
    apply ih
    by_cases hc : c = '*'
    · subst c
      right
      simpa [readClause_block_cons, readClause_star_cons] using h
    · left
      by_cases hs : c = '/'
      · subst c
        rcases h with h | h
        · simpa [readClause_block_cons] using h
        · simp [readClause_star_cons] at h
          exact h.2
      · simpa [readClause_block_cons, readClause_star_cons, hc, hs] using h

end Transplant.Source
