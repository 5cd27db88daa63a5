import Transplant.Proofs.Source.Lead

/-! Statements that hold the line of another one. A line that begins with a keyword can be found behind
the start of a statement only in its clause, and there the clause has been begun in front of it. So a
clause that was left unfinished is taken to go on into the next statement. -/
namespace Transplant.Source

variable {a b back clause front i m marks n t w : Text} {c e q : Char} {kind : ImportKind}

/-- What a character of a text belongs to: code, or a slash in it, or a comment. -/
inductive Zone where
  | code
  | slash
  | line
  | block
  | star
deriving DecidableEq, Repr

/-- The zone behind a character. A line comment goes on to the end of its line, and a block comment
to the first star and slash. -/
def Zone.next : Zone → Char → Zone
  | .code, c => if c = '/' then .slash else .code
  | .slash, c => if c = '/' then .line else if c = '*' then .block else .code
  | .line, c => if isLineEnd c then .code else .line
  | .block, c => if c = '*' then .star else .block
  | .star, c => if c = '/' then .code else if c = '*' then .star else .block

/-- Whether a block comment that begins in a text has not come to its end in it. -/
def endsInBlock (t : Text) : Bool :=
  let zone := t.foldl Zone.next .code
  zone == .block || zone == .star

/-- Whether a text begins with the word `k`. -/
def beginsWithWord (k t : Text) : Bool :=
  (t.stripStart? k).any fun rest => !rest.head?.any Unicode.isWord

/-- Whether a text begins, behind blanks, with a keyword of statements. -/
def beginsWithKeyword (t : Text) : Bool :=
  ["import".toList, "export".toList].any fun k => beginsWithWord k (t.dropWhile isBlank)

/-- Whether some line of a text but the first begins with a keyword, outside block comments. -/
def KeywordLine (t : Text) : Prop :=
  ∃ a rest, t = a ++ '\n' :: rest ∧ beginsWithKeyword rest ∧ endsInBlock a = false

/-- A line begins behind each line feed. -/
theorem keywordLine_iff_exists_lt : KeywordLine t ↔ ∃ k < t.length, t[k]? = some '\n' ∧
    beginsWithKeyword (t.drop (k + 1)) ∧ endsInBlock (t.take k) = false := by
  constructor
  · rintro ⟨a, rest, rfl, hrest, ha⟩
    have hdrop : (a ++ '\n' :: rest).drop (a.length + 1) = rest := by simp
    exact ⟨a.length, by simp, by simp, hdrop.symm ▸ hrest, List.take_left.symm ▸ ha⟩
  · rintro ⟨k, hk, hlf, hrest, ha⟩
    obtain ⟨_, hget⟩ := List.getElem?_eq_some_iff.1 hlf
    refine ⟨t.take k, t.drop (k + 1), ?_, hrest, ha⟩
    rw [← hget, List.getElem_cons_drop, List.take_append_drop]

instance (t : Text) : Decidable (KeywordLine t) := decidable_of_iff' _ keywordLine_iff_exists_lt

theorem endsInBlock_append (ha : '/' ∉ a) (t : Text) : endsInBlock (a ++ t) = endsInBlock t := by
  have hcode : a.foldl Zone.next .code = .code := by
    induction a with
    | nil => rfl
    | cons c a ih =>
      simp only [List.mem_cons, not_or] at ha
      rw [List.foldl_cons, Zone.next, if_neg (Ne.symm ha.1), ih ha.2]
  rw [endsInBlock, List.foldl_append, hcode, endsInBlock]

/-- Words in one line do not count. -/
theorem keywordLine_front (ha : InLine a) : KeywordLine (a ++ t) ↔ KeywordLine t := by
  constructor
  · rintro ⟨m, rest, htext, hrest, hm⟩
    obtain ⟨l, rfl, ht⟩ := exists_of_append_lf ha.noLineFeed htext.symm
    exact ⟨l, rest, ht.symm, hrest, by rwa [endsInBlock_append ha.noSlash] at hm⟩
  · rintro ⟨m, rest, rfl, hrest, hm⟩
    exact ⟨a ++ m, rest, by simp, hrest, by rwa [endsInBlock_append ha.noSlash]⟩

theorem beginsWithWord_append {k : Text} (hk : k.getLast?.any Unicode.isWord)
    (hc : c ∉ k) (hword : Unicode.isWord c = false ∨ ∀ d ∈ n.getLast?, Unicode.isWord d = false)
    (t : Text) : beginsWithWord k (n ++ c :: t) = beginsWithWord k n := by
  rw [beginsWithWord, beginsWithWord, stripStart?_append_cons hc]
  cases hstrip : n.stripStart? k with
  | none => rfl
  | some rest =>
    cases rest with
    | cons d rest => rfl
    | nil =>
      obtain rfl : n = k := by simpa using Text.stripStart?_eq_some_iff.1 hstrip
      obtain ⟨d, hd, hdword⟩ := (Option.any_eq_true _ _).1 hk
      have hnot : ¬ ∀ d ∈ n.getLast?, Unicode.isWord d = false := fun h => by
        simpa [hdword] using h d hd
      simp [hword.resolve_right hnot]

/-- A character that is neither a blank nor in a keyword comes behind the keyword or not at all. -/
theorem beginsWithKeyword_append (hblank : isBlank c = false)
    (hc : c ∉ "import".toList ∧ c ∉ "export".toList)
    (hword : Unicode.isWord c = false ∨ ∀ d ∈ n.getLast?, Unicode.isWord d = false) (t : Text) :
    beginsWithKeyword (n ++ c :: t) = beginsWithKeyword n := by
  have hlast (d : Char) (hd : d ∈ (n.dropWhile isBlank).getLast?) : d ∈ n.getLast? := by
    obtain ⟨m, hm⟩ := List.dropWhile_suffix isBlank (l := n)
    rw [← hm, List.getLast?_append_of_ne_nil _ (by rintro he; simp [he] at hd)]
    exact hd
  have hdrop := hword.imp_right fun h d hd => h d (hlast d hd)
  simp only [beginsWithKeyword, List.any_cons, List.any_nil, (skipped_append hblank n t).2,
    beginsWithWord_append (by decide +kernel) hc.1 hdrop,
    beginsWithWord_append (by decide +kernel) hc.2 hdrop]

theorem mem_of_beginsWithKeyword (h : beginsWithKeyword t) : 'i' ∈ t ∨ 'e' ∈ t := by
  have key (k : Text) (hk : beginsWithWord k (t.dropWhile isBlank)) : ∀ c ∈ k, c ∈ t := by
    obtain ⟨rest, hrest, -⟩ := (Option.any_eq_true _ _).1 hk
    intro c hc
    apply (List.dropWhile_suffix isBlank).subset
    rw [Text.stripStart?_eq_some_iff.1 hrest]
    exact List.mem_append_left _ hc
  simp only [beginsWithKeyword, List.any_cons, List.any_nil, Bool.or_false, Bool.or_eq_true] at h
  exact h.imp (fun h => key _ h 'i' (by decide)) fun h => key _ h 'e' (by decide)

/-- There is at most white space in front of `from`, in whatever line that is. -/
theorem Closing.beginsWithKeyword_eq_false (h : Closing back) (ht : back = a ++ '\n' :: t) :
    beginsWithKeyword t = false := by
  obtain @⟨w, b, q, hw, hb, hq⟩ := h
  have hline : '\n' ∉ "from".toList ++ (b ++ [q]) := by
    have hblank : '\n' ∉ b := (InLine.of_blanks hb).noLineFeed
    have hquote : '\n' ≠ q := by
      rintro rfl
      exact absurd hq (by decide)
    simp [hblank, hquote]
  rcases List.append_eq_append_iff.1 ht with ⟨l, rfl, hl⟩ | ⟨l, rfl, hl⟩
  · exact absurd (hl ▸ by simp) hline
  · cases l with
    | nil => exact absurd hl (by simp)
    | cons e l =>
      obtain ⟨rfl, hrest⟩ := List.cons.inj hl
      have hspace : ∀ c ∈ l, Unicode.isWhiteSpace c := fun c hc => hw c (by simp [hc])
      have hword : ∀ c ∈ l.getLast?, Unicode.isWord c = false := by
        intro c hc
        have hname := inName_eq_false_of_isWhiteSpace (hspace c (List.mem_of_getLast? hc))
        simp only [inName, Bool.or_eq_false_iff] at hname
        exact hname.1
      have happend : beginsWithKeyword (l ++ ("from".toList ++ (b ++ [q]))) = beginsWithKeyword l :=
        beginsWithKeyword_append (by decide) ⟨by decide, by decide⟩ (.inr hword) _
      rw [hrest, List.append_eq, happend, ← Bool.not_eq_true]
      intro hkeyword
      rcases mem_of_beginsWithKeyword hkeyword with h | h <;>
        exact absurd (hspace _ h) (by decide)

theorem not_keywordLine (h : ∀ a rest, t = a ++ '\n' :: rest → beginsWithKeyword rest = false) :
    ¬ KeywordLine t := by
  rintro ⟨a, rest, rfl, hrest, -⟩
  simp [h a rest rfl] at hrest

/-- Where no line of its own begins with a keyword, what is behind a text does not count. -/
theorem keywordLine_append (hblank : isBlank c = false)
    (hc : c ∉ "import".toList ∧ c ∉ "export".toList)
    (hword : Unicode.isWord c = false ∨ ∀ d ∈ n.getLast?, Unicode.isWord d = false)
    (h : ∀ a rest, c :: t = a ++ '\n' :: rest → beginsWithKeyword rest = false) :
    KeywordLine (n ++ c :: t) ↔ KeywordLine n := by
  have happend (m l : Text) (hn : n = m ++ '\n' :: l) :
      beginsWithKeyword (l ++ c :: t) = beginsWithKeyword l := by
    refine beginsWithKeyword_append hblank hc (hword.imp_right fun hlast d hd => hlast d ?_) t
    have hne : l ≠ [] := by
      rintro rfl
      cases hd
    rw [hn, List.getLast?_append_of_ne_nil _ (by simp), List.getLast?_cons_of_ne_nil hne]
    exact hd
  constructor
  · rintro ⟨m, rest, htext, hrest, hm⟩
    rcases List.append_eq_append_iff.1 htext with ⟨l, rfl, hl⟩ | ⟨l, rfl, hl⟩
    · simp [h l rest hl] at hrest
    · cases l with
      | nil => simp [h [] rest hl.symm] at hrest
      | cons e l =>
        obtain ⟨rfl, rfl⟩ := List.cons.inj hl
        exact ⟨m, l, rfl, happend m l rfl ▸ hrest, hm⟩
  · rintro ⟨m, rest, rfl, hrest, hm⟩
    exact ⟨m, rest ++ c :: t, by simp, (happend m rest rfl).trans hrest, hm⟩

/-- What leads up to a specifier has the line of another statement in it if and only if its clause
has. -/
theorem Lead.keywordLine_iff (h : Lead kind front clause back) (hi : Blanks i) :
    KeywordLine (i ++ (front ++ (clause ++ back))) ↔ KeywordLine clause := by
  have hindent : InLine i := .of_blanks hi
  have hnil : ¬ KeywordLine [] := not_keywordLine (by simp)
  have hbraces {t : Text} (ht : Closing t) (a rest : Text) (he : '}' :: t = a ++ '\n' :: rest) :
      beginsWithKeyword rest = false := by
    cases a with
    | nil => cases he
    | cons c a => exact ht.beginsWithKeyword_eq_false (List.cons.inj he).2
  cases h with
  | clause hkind hloose hhead hne hlast hb hq =>
    have hfront : InLine "import".toList := ⟨by decide, by decide⟩
    rw [← List.append_assoc, keywordLine_front (hindent.append hfront)]
    exact keywordLine_append (by decide) ⟨by decide, by decide⟩ (.inr hlast)
      fun a rest => Closing.beginsWithKeyword_eq_false (.mk (w := []) nofun hb hq)
  | @bare b q hb hq =>
    have hfront : InLine ("import".toList ++ (b ++ [q])) := by
      refine .append ⟨by decide, by decide⟩ (.append (.of_blanks hb) ?_)
      rcases isQuote_iff.1 hq with rfl | rfl <;> exact ⟨by decide, by decide⟩
    have hlead := keywordLine_front (t := []) (hindent.append hfront)
    rwa [List.append_nil] at hlead
  | star hblank hfront hback =>
    have hfront : InLine ("export".toList ++ _) := .append ⟨by decide, by decide⟩ hfront
    rw [← List.append_assoc, keywordLine_front (hindent.append hfront), List.nil_append]
    exact iff_of_false (not_keywordLine fun a rest => hback.beginsWithKeyword_eq_false) hnil
  | names hblank hfront hloose hback =>
    have hfront : InLine ("export".toList ++ _) := .append ⟨by decide, by decide⟩ hfront
    rw [← List.append_assoc, keywordLine_front (hindent.append hfront)]
    exact keywordLine_append (by decide) ⟨by decide, by decide⟩ (.inl (by decide +kernel))
      (hbraces hback)

/-! Unfinished imports -/

theorem foldl_next_block (h : ¬ "*/".toList <:+: b) (t : Text) :
    (b ++ '*' :: '/' :: t).foldl Zone.next .block = t.foldl Zone.next .code ∧
      (b.head? ≠ some '/' →
        (b ++ '*' :: '/' :: t).foldl Zone.next .star = t.foldl Zone.next .code) := by
  induction b with
  | nil => simp [Zone.next]
  | cons c b ih =>
    obtain ⟨block, star⟩ := ih fun hin => h (hin.trans (List.suffix_cons c b).isInfix)
    by_cases hc : c = '*'
    · subst c
      have hhead : b.head? ≠ some '/' := by
        intro hs
        obtain ⟨b', rfl⟩ := List.head?_eq_some_iff.1 hs
        exact h (List.prefix_append ['*', '/'] b').isInfix
      simp [Zone.next, star hhead]
    · refine ⟨by simp [Zone.next, hc, block], fun hs => ?_⟩
      have hs : c ≠ '/' := by simpa using hs
      simp [Zone.next, hc, hs, block]

/-- A clause comes to the end of all its comments. -/
theorem Clause.foldl_next (h : Clause marks n) (hslash : '/' ∈ marks) :
    n.foldl Zone.next .code = .code := by
  induction h with
  | nil => rfl
  | @char c t hc h ih =>
    have hne : c ≠ '/' := fun he => hc (he ▸ hslash)
    simpa [Zone.next, hne] using ih
  | @block b t hb h ih =>
    have hblock := (foldl_next_block hb t).1
    simpa [Zone.next, ih] using hblock
  | @line e b t hb he h ih =>
    have hline : b.foldl Zone.next .line = .line := by
      clear ih
      induction b with
      | nil => rfl
      | cons c b ihb =>
        have hc : isLineEnd c = false := hb c List.mem_cons_self
        simpa [Zone.next, hc] using ihb fun d hd => hb d (.tail c hd)
    simpa [Zone.next, hline, he] using ih

theorem Clause.append (hm : Clause marks m) (hn : Clause marks n) : Clause marks (m ++ n) := by
  induction hm with
  | nil => exact hn
  | char hc h ih => exact .char hc ih
  | block hb h ih => simpa using Clause.block hb ih
  | line hb he h ih => simpa using Clause.line hb he ih

theorem Clause.of_not_mem (h : ∀ c ∈ n, c ∉ marks) : Clause marks n := by
  induction n with
  | nil => exact .nil
  | cons c n ih => exact .char (h c List.mem_cons_self) (ih fun d hd => h d (.tail c hd))

theorem beginsWithKeyword_import (hi : Blanks i) (hne : m ≠ [])
    (hhead : ∀ c ∈ m.head?, Unicode.isWord c = false) (t : Text) :
    beginsWithKeyword (i ++ ("import".toList ++ (m ++ t))) := by
  have hdrop : (i ++ ("import".toList ++ (m ++ t))).dropWhile isBlank =
      "import".toList ++ (m ++ t) := by
    rw [List.dropWhile_append_of_pos hi]
    rfl
  have hword : beginsWithWord "import".toList ("import".toList ++ (m ++ t)) := by
    rw [beginsWithWord, Text.stripStart?_append, Option.any_some, head?_append_any hne hhead t]
    rfl
  simp only [beginsWithKeyword, List.any_cons, hdrop, hword, Bool.true_or]

/-- A clause is in no block comment where one of its lines ends. -/
theorem Clause.endsInBlock_eq_false (h : Clause marks (n ++ ['\n'])) (hslash : '/' ∈ marks) :
    endsInBlock n = false := by
  have hcode := h.foldl_next hslash
  rw [List.foldl_append, List.foldl_cons, List.foldl_nil] at hcode
  rw [endsInBlock]
  cases hzone : n.foldl Zone.next .code with
  | code | slash | line => rfl
  | block | star =>
    rw [hzone] at hcode
    cases hcode

/-- An import that was left unfinished takes the place of the import written in the line behind it. -/
theorem statement?_unfinished {j : Text} (hi : Blanks i) (hn : Clause importMarks (n ++ ['\n']))
    (hhead : ∀ c ∈ (n ++ ['\n']).head?, Unicode.isWord c = false) (hj : Blanks j)
    (hm : Clause importMarks m) (hne : m ≠ []) (hmhead : ∀ c ∈ m.head?, Unicode.isWord c = false)
    (hlast : ∀ c ∈ m.getLast?, Unicode.isWord c = false) (hb : Blanks b) (hq : isQuote q)
    (hw : IsSpecifier w) (he : isQuote e) :
    ∃ kind lead, lead = i ++ ("import".toList ++ (n ++ '\n' :: (j ++ ("import".toList ++
        (m ++ ("from".toList ++ (b ++ [q]))))))) ∧
      statement? (lead ++ (w ++ e :: t)) = some (⟨kind, lead, w⟩, e :: t) ∧ KeywordLine lead := by
  have hclause : Clause importMarks (n ++ ['\n'] ++ (j ++ ("import".toList ++ m))) := by
    refine hn.append (.append (.of_not_mem fun c hc => ?_) ?_)
    · rcases isBlank_iff.1 (hj c hc) with rfl | rfl <;> decide
    · exact .append (.of_not_mem (by decide)) hm
  obtain ⟨kind, hopening⟩ : ∃ kind, Opening kind ("import".toList ++
      ((n ++ ['\n'] ++ (j ++ ("import".toList ++ m))) ++ ("from".toList ++ b))) := by
    refine ⟨_, .clause hclause (by simp) ?_ ?_ hb⟩
    · rwa [List.head?_append_of_ne_nil _ (by simp)]
    · rwa [← List.append_assoc, ← List.append_assoc, List.getLast?_append_of_ne_nil _ hne]
  refine ⟨kind, _, rfl, ?_, ?_⟩
  · have hread := statement?_written (t := t) hi hopening hq hw he
    simpa using hread
  · have hfront : InLine (i ++ "import".toList) := .append (.of_blanks hi) ⟨by decide, by decide⟩
    rw [← List.append_assoc, keywordLine_front hfront]
    exact ⟨n, _, rfl, beginsWithKeyword_import hj hne hmhead _, hn.endsInBlock_eq_false (by decide)⟩

end Transplant.Source
