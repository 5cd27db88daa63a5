import Mathlib.Data.List.TakeWhile
import Transplant.Proofs.Source.Respecified

/-! Statements in respecified texts. A clause may be read in many ways, through comments that run
across later specifiers. The one that counts stays the same: what comes before it leads nowhere in
the new text, as it led nowhere in the old. -/
namespace Transplant.Source

variable {f : ClauseForm} {k : Reader} {c q : Char} {n p s s' t u w rest rest' : Text}

theorem isBlank_eq_false_of_isQuote (q : Char) (h : isQuote q) : isBlank q = false := by
  rcases isQuote_iff.1 h with rfl | rfl <;> decide

theorem isWhiteSpace_eq_false_of_isQuote (q : Char) (h : isQuote q) :
    Unicode.isWhiteSpace q = false := by
  rcases isQuote_iff.1 h with rfl | rfl <;> decide

theorem inName_eq_false_of_isQuote (q : Char) (h : isQuote q) : inName q = false := by
  rcases isQuote_iff.1 h with rfl | rfl <;> decide

/-! The ends of clauses -/

theorem quoted?_steady : Reader.Steady quoted? := inQuotes?_steady.skip isBlank_eq_false_of_isQuote

theorem fromQuoted?_steady : Reader.Steady fromQuoted? := quoted?_steady.word (by decide)

theorem spacedFrom?_steady : Reader.Steady spacedFrom? :=
  fromQuoted?_steady.skip isWhiteSpace_eq_false_of_isQuote

theorem fromQuoted?_eq_none (hn : ∀ c ∈ n, inSpecifier c) (hq : isQuote q)
    (hend : ∀ b : Text, (∀ c ∈ b, isBlank c) → n ≠ "from".toList ++ b) :
    fromQuoted? (n ++ q :: u) = none := by
  rw [fromQuoted?, Reader.word, stripStart?_append_quote (by decide) hq]
  cases hfrom : n.stripStart? "from".toList with
  | none => rfl
  | some b =>
    obtain rfl := Text.stripStart?_eq_some_iff.1 hfrom
    have hskip := skipped_append (isBlank_eq_false_of_isQuote q hq) b u
    simp only [Option.map_some, Option.bind_some, Option.map_eq_none_iff, quoted?, Reader.skip,
      hskip.2]
    cases hb : b.dropWhile isBlank with
    | nil => exact absurd rfl (hend b (List.dropWhile_eq_nil_iff.1 hb))
    | cons d b' =>
      have hd : d ∈ b := (List.dropWhile_suffix isBlank).subset (hb ▸ List.mem_cons_self)
      have := hn d (by simp [hd])
      simp_all [inQuotes?, inSpecifier]

theorem spacedFrom?_eq_none (hn : ∀ c ∈ n, inSpecifier c) (hq : isQuote q)
    (hend : ∀ w b : Text, (∀ c ∈ w, Unicode.isWhiteSpace c) → (∀ c ∈ b, isBlank c) →
      n ≠ w ++ "from".toList ++ b) : spacedFrom? (n ++ q :: u) = none := by
  have hskip := skipped_append (isWhiteSpace_eq_false_of_isQuote q hq) n u
  have hrest : ∀ c ∈ n.dropWhile Unicode.isWhiteSpace, inSpecifier c := fun c hc =>
    hn c ((List.dropWhile_suffix _).subset hc)
  have hfrom : fromQuoted? (n.dropWhile Unicode.isWhiteSpace ++ q :: u) = none := by
    apply fromQuoted?_eq_none hrest hq
    intro b hb he
    apply hend (n.takeWhile Unicode.isWhiteSpace) b (fun c hc => List.mem_takeWhile_imp hc) hb
    rw [List.append_assoc, ← he, List.takeWhile_append_dropWhile]
  rw [spacedFrom?, Reader.skip, hskip.2, hfrom]
  rfl

/-- What a clause needs for its readings to be the same in respecified texts. -/
structure ClauseForm.Respects (f : ClauseForm) : Prop extends f.StopsAtQuotes where
  sound : f.finish.Sound
  steady : f.finish.Steady

theorem importClause_respects : importClause.Respects where
  allows q hq := by obtain rfl | rfl := isQuote_iff.1 hq <;> decide
  finish n q u hn hq hend := by
    apply fromQuoted?_eq_none hn hq
    rintro b hb rfl
    exact hend ⟨[], b, rfl, hb, by simp⟩
  sound := fromQuoted?_sound
  steady := fromQuoted?_steady

theorem exportNames_respects : exportNames.Respects where
  allows q hq := by obtain rfl | rfl := isQuote_iff.1 hq <;> decide
  finish n q u hn hq hend := by
    simp only [exportNames, Reader.word, stripStart?_append_quote (w := ['}']) (by decide) hq]
    cases hn' : n.stripStart? ['}'] with
    | none => rfl
    | some n' =>
      obtain rfl := Text.stripStart?_eq_some_iff.1 hn'
      have hspaced : spacedFrom? (n' ++ q :: u) = none := by
        apply spacedFrom?_eq_none (fun c hc => hn c (by simp [hc])) hq
        rintro w b hw hb rfl
        refine hend ⟨'}' :: w, b, by simp, hb, fun c hc => ?_⟩
        exact (List.mem_cons.1 hc).imp id (hw c)
      simp [hspaced]
  sound := spacedFrom?_sound.word _
  steady := spacedFrom?_steady.word (by decide)

/-! Clauses -/

theorem readClause_reflects (hf : f.Respects) (place : Place) : (readClause f place).Reflects := by
  intro t u h
  have hfinish {t u : Text} (h : Respecified t u) (n : Text) :
      f.finish (n ++ t) = none → f.finish (n ++ u) = none := hf.steady.reflects (h.append n)
  induction h generalizing place with
  | nil => exact id
  | @char t u c h ih => exact Barred.cons ih (hfinish (h.char c) []) place
  | @specifier q e s s' t u hq he hs hs' hsub h ih =>
    have hrest : Barred f (e :: t) (e :: u) := Barred.cons ih (hfinish (h.char e) [])
    exact hsub hf.toStopsAtQuotes hq he (hfinish (h.char e)) hrest place

/-- A specifier is never found by reading on behind the quote that opens it. -/
theorem map_after_quote_ne (hk : k.Sound) :
    (k t).map (Reading.after [q]) ≠ some ⟨[q], s, rest⟩ := by
  intro h
  rw [map_after_cons_eq_some_iff] at h
  obtain ⟨a, e, he, -⟩ := (hk _ _ h).opened
  simp at he

theorem readClause_quote_ne (hf : f.Respects) (hq : isQuote q) (place : Place) :
    readClause f place (q :: t) ≠ some ⟨[q], s, rest⟩ := by
  have sound place : (readClause f place).Sound := readClause_sound hf.sound place
  obtain ⟨hslash, hstar⟩ := ne_of_isQuote hq
  cases place with
  | clause p => simp [readClause_clause_quote hf.toStopsAtQuotes hq]
  | slash => simp [readClause_slash_quote hq]
  | line p =>
    rw [readClause_line_cons, readClause_clause_quote hf.toStopsAtQuotes hq, Option.or_none,
      isLineEnd_eq_false_of_isQuote hq]
    exact map_after_quote_ne (sound (.line q))
  | block =>
    rw [readClause_block_cons, if_neg hstar]
    exact map_after_quote_ne (sound .block)
  | star =>
    rw [readClause_star_cons, if_neg hslash, if_neg hstar]
    exact map_after_quote_ne (sound .block)

theorem readClause_preserves (hf : f.Respects) (place : Place) :
    (readClause f place).Preserves := by
  intro p q s rest s' rest' hs h
  induction p generalizing place with
  | nil => exact absurd h (readClause_quote_ne hf hs.opened place)
  | cons c p ih =>
    have hr := hs.respecified.append p
    have reflects place := readClause_reflects hf place hr
    have finish := hf.steady.preserves (p := c :: p) hs
    have clause (d : Char) (h : readClause f (.clause d) (c :: (p ++ q :: (s ++ rest))) =
        some ⟨c :: (p ++ [q]), s, rest⟩) :
        readClause f (.clause d) (c :: (p ++ q :: (s' ++ rest'))) =
          some ⟨c :: (p ++ [q]), s', rest'⟩ := by
      rw [readClause_clause_cons, Option.or_eq_some_iff, map_after_cons_eq_some_iff] at h ⊢
      rcases h with hfinish | ⟨hnone, honward⟩
      · exact .inl (ite_eq_of_ite_eq finish none_ne_some hfinish)
      · exact .inr ⟨ite_eq_of_ite_eq (hf.steady.reflects (.char c hr)) id hnone,
          ite_eq_of_ite_eq (ih _) (ite_eq_of_ite_eq (ih _) none_ne_some) honward⟩
    rw [List.cons_append, List.cons_append] at h ⊢
    cases place with
    | clause d => exact clause d h
    | slash =>
      rw [readClause_slash_cons, map_after_cons_eq_some_iff] at h ⊢
      exact ite_eq_of_ite_eq (ih _) (ite_eq_of_ite_eq (ih _) none_ne_some) h
    | line d =>
      rw [readClause_line_cons, Option.or_eq_some_iff, map_after_cons_eq_some_iff,
        Option.map_eq_none_iff] at h ⊢
      rcases h with hcomment | ⟨hnone, h⟩
      · exact .inl (ite_eq_of_ite_eq none_ne_some (ih _) hcomment)
      · exact .inr ⟨ite_eq_of_ite_eq id (reflects _) hnone, clause d h⟩
    | block =>
      rw [readClause_block_cons, map_after_cons_eq_some_iff] at h ⊢
      exact ite_eq_of_ite_eq (ih _) (ih _) h
    | star =>
      rw [readClause_star_cons, map_after_cons_eq_some_iff] at h ⊢
      refine ite_eq_of_ite_eq (fun hor => ?_) (ite_eq_of_ite_eq (ih _) (ih _)) h
      rw [Option.or_eq_some_iff] at hor ⊢
      rcases hor with hclause | ⟨hnone, hblock⟩
      · exact .inl (ih _ hclause)
      · exact .inr ⟨reflects _ hnone, ih _ hblock⟩

theorem readClause_steady (hf : f.Respects) (place : Place) : (readClause f place).Steady :=
  ⟨readClause_reflects hf place, readClause_preserves hf place⟩

/-! Statements -/

theorem importReader_steady : Reader.Steady importReader where
  reflects t u h ht := by
    rw [importReader, h.head?_eq] at ht
    exact ite_eq_of_ite_eq id (readClause_reflects importClause_respects _ h) ht
  preserves p q s rest s' rest' hs h := by
    rw [importReader, head?_append_quote p _ (s' ++ rest')] at h
    exact ite_eq_of_ite_eq none_ne_some (readClause_preserves importClause_respects _ hs) h

/-- How a name that ends in `from` is taken apart. -/
theorem nameReader_eq : nameReader = fun t =>
    if t.takeWhile inName = [] then none
    else (Reader.skip inName spacedFrom? t).or
      (if "from".toList <:+ t.takeWhile inName ∧ t.takeWhile inName ≠ "from".toList then
        Reader.skip inName quoted? t else none) := by
  funext t
  rw [nameReader]
  congr 2
  split
  · rename_i c b hb
    have hname := Text.stripEnd?_eq_some_iff.1 hb
    have hne : t.takeWhile inName ≠ "from".toList := by
      intro he
      simpa using congrArg List.length (hname.symm.trans he)
    rw [if_pos ⟨⟨c :: b, hname.symm⟩, hne⟩]
    rfl
  · rename_i hnone
    rw [if_neg]
    rintro ⟨⟨b, hb⟩, hne⟩
    cases b with
    | nil => exact hne hb.symm
    | cons c b => exact hnone c b (Text.stripEnd?_eq_some_iff.2 hb.symm)

theorem nameReader_steady : Reader.Steady nameReader where
  reflects t u h ht := by
    have htake := (h.skipped (x := inName) inName_eq_false_of_isQuote).1
    rw [nameReader_eq] at ht ⊢
    simp only [htake] at ht ⊢
    refine ite_eq_of_ite_eq id (fun hor => ?_) ht
    rw [Option.or_eq_none_iff] at hor ⊢
    exact ⟨(spacedFrom?_steady.skip inName_eq_false_of_isQuote).reflects h hor.1,
      ite_eq_of_ite_eq ((quoted?_steady.skip inName_eq_false_of_isQuote).reflects h) id hor.2⟩
  preserves p q s rest s' rest' hs h := by
    have htake t := (skipped_append (inName_eq_false_of_isQuote q hs.opened) p t).1
    rw [nameReader_eq] at h ⊢
    simp only [htake] at h ⊢
    refine ite_eq_of_ite_eq none_ne_some (fun hor => ?_) h
    rw [Option.or_eq_some_iff] at hor ⊢
    have spaced := spacedFrom?_steady.skip inName_eq_false_of_isQuote
    have quoted := quoted?_steady.skip inName_eq_false_of_isQuote
    rcases hor with h | ⟨hnone, h⟩
    · exact .inl (spaced.preserves hs h)
    · exact .inr ⟨spaced.reflects (hs.respecified.append p) hnone,
        ite_eq_of_ite_eq (quoted.preserves hs) none_ne_some h⟩

theorem reexportReader_steady : Reader.Steady reexportReader := by
  have name := nameReader_steady.skipSome isBlank_eq_false_of_isQuote
  have named := (name.word (w := "as".toList) (by decide)).skipSome isBlank_eq_false_of_isQuote
  have names := readClause_steady exportNames_respects (.clause '{')
  exact (named.word (by decide)).or
    ((spacedFrom?_steady.word (by decide)).or (names.word (by decide)))

theorem exportReader_steady : Reader.Steady exportReader := by
  have typed := reexportReader_steady.skip isBlank_eq_false_of_isQuote
  exact ((typed.word (by decide)).or reexportReader_steady).skipSome isBlank_eq_false_of_isQuote

/-- A kind that is read off the text up to the specifier is the same in respecified texts. -/
theorem Reader.Steady.kind_preserves (h : k.Steady) (g : Text → ImportKind) {kind : ImportKind}
    (hs : Swap q s rest s' rest') (hkind : (k (p ++ q :: (s ++ rest))).map
      (fun r => (g r.lead, r.after w)) = some (kind, ⟨w ++ (p ++ [q]), s, rest⟩)) :
    (k (p ++ q :: (s' ++ rest'))).map (fun r => (g r.lead, r.after w)) =
      some (kind, ⟨w ++ (p ++ [q]), s', rest'⟩) := by
  obtain ⟨r, hr, he⟩ := Option.map_eq_some_iff.1 hkind
  obtain ⟨lead, s₁, rest₁⟩ := r
  obtain ⟨rfl, rfl, rfl, rfl⟩ : g lead = kind ∧ lead = p ++ [q] ∧ s₁ = s ∧ rest₁ = rest := by
    simpa [Reading.after] using he
  simp [h.preserves hs hr, Reading.after]

theorem import?_reflects (h : Respecified t u) (ht : import? t = none) : import? u = none := by
  rcases h.stripStart? (w := "import".toList) (by decide) with ⟨-, hu⟩ | ⟨t', u', ht', hu', h'⟩
  · rw [import?, hu]
    rfl
  · simp only [import?, ht', hu', Option.bind_some, Option.or_eq_none_iff,
      Option.map_eq_none_iff] at ht ⊢
    exact ⟨importReader_steady.reflects h' ht.1, quoted?_steady.reflects h' ht.2⟩

theorem import?_preserves {kind : ImportKind} (hs : Swap q s rest s' rest')
    (h : import? (p ++ q :: (s ++ rest)) = some (kind, ⟨p ++ [q], s, rest⟩)) :
    (import? (p ++ q :: (s' ++ rest'))) = some (kind, ⟨p ++ [q], s', rest'⟩) := by
  rw [import?, stripStart?_append_quote (by decide) hs.opened] at h ⊢
  cases hp : p.stripStart? "import".toList with
  | none =>
    rw [hp] at h
    cases h
  | some p' =>
    obtain rfl := Text.stripStart?_eq_some_iff.1 hp
    simp only [hp, Option.map_some, Option.bind_some, Option.or_eq_some_iff,
      Option.map_eq_none_iff, List.append_assoc] at h ⊢
    rcases h with hclause | ⟨hnone, hbare⟩
    · exact .inl (importReader_steady.kind_preserves
        (fun l => if isTypeOnly l then .typeOnly else .value) hs hclause)
    · exact .inr ⟨importReader_steady.reflects (hs.respecified.append p') hnone,
        quoted?_steady.kind_preserves (fun _ => .sideEffect) hs hbare⟩

theorem reexport_steady : (Reader.word "export".toList exportReader).Steady :=
  exportReader_steady.word (by decide)

theorem statement?_reflects (h : Respecified t u) (ht : statement? t = none) :
    statement? u = none := by
  have hbody := (h.skipped (x := isBlank) isBlank_eq_false_of_isQuote).2
  simp only [statement?, reexport?, Option.map_eq_none_iff, Option.or_eq_none_iff] at ht ⊢
  exact ⟨import?_reflects hbody ht.1, reexport_steady.reflects hbody ht.2⟩

theorem statement?_preserves {kind : ImportKind} (hs : Swap q s rest s' rest')
    (h : statement? (p ++ q :: (s ++ rest)) = some (⟨kind, p ++ [q], s⟩, rest)) :
    statement? (p ++ q :: (s' ++ rest')) = some (⟨kind, p ++ [q], s'⟩, rest') := by
  have hskip := skipped_append (isBlank_eq_false_of_isQuote q hs.opened) p
  have hp : p ++ [q] = p.takeWhile isBlank ++ (p.dropWhile isBlank ++ [q]) := by
    rw [← List.append_assoc, List.takeWhile_append_dropWhile]
  simp only [statement?, (hskip _).1, (hskip _).2, hp] at h ⊢
  obtain ⟨⟨kind', r⟩, hr, he⟩ := Option.map_eq_some_iff.1 h
  obtain ⟨lead, s₁, rest₁⟩ := r
  obtain ⟨⟨rfl, rfl, rfl⟩, rfl⟩ :
      (kind' = kind ∧ lead = p.dropWhile isBlank ++ [q] ∧ s₁ = s) ∧ rest₁ = rest := by
    simpa using he
  rw [Option.map_eq_some_iff]
  refine ⟨(kind', ⟨p.dropWhile isBlank ++ [q], s', rest'⟩), ?_, rfl⟩
  rw [Option.or_eq_some_iff] at hr ⊢
  rcases hr with himport | ⟨hnone, hreexport⟩
  · exact .inl (import?_preserves hs himport)
  · refine .inr ⟨import?_reflects (hs.respecified.append _) hnone, ?_⟩
    obtain ⟨r, hr, he⟩ := Option.map_eq_some_iff.1 hreexport
    obtain ⟨rfl, rfl⟩ : ImportKind.reexport = kind' ∧ r = _ := by simpa using he
    rw [reexport?, reexport_steady.preserves hs hr]
    rfl

end Transplant.Source
