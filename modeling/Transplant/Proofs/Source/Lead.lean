import Transplant.Proofs.Source.Loose

/-! What leads up to the specifier of a statement that was found: the words that it begins with, which
stand in one line, its clause, and what is between the clause and the specifier. -/
namespace Transplant.Source

variable {b n name t u w : Text} {c q : Char} {r : Reading} {k : Reader} {x : Char → Bool}
  {kind : ImportKind} {s : Statement} {rest : Text}

/-- What ends in the quote that opens a specifier, with `from` in front. -/
inductive Closing : Text → Prop where
  | mk {w b : Text} {q : Char} : Spaces w → Blanks b → isQuote q →
      Closing (w ++ ("from".toList ++ (b ++ [q])))

/-- Words in one line, with no comment among them. -/
structure InLine (a : Text) : Prop where
  noLineFeed : '\n' ∉ a
  noSlash : '/' ∉ a

/-- What leads up to a specifier from the first word of a statement on: the words in front of the
clause, the clause, which may lack, and what is behind it. -/
inductive Lead : ImportKind → (front clause back : Text) → Prop where
  | clause {kind : ImportKind} {n b : Text} {q : Char} : kind = .value ∨ kind = .typeOnly →
      Loose importMarks n → (∀ c ∈ n.head?, Unicode.isWord c = false) → n ≠ [] →
        (∀ c ∈ n.getLast?, Unicode.isWord c = false) → Blanks b → isQuote q →
          Lead kind "import".toList n ("from".toList ++ (b ++ [q]))
  | bare {b : Text} {q : Char} : Blanks b → isQuote q →
      Lead .sideEffect "import".toList [] (b ++ [q])
  | star {c : Char} {a back : Text} : isBlank c → InLine (c :: a) → Closing back →
      Lead .reexport ("export".toList ++ c :: a) [] back
  | names {c : Char} {a n back : Text} : isBlank c → InLine (c :: a) → Loose exportMarks n →
      Closing back → Lead .reexport ("export".toList ++ c :: a) n ('}' :: back)

namespace InLine

theorem append {a b : Text} (ha : InLine a) (hb : InLine b) : InLine (a ++ b) := by
  refine ⟨fun h => ?_, fun h => ?_⟩
  · exact (List.mem_append.1 h).elim ha.noLineFeed hb.noLineFeed
  · exact (List.mem_append.1 h).elim ha.noSlash hb.noSlash

theorem of_blanks {a : Text} (ha : Blanks a) : InLine a :=
  ⟨fun h => absurd (ha _ h) (by decide), fun h => absurd (ha _ h) (by decide)⟩

theorem of_inName {a : Text} (ha : ∀ c ∈ a, inName c) : InLine a :=
  ⟨fun h => absurd (ha _ h) (by decide +kernel), fun h => absurd (ha _ h) (by decide +kernel)⟩

end InLine

/-! What readers leave behind -/

theorem exists_of_skip (h : Reader.skip x k t = some r) :
    ∃ a u r', (∀ c ∈ a, x c) ∧ t = a ++ u ∧ k u = some r' ∧ r = r'.after a := by
  obtain ⟨r', hr', rfl⟩ := Option.map_eq_some_iff.1 h
  exact ⟨t.takeWhile x, t.dropWhile x, r', fun c hc => List.mem_takeWhile_imp hc,
    List.takeWhile_append_dropWhile.symm, hr', rfl⟩

theorem exists_of_skipSome (h : Reader.skipSome x k t = some r) :
    ∃ c a u r', x c ∧ (∀ d ∈ a, x d) ∧ t = c :: a ++ u ∧ k u = some r' ∧ r = r'.after (c :: a) := by
  rw [Reader.skipSome] at h
  split at h
  · rename_i hhead
    cases t with
    | nil => cases hhead
    | cons c t =>
      have hc : x c := hhead
      rw [Reader.skip, List.dropWhile_cons_of_pos hc, List.takeWhile_cons_of_pos hc] at h
      obtain ⟨r', hr', rfl⟩ := Option.map_eq_some_iff.1 h
      refine ⟨c, t.takeWhile x, t.dropWhile x, r', hc, fun d hd => List.mem_takeWhile_imp hd, ?_,
        hr', rfl⟩
      rw [List.cons_append, List.takeWhile_append_dropWhile]
  · cases h

theorem exists_of_word (h : Reader.word w k t = some r) :
    ∃ u r', t = w ++ u ∧ k u = some r' ∧ r = r'.after w := by
  obtain ⟨u, hu, h⟩ := Option.bind_eq_some_iff.1 h
  obtain ⟨r', hr', rfl⟩ := Option.map_eq_some_iff.1 h
  exact ⟨u, r', Text.stripStart?_eq_some_iff.1 hu, hr', rfl⟩

theorem lead_inQuotes? (h : inQuotes? t = some r) : ∃ q, isQuote q ∧ r.lead = [q] := by
  cases t with
  | nil => cases h
  | cons q t =>
    rw [inQuotes?] at h
    split at h
    · rename_i hq
      obtain ⟨r', h', rfl⟩ := Option.map_eq_some_iff.1 h
      exact ⟨q, hq, by simp [(specifier?_eq_some h').2.1]⟩
    · cases h

theorem lead_quoted? (h : quoted? t = some r) :
    ∃ b q, Blanks b ∧ isQuote q ∧ r.lead = b ++ [q] := by
  obtain ⟨b, u, r', hb, -, hr', rfl⟩ := exists_of_skip h
  obtain ⟨q, hq, hlead⟩ := lead_inQuotes? hr'
  exact ⟨b, q, hb, hq, by simp [hlead]⟩

theorem lead_fromQuoted? (h : fromQuoted? t = some r) :
    ∃ b q, Blanks b ∧ isQuote q ∧ r.lead = "from".toList ++ (b ++ [q]) := by
  obtain ⟨u, r', -, hr', rfl⟩ := exists_of_word h
  obtain ⟨b, q, hb, hq, hlead⟩ := lead_quoted? hr'
  exact ⟨b, q, hb, hq, by simp [hlead]⟩

theorem lead_spacedFrom? (h : spacedFrom? t = some r) : Closing r.lead := by
  obtain ⟨w, u, r', hw, -, hr', rfl⟩ := exists_of_skip h
  obtain ⟨b, q, hb, hq, hlead⟩ := lead_fromQuoted? hr'
  rw [Reading.after_lead, hlead]
  exact .mk hw hb hq

theorem lead_nameReader (h : nameReader t = some r) :
    ∃ name back, r.lead = name ++ back ∧ InLine name ∧ Closing back := by
  have hname : ∀ c ∈ t.takeWhile inName, inName c := fun c hc => List.mem_takeWhile_imp hc
  rw [nameReader] at h
  split at h
  · cases h
  · rw [Option.or_eq_some_iff] at h
    obtain h | ⟨-, h⟩ := h
    · obtain ⟨r', h', rfl⟩ := Option.map_eq_some_iff.1 h
      exact ⟨_, _, rfl, .of_inName hname, lead_spacedFrom? h'⟩
    · split at h
      · rename_i c a hfrom
        obtain ⟨r', h', rfl⟩ := Option.map_eq_some_iff.1 h
        obtain ⟨b, q, hb, hq, hlead⟩ := lead_quoted? h'
        have hsplit := Text.stripEnd?_eq_some_iff.1 hfrom
        refine ⟨c :: a, "from".toList ++ (b ++ [q]), ?_, .of_inName fun d hd => ?_,
          .mk (w := []) (List.forall_mem_nil _) hb hq⟩
        · rw [Reading.after_lead, hlead, hsplit, List.append_assoc]
        · exact hname d (hsplit ▸ List.mem_append_left _ hd)
      · cases h

/-- What a re-export has behind `export` and `type`. -/
theorem lead_reexportReader (h : reexportReader t = some r) : ∃ a n back, InLine a ∧
    r.lead = a ++ (n ++ back) ∧ ((n = [] ∧ Closing back) ∨
      Loose exportMarks n ∧ ∃ back', back = '}' :: back' ∧ Closing back') := by
  rw [reexportReader, Option.or_eq_some_iff, Option.or_eq_some_iff] at h
  have hstar : InLine ['*'] := ⟨by decide, by decide⟩
  obtain h | ⟨-, h | ⟨-, h⟩⟩ := h
  · obtain ⟨_, r₁, -, h₁, rfl⟩ := exists_of_word h
    obtain ⟨c, a, _, r₂, hc, ha, -, h₂, rfl⟩ := exists_of_skipSome h₁
    obtain ⟨_, r₃, -, h₃, rfl⟩ := exists_of_word h₂
    obtain ⟨d, b, _, r₄, hd, hb, -, h₄, rfl⟩ := exists_of_skipSome h₃
    obtain ⟨name, back, hlead, hname, hback⟩ := lead_nameReader h₄
    have hca : InLine (c :: a) := .of_blanks (by simpa [Blanks] using ⟨hc, ha⟩)
    have hdb : InLine (d :: b) := .of_blanks (by simpa [Blanks] using ⟨hd, hb⟩)
    have has : InLine "as".toList := ⟨by decide, by decide⟩
    refine ⟨['*'] ++ (c :: a ++ ("as".toList ++ (d :: b ++ name))), [], back,
      hstar.append (hca.append (has.append (hdb.append hname))), ?_, .inl ⟨rfl, hback⟩⟩
    simp [hlead]
  · obtain ⟨_, r₁, -, h₁, rfl⟩ := exists_of_word h
    exact ⟨['*'], [], r₁.lead, hstar, rfl, .inl ⟨rfl, lead_spacedFrom? h₁⟩⟩
  · obtain ⟨_, r₁, -, h₁, rfl⟩ := exists_of_word h
    obtain ⟨n, u, r₂, hread⟩ := readClause_read exportNames_excludes _ h₁
    obtain ⟨_, r₃, -, h₃, rfl⟩ := exists_of_word (w := ['}']) hread.finish
    refine ⟨['{'], n, '}' :: r₃.lead, ⟨by decide, by decide⟩, ?_,
      .inr ⟨hread.reads, _, rfl, lead_spacedFrom? h₃⟩⟩
    simp [hread.reading_eq]

/-- What a re-export has behind `export`. -/
theorem lead_exportReader (h : exportReader t = some r) : ∃ c a n back, isBlank c ∧ InLine (c :: a) ∧
    r.lead = c :: a ++ (n ++ back) ∧ ((n = [] ∧ Closing back) ∨
      Loose exportMarks n ∧ ∃ back', back = '}' :: back' ∧ Closing back') := by
  obtain ⟨c, a, u, r₁, hc, ha, -, h₁, rfl⟩ := exists_of_skipSome h
  have hca : InLine (c :: a) := .of_blanks (by simpa [Blanks] using ⟨hc, ha⟩)
  rw [Option.or_eq_some_iff] at h₁
  obtain h₁ | ⟨-, h₁⟩ := h₁
  · obtain ⟨_, r₂, -, h₂, rfl⟩ := exists_of_word h₁
    obtain ⟨b, _, r₃, hb, -, h₃, rfl⟩ := exists_of_skip h₂
    obtain ⟨d, n, back, hd, hlead, hback⟩ := lead_reexportReader h₃
    have htype : InLine "type".toList := ⟨by decide, by decide⟩
    refine ⟨c, a ++ ("type".toList ++ (b ++ d)), n, back, hc,
      hca.append (htype.append ((InLine.of_blanks hb).append hd)), ?_, hback⟩
    simp [hlead]
  · obtain ⟨d, n, back, hd, hlead, hback⟩ := lead_reexportReader h₁
    exact ⟨c, a ++ d, n, back, hc, hca.append hd, by simp [hlead], hback⟩

theorem lead_importReader (h : importReader t = some r) : ∃ n b q, Loose importMarks n ∧
    (∀ c ∈ n.head?, Unicode.isWord c = false) ∧ n ≠ [] ∧
      (∀ c ∈ n.getLast?, Unicode.isWord c = false) ∧ Blanks b ∧ isQuote q ∧
        r.lead = n ++ ("from".toList ++ (b ++ [q])) := by
  rw [importReader] at h
  split at h
  · cases h
  · rename_i hhead
    obtain ⟨n, u, r', hread⟩ := readClause_read importClause_excludes _ h
    obtain ⟨b, q, hb, hq, hlead⟩ := lead_fromQuoted? (t := u) hread.finish
    have hne : n ≠ [] := by
      rintro rfl
      obtain ⟨p, hp, hend⟩ := hread.endsAfter_prev rfl
      obtain rfl : 't' = p := by simpa using hp
      exact absurd hend (by decide +kernel)
    refine ⟨n, b, q, hread.reads, fun c hc => ?_, hne, fun c hc => ?_, hb, hq, ?_⟩
    · obtain ⟨m, rfl⟩ := List.head?_eq_some_iff.1 hc
      rw [hread.text_eq] at hhead
      simpa using hhead
    · simpa [importClause] using hread.endsAfter_last c hc
    · rw [hread.reading_eq, Reading.after_lead, hlead]

/-- What a statement that was found consists of, up to its specifier. -/
theorem lead_statement? (h : statement? t = some (s, rest)) : ∃ i front clause back, Blanks i ∧
    s.lead = i ++ (front ++ (clause ++ back)) ∧ Lead s.kind front clause back := by
  obtain ⟨⟨kind, r⟩, hr, h⟩ := Option.map_eq_some_iff.1 h
  cases h
  have key : ∃ front clause back, r.lead = front ++ (clause ++ back) ∧ Lead kind front clause back := by
    rw [Option.or_eq_some_iff] at hr
    obtain hr | ⟨-, hr⟩ := hr
    · obtain ⟨u, -, hr⟩ := Option.bind_eq_some_iff.1 hr
      rw [Option.or_eq_some_iff] at hr
      obtain hr | ⟨-, hr⟩ := hr <;> obtain ⟨r', h', e⟩ := Option.map_eq_some_iff.1 hr <;> cases e
      · obtain ⟨n, b, q, hn, hhead, hne, hlast, hb, hq, hlead⟩ := lead_importReader h'
        refine ⟨_, n, _, by rw [Reading.after_lead, hlead],
          .clause ?_ hn hhead hne hlast hb hq⟩
        split
        · exact .inr rfl
        · exact .inl rfl
      · obtain ⟨b, q, hb, hq, hlead⟩ := lead_quoted? h'
        exact ⟨_, [], _, by rw [Reading.after_lead, hlead]; rfl, .bare hb hq⟩
    · obtain ⟨r', h', e⟩ := Option.map_eq_some_iff.1 hr
      cases e
      obtain ⟨_, r₁, -, h₁, rfl⟩ := exists_of_word h'
      obtain ⟨c, a, n, back, hc, ha, hlead, ⟨rfl, hback⟩ | ⟨hn, back', rfl, hback⟩⟩ :=
        lead_exportReader h₁
      · exact ⟨"export".toList ++ c :: a, [], back, by simp [hlead], .star hc ha hback⟩
      · exact ⟨"export".toList ++ c :: a, n, _, by simp [hlead], .names hc ha hn hback⟩
  obtain ⟨front, clause, back, hlead, hparts⟩ := key
  exact ⟨_, front, clause, back, fun c hc => List.mem_takeWhile_imp hc, by rw [← hlead], hparts⟩

end Transplant.Source
