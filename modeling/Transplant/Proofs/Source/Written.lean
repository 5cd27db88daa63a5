import Transplant.Proofs.Source.Grammar
import Transplant.Proofs.Source.SameStatement

/-! Reading statements as they are written. The readings are tried in an order in which the one that
was meant comes first among those that lead to a specifier. -/
namespace Transplant.Source

variable {k : Reader} {x : Char → Bool} {c p q : Char} {a b m n name t v w y : Text} {r : Reading}
  {kind : ImportKind}

/-! Reading on -/

theorem exportNames_excludes : exportNames.Excludes exportMarks where
  allows c := by
    have hallows : exportNames.allows c = !exportMarks.contains c := rfl
    simp [hallows]
  slash := by decide
  lineEnd := by decide

theorem importClause_excludes : importClause.Excludes importMarks where
  allows c := by
    have hallows : importClause.allows c = !importMarks.contains c := rfl
    simp [hallows]
  slash := by decide
  lineEnd := by decide

theorem head?_append_any {o : Bool} (hne : n ≠ []) (h : ∀ c ∈ n.head?, x c = o) (t : Text) :
    (n ++ t).head?.any x = o := by
  cases n with
  | nil => exact absurd rfl hne
  | cons c n => simpa using h

theorem Reader.skip_append (hp : ∀ c ∈ n, x c) (ht : t.head?.any x = false) :
    Reader.skip x k (n ++ t) = (k t).map (.after n) := by
  have htake : t.takeWhile x = [] ∧ t.dropWhile x = t := by
    cases t with
    | nil => simp
    | cons c t => simp_all
  rw [Reader.skip, List.takeWhile_append_of_pos hp, List.dropWhile_append_of_pos hp, htake.1,
    htake.2, List.append_nil]

theorem Reader.skipSome_append (hp : ∀ c ∈ n, x c) (hne : n ≠ []) (ht : t.head?.any x = false) :
    Reader.skipSome x k (n ++ t) = (k t).map (.after n) := by
  have hhead := head?_append_any hne (fun c hc => hp c (List.mem_of_mem_head? hc)) t
  rw [Reader.skipSome, if_pos hhead, Reader.skip_append hp ht]

theorem Reader.word_append (w t : Text) : Reader.word w k (w ++ t) = (k t).map (.after w) := by
  simp [Reader.word]

theorem Reader.word_cons_ne (h : p ≠ c) : Reader.word (p :: w) k (c :: t) = none := by
  simp [Reader.word, Text.stripStart?, h]

theorem isBlank_iff : isBlank c ↔ c = ' ' ∨ c = '\t' := by
  simp [isBlank]

theorem isBlank_eq_false_of_inName (h : inName c) : isBlank c = false := by
  cases hc : isBlank c with
  | false => rfl
  | true => obtain rfl | rfl := isBlank_iff.1 hc <;> exact absurd h (by decide)

/-- White space is no part of a name. -/
theorem inName_eq_false_of_isWhiteSpace (h : Unicode.isWhiteSpace c) : inName c = false := by
  have hall : ∀ n ∈ [9, 10, 11, 12, 13, 0x20, 0x85, 0xA0, 0x1680, 0x2000, 0x2001, 0x2002, 0x2003,
      0x2004, 0x2005, 0x2006, 0x2007, 0x2008, 0x2009, 0x200A, 0x2028, 0x2029, 0x202F, 0x205F,
      0x3000], inName (Char.ofNat n) = false := by
    decide +kernel
  have hc := hall c.toNat (by
    simp [Unicode.isWhiteSpace] at h ⊢
    omega)
  rwa [Char.ofNat_toNat] at hc

/-- White space leads to no `as`. -/
theorem stripStart?_as (hw : Spaces w) (y : Text) :
    Text.stripStart? ((w ++ 'f' :: y).dropWhile isBlank) "as".toList = none := by
  rw [(skipped_append (by decide) w y).2, stripStart?_append_cons (by decide),
    Option.map_eq_none_iff]
  cases h : Text.stripStart? (w.dropWhile isBlank) "as".toList with
  | none => rfl
  | some rest =>
    have hdrop := Text.stripStart?_eq_some_iff.1 h
    have ha : 'a' ∈ w := (List.dropWhile_suffix isBlank).subset (hdrop ▸ by simp)
    exact absurd (hw 'a' ha) (by decide)

section
variable (hb : Blanks b) (hw : Spaces w) (hq : isQuote q) (hr : inQuotes? (q :: v) = some r)
include hb hq hr

theorem quoted?_append : quoted? (b ++ q :: v) = some (r.after b) := by
  rw [quoted?, Reader.skip_append hb (by simp [isBlank_eq_false_of_isQuote q hq]), hr]
  rfl

theorem fromQuoted?_append :
    fromQuoted? ("from".toList ++ (b ++ q :: v)) = some (r.after ("from".toList ++ b)) := by
  rw [fromQuoted?, Reader.word_append, quoted?_append hb hq hr, Option.map_some,
    Reading.after_after]

include hw in
theorem spacedFrom?_append :
    spacedFrom? (w ++ ("from".toList ++ (b ++ q :: v))) =
      some (r.after (w ++ ("from".toList ++ b))) := by
  rw [spacedFrom?, Reader.skip_append hw (by rfl), fromQuoted?_append hb hq hr, Option.map_some,
    Reading.after_after]

include hw in
theorem nameReader_append (hname : ∀ c ∈ name, inName c) (hne : name ≠ []) (hsep : w ≠ []) :
    nameReader (name ++ (w ++ ("from".toList ++ (b ++ q :: v)))) =
      some (r.after (name ++ (w ++ ("from".toList ++ b)))) := by
  have hhead : (w ++ ("from".toList ++ (b ++ q :: v))).head?.any inName = false :=
    head?_append_any hsep (fun c hc =>
      inName_eq_false_of_isWhiteSpace (hw c (List.mem_of_mem_head? hc))) _
  have hread := Reader.skip_append (k := spacedFrom?) hname hhead
  rw [spacedFrom?_append hb hw hq hr, Option.map_some, Reading.after_after] at hread
  simp only [nameReader_eq]
  rw [List.takeWhile_append_of_pos hname, if_neg (by simp [hne]), hread, Option.some_or]

/-! Re-exports -/

include hw in
theorem readNames_append (hn : Clause exportMarks n) :
    readClause exportNames (.clause '{') (n ++ '}' :: (w ++ ("from".toList ++ (b ++ q :: v)))) =
      some (r.after (n ++ '}' :: (w ++ ("from".toList ++ b)))) := by
  have hfinish :=
    Reader.word_append (k := spacedFrom?) ['}'] (w ++ ("from".toList ++ (b ++ q :: v)))
  rw [spacedFrom?_append hb hw hq hr, Option.map_some, Reading.after_after] at hfinish
  have hnone (m : Text) (hne : m ≠ []) (hm : Clause exportMarks m) :
      exportNames.finish (m ++ '}' :: (w ++ ("from".toList ++ (b ++ q :: v)))) = none := by
    cases m with
    | nil => exact absurd rfl hne
    | cons c m =>
      apply Reader.word_cons_ne
      intro hc
      subst c
      exact absurd (hm.of_cons (by decide)).1 (by decide)
  simpa using readClause_append (p := '{') exportNames_excludes hn rfl hfinish hnone

/-- What is read after a star that is given a name. -/
def asName? : Reader := .skipSome isBlank (.word "as".toList (.skipSome isBlank nameReader))

theorem reexportReader_append (hy : Exported y) :
    reexportReader (y ++ ("from".toList ++ (b ++ q :: v))) =
      some (r.after (y ++ ("from".toList ++ b))) := by
  have heq (t : Text) : reexportReader t = (Reader.word ['*'] asName? t).or
      ((Reader.word ['*'] spacedFrom? t).or
        (Reader.word ['{'] (readClause exportNames (.clause '{')) t)) := rfl
  rw [heq]
  cases hy with
  | @star w hw =>
    have hname : asName? (w ++ ("from".toList ++ (b ++ q :: v))) = none := by
      rw [asName?, Reader.skipSome]
      split
      · have hfrom : "from".toList ++ (b ++ q :: v) = 'f' :: ("rom".toList ++ (b ++ q :: v)) := rfl
        rw [Reader.skip, Reader.word, hfrom, stripStart?_as hw]
        rfl
      · rfl
    have hread := spacedFrom?_append hb hw hq hr
    have hcons : '*' :: w ++ ("from".toList ++ (b ++ q :: v)) =
        ['*'] ++ (w ++ ("from".toList ++ (b ++ q :: v))) := by simp
    rw [hcons, Reader.word_append, Reader.word_append, hname, hread]
    simp
  | @named a b' name w ha hane hb' hbne hname hne hw hsep =>
    have hread := nameReader_append hb hw hq hr hname hne hsep
    have hhead : (name ++ (w ++ ("from".toList ++ (b ++ q :: v)))).head?.any isBlank = false :=
      head?_append_any hne (fun c hc =>
        isBlank_eq_false_of_inName (hname c (List.mem_of_mem_head? hc))) _
    have hcons : '*' :: (a ++ ("as".toList ++ (b' ++ (name ++ w)))) ++
        ("from".toList ++ (b ++ q :: v)) = ['*'] ++ (a ++ ("as".toList ++
          (b' ++ (name ++ (w ++ ("from".toList ++ (b ++ q :: v))))))) := by
      simp
    rw [hcons, Reader.word_append, asName?, Reader.skipSome_append ha hane (by rfl),
      Reader.word_append, Reader.skipSome_append hb' hbne hhead, hread]
    simp
  | @names n w hn hw =>
    have hread := readNames_append hb hw hq hr hn
    have hcons : '{' :: (n ++ '}' :: w) ++ ("from".toList ++ (b ++ q :: v)) =
        ['{'] ++ (n ++ '}' :: (w ++ ("from".toList ++ (b ++ q :: v)))) := by simp
    rw [hcons, Reader.word_append, hread, List.singleton_append, Reader.word_cons_ne (by decide),
      Reader.word_cons_ne (by decide)]
    simp

end

theorem Exported.exists_cons (h : Exported y) :
    ∃ c t, y = c :: t ∧ isBlank c = false ∧ 't' ≠ c := by
  cases h with
  | star | named => exact ⟨'*', _, rfl, by decide⟩
  | names => exact ⟨'{', _, rfl, by decide⟩

/-! Clauses of imports -/

/-- Where `from` is found in a clause and the text behind it, it is in the clause. -/
theorem exists_of_append_eq_from {rest : Text} (hne : m ≠ [])
    (h : m ++ 'f' :: t = "from".toList ++ rest) :
    ∃ n, m = "from".toList ++ n ∧ rest = n ++ 'f' :: t := by
  rcases List.append_eq_append_iff.1 h with ⟨n, hn, hrest⟩ | ⟨n, hm, hrest⟩
  · rcases List.cons_eq_append_iff.1 hrest with ⟨rfl, rfl⟩ | ⟨n, rfl, -⟩
    · exact ⟨[], by simpa using hn.symm, rfl⟩
    · cases m with
      | nil => exact absurd rfl hne
      | cons c m =>
        have hrom : "rom".toList = m ++ 'f' :: n := (List.cons.inj hn).2
        have hf : 'f' ∈ "rom".toList := hrom ▸ by simp
        exact absurd hf (by decide)
  · exact ⟨n, hm, hrest⟩

/-- The clause of an import cannot be over before its end: a `from` in it has no quote behind it. -/
theorem fromQuoted?_clause (hm : Clause importMarks m) (hne : m ≠ []) (t : Text) :
    fromQuoted? (m ++ 'f' :: t) = none := by
  rw [fromQuoted?, Reader.word, Option.bind_eq_none_iff]
  intro rest hrest
  obtain ⟨n, rfl, rfl⟩ := exists_of_append_eq_from hne (Text.stripStart?_eq_some_iff.1 hrest)
  rw [quoted?, Reader.skip, (skipped_append (by decide) n t).2]
  cases hn : n.dropWhile isBlank with
  | nil => rfl
  | cons c n' =>
    have hquote : isQuote c = false := by
      have hsplit : "from".toList ++ n = "from".toList ++ n.takeWhile isBlank ++ c :: n' := by
        rw [← hn, List.append_assoc, List.takeWhile_append_dropWhile]
      have hslash : '/' ∉ "from".toList ++ n.takeWhile isBlank := by
        intro hs
        rcases List.mem_append.1 hs with hs | hs
        · exact absurd hs (by decide)
        · exact absurd (List.mem_takeWhile_imp hs) (by decide)
      have hc := (hsplit ▸ hm).of_append hslash
      by_contra hq
      rcases isQuote_iff.1 (by simpa using hq) with rfl | rfl <;>
        exact absurd (hc.of_cons (by decide)).1 (by decide)
    simp [inQuotes?, hquote]

theorem readClause_blanks (hb : Blanks b) (hq : isQuote q) (p : Char) :
    readClause importClause (.clause p) (b ++ q :: v) = none := by
  induction b generalizing p with
  | nil => exact readClause_clause_quote importClause_respects.toStopsAtQuotes hq
  | cons c b ih =>
    have hread := ih (fun d hd => hb d (.tail c hd)) c
    have hc : 'f' ≠ c ∧ c ≠ '/' := by
      rcases isBlank_iff.1 (hb c List.mem_cons_self) with rfl | rfl <;> decide
    have hfinish : importClause.finish (c :: (b ++ q :: v)) = none := Reader.word_cons_ne hc.1
    simp [readClause_clause_cons, hfinish, hc.2, hread]

/-- Whether an import is of types only can be seen from its clause alone. -/
theorem isTypeOnly_append (hlast : ∀ c ∈ n.getLast?, Unicode.isWord c = false) (t : Text) :
    isTypeOnly (n ++ 'f' :: t) = isTypeOnly n := by
  rw [isTypeOnly, isTypeOnly, Text.trimStart, Text.trimStart, (skipped_append (by decide) n t).2,
    stripStart?_append_cons (by decide)]
  cases h : Text.stripStart? (n.dropWhile Unicode.isWhiteSpace) "type".toList with
  | none => rfl
  | some rest =>
    cases rest with
    | cons c rest => rfl
    | nil =>
      have he : n.getLast? = some 'e' := by
        rw [← List.takeWhile_append_dropWhile (p := Unicode.isWhiteSpace) (l := n),
          Text.stripStart?_eq_some_iff.1 h]
        simp
      exact absurd (hlast 'e' he) (by decide)

/-! Statements -/

section
variable (hq : isQuote q) (hr : inQuotes? (q :: v) = some r)
include hq hr

theorem importReader_append (hn : Clause importMarks n) (hne : n ≠ [])
    (hhead : ∀ c ∈ n.head?, Unicode.isWord c = false)
    (hlast : ∀ c ∈ n.getLast?, Unicode.isWord c = false) (hb : Blanks b) :
    importReader (n ++ ("from".toList ++ (b ++ q :: v))) =
      some (r.after (n ++ ("from".toList ++ b))) := by
  have hword := head?_append_any hne hhead ("from".toList ++ (b ++ q :: v))
  have hend : importClause.endsAfter (n.getLast?.getD 't') := by
    obtain ⟨c, hc⟩ := Option.isSome_iff_exists.1 (List.getLast?_isSome.2 hne)
    simp [importClause, hc, hlast c hc]
  have hfinish := fromQuoted?_append hb hq hr
  have hnone (m : Text) (hm : m ≠ []) (hclause : Clause importMarks m) :
      importClause.finish (m ++ ("from".toList ++ (b ++ q :: v))) = none :=
    fromQuoted?_clause hclause hm _
  rw [importReader, hword]
  simpa using readClause_append importClause_excludes hn hend hfinish hnone

theorem exportReader_append (ha : Blanks a) (hane : a ≠ []) (hy : Exported y) (hb : Blanks b) :
    exportReader (a ++ (y ++ ("from".toList ++ (b ++ q :: v)))) =
      some (r.after (a ++ (y ++ ("from".toList ++ b)))) := by
  have hread := reexportReader_append hb hq hr hy
  obtain ⟨c, t, rfl, hc, ht⟩ := hy.exists_cons
  have htype : Reader.word "type".toList (.skip isBlank reexportReader)
      (c :: t ++ ("from".toList ++ (b ++ q :: v))) = none := Reader.word_cons_ne ht
  rw [exportReader, Reader.skipSome_append ha hane (by simpa using hc)]
  simp only [htype, hread, Option.none_or, Option.map_some, Reading.after_after]

theorem exportReader_append_type (ha : Blanks a) (hane : a ≠ []) (hm : Blanks m) (hy : Exported y)
    (hb : Blanks b) :
    exportReader (a ++ ("type".toList ++ (m ++ (y ++ ("from".toList ++ (b ++ q :: v)))))) =
      some (r.after (a ++ ("type".toList ++ (m ++ (y ++ ("from".toList ++ b)))))) := by
  have hread := reexportReader_append hb hq hr hy
  obtain ⟨c, t, rfl, hc, -⟩ := hy.exists_cons
  rw [exportReader, Reader.skipSome_append ha hane (by rfl), Reader.word_append,
    Reader.skip_append hm (by simpa using hc), hread]
  simp

/-- A written statement is read as it is written. -/
theorem Opening.read (h : Opening kind y) :
    (import? (y ++ q :: v)).or (reexport? (y ++ q :: v)) = some (kind, r.after y) := by
  have readImport (t : Text) : (import? ("import".toList ++ t)) =
      ((importReader t).map fun r =>
        (if isTypeOnly r.lead then .typeOnly else .value, r.after "import".toList)).or
          ((quoted? t).map fun r => (.sideEffect, r.after "import".toList)) := by
    simp only [import?, Text.stripStart?_append, Option.bind_some]
  have readExport (t : Text) :
      (import? ("export".toList ++ t)).or (reexport? ("export".toList ++ t)) =
        (exportReader t).map fun r => (.reexport, r.after "export".toList) := by
    have hnone : (import? ("export".toList ++ t)) = none := rfl
    rw [hnone, Option.none_or, reexport?, Reader.word_append, Option.map_map]
    rfl
  cases h with
  | @clause n b hn hne hhead hlast hb =>
    have hread := importReader_append hq hr hn hne hhead hlast hb
    have htype : isTypeOnly (n ++ ("from".toList ++ (b ++ r.lead))) = isTypeOnly n :=
      isTypeOnly_append hlast _
    simp only [List.append_assoc, readImport, hread, Option.map_some, Option.some_or,
      Reading.after_lead, Reading.after_after, htype]
  | @bare b hb =>
    have hclause : importReader (b ++ q :: v) = none := by
      rw [importReader]
      split
      · rfl
      · exact readClause_blanks hb hq 't'
    simp only [List.append_assoc, readImport, hclause, quoted?_append hb hq hr, Option.map_some,
      Option.map_none, Option.none_or, Option.some_or, Reading.after_after]
  | @reexport a x b ha hane hx hb =>
    simp only [List.append_assoc, readExport, exportReader_append hq hr ha hane hx hb,
      Option.map_some, Reading.after_after]
  | @typeReexport a b x c ha hane hb hx hc =>
    simp only [List.append_assoc, readExport, exportReader_append_type hq hr ha hane hb hx hc,
      Option.map_some, Reading.after_after]

end

theorem Opening.exists_cons (h : Opening kind y) : ∃ c t, y = c :: t ∧ isBlank c = false := by
  cases h with
  | clause | bare => exact ⟨'i', _, rfl, by decide⟩
  | reexport | typeReexport => exact ⟨'e', _, rfl, by decide⟩

theorem statement?_written {s : Text} (hn : Blanks n) (h : Opening kind y) (hp : isQuote p)
    (hs : IsSpecifier s) (hq : isQuote q) :
    statement? (n ++ (y ++ p :: (s ++ q :: t))) = some (⟨kind, n ++ (y ++ [p]), s⟩, q :: t) := by
  have hread := h.read hp (inQuotes?_append (t := t) hp hs hq)
  obtain ⟨c, y', rfl, hc⟩ := h.exists_cons
  have htake : (c :: y' ++ p :: (s ++ q :: t)).takeWhile isBlank = [] ∧
      (c :: y' ++ p :: (s ++ q :: t)).dropWhile isBlank = c :: y' ++ p :: (s ++ q :: t) := by
    simp [hc]
  rw [statement?, List.takeWhile_append_of_pos hn, List.dropWhile_append_of_pos hn, htake.1,
    htake.2, hread]
  simp [Reading.after]

end Transplant.Source
