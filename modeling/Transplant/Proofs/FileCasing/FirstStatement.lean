import Transplant.FileCasing
import Transplant.Proofs.Source.KeywordLine
import Transplant.Proofs.Source.Rescan
import Transplant.Proofs.Text.Lines

/-! Where statements begin. A statement that was found is the one that owns its specifier unless its
clause holds the line of another. The directive that switches the casing of file names off is seen
directly above the first statement, but above a statement that was swallowed it is not. -/
namespace Transplant

open Source

variable {a b i l m n t u v w : Text} {c e q : Char} {d d₁ d₂ : Document} {s : Statement} {k : Nat}

namespace Text

theorem byteSize_pos (c : Char) (t : Text) : 0 < byteSize (c :: t) :=
  Nat.add_pos_left (Char.utf8Size_pos c) _

/-- Beginnings of one text are the same if they have as many bytes. -/
theorem eq_of_prefix_of_byteSize (ha : a <+: t) (hb : b <+: t) (h : a.byteSize = b.byteSize) :
    a = b := by
  have key {a b : Text} (hab : a <+: b) (h : a.byteSize = b.byteSize) : a = b := by
    obtain ⟨r, rfl⟩ := hab
    cases r with
    | nil => simp
    | cons c r =>
      have := byteSize_pos c r
      rw [byteSize_append] at h
      omega
  rcases List.prefix_or_prefix_of_prefix ha hb with hab | hba
  · exact key hab h
  · exact (key hba h.symm).symm

end Text

namespace Source

/-- What may not stand in the clause of a statement, outside comments. -/
def ImportKind.marks : ImportKind → Text
  | .reexport => exportMarks
  | .value | .typeOnly | .sideEffect => importMarks

theorem Lead.loose {kind : ImportKind} {front clause back : Text} (h : Lead kind front clause back) :
    Loose kind.marks clause := by
  cases h with
  | clause hkind hloose => rcases hkind with rfl | rfl <;> exact hloose
  | bare | star => exact .nil
  | names hblank hfront hloose => exact hloose

/-- Where no comment has been begun, there is no mark either. -/
theorem Begun.not_mem_marks {marks : Text} (h : Begun marks m) (hslash : '/' ∉ m) :
    ∀ c ∈ m, c ∉ marks := by
  cases h with
  | clause h => exact h.not_mem_marks hslash
  | comment h => simp at hslash

theorem Scanned.exists_statement? {b : Bool} (h : Scanned b t d) (hs : Piece.statement s ∈ d) :
    ∃ u rest, statement? u = some (s, rest) := by
  induction h with
  | nil => cases hs
  | char hnone h ih => exact ih (by simpa using hs)
  | statement hst hq hspec he h ih =>
    simp only [List.mem_cons, Piece.statement.injEq, reduceCtorEq, false_or] at hs
    rcases hs with rfl | hs
    · exact ⟨_, _, hst⟩
    · exact ih hs

theorem write_append (d₁ d₂ : Document) : (d₁ ++ d₂).write = d₁.write ++ d₂.write := by
  simp [Document.write]

theorem importsFrom_append (d₁ d₂ : Document) (k : Nat) : (d₁ ++ d₂).importsFrom k =
    d₁.importsFrom k ++ d₂.importsFrom (k + d₁.write.byteSize) := by
  induction d₁ generalizing k with
  | nil => rfl
  | cons x d ih =>
    cases x with
    | char c =>
      rw [List.cons_append, Document.importsFrom, ih, Document.importsFrom, Document.write_cons]
      simp [Piece.text, Nat.add_assoc]
    | statement st =>
      rw [List.cons_append, Document.importsFrom, ih, Document.importsFrom, Document.write_cons]
      simp [Piece.text, Nat.add_assoc]

end Source

namespace FileCasing

/-! The lines in front of the first statement -/

theorem write_head_isPrefix (d : Document) : (head d).write <+: d.write := by
  obtain ⟨rest, hrest⟩ : head d <+: d := List.takeWhile_prefix _
  exact ⟨Document.write rest, by rw [← write_append, hrest]⟩

theorem offset_head? {i : Import} (h : (d.importsFrom k).head? = some i) :
    i.offset = k + (head d).write.byteSize := by
  induction d generalizing k with
  | nil => cases h
  | cons x d ih =>
    cases x with
    | char c =>
      have hrest : (head (.char c :: d)).write = c :: (head d).write := rfl
      rw [ih h, hrest, Text.byteSize_cons, Nat.add_assoc]
    | statement st =>
      obtain rfl := Option.some.inj h
      rfl

/-- What is in front of the first statement. -/
theorem write_head_of_firstOffset? (ht : a <+: t) (h : firstOffset? t = some a.byteSize) :
    (head (document t)).write = a := by
  obtain ⟨i, hi, hoffset⟩ := Option.map_eq_some_iff.1 h
  have hhead : (head (document t)).write <+: t := by
    have hprefix := write_head_isPrefix (document t)
    rwa [document, write_scan] at hprefix
  apply Text.eq_of_prefix_of_byteSize hhead ht
  rw [← hoffset, offset_head? hi, Nat.zero_add]

/-- A directive in the line directly above the first statement is seen. -/
theorem isPreserved_of_line_above (ht : t = a ++ (l ++ '\n' :: u)) (ha : a.Ended) (hl : '\n' ∉ l)
    (hdirective : isDirective l) (hfirst : firstOffset? t = some (a ++ (l ++ ['\n'])).byteSize) :
    isPreserved t := by
  have hprefix : a ++ (l ++ ['\n']) <+: t := ⟨u, by simp [ht]⟩
  have hline : Text.IsLine (l ++ ['\n']) := Text.isLine_concat_lf hl
  have hsame : isDirective (Text.withoutLineEnd (l ++ ['\n'])) = isDirective l := by
    rw [isDirective, Text.trim_withoutLineEnd, Text.trim_concat Text.isWhiteSpace_lf, isDirective]
  rw [isPreserved, write_head_of_firstOffset? hprefix hfirst, Text.lines, Text.fullLines_append ha,
    Text.fullLines_of_isLine hline]
  simp [hsame, hdirective]

/-- A statement that was found has the line of another statement in it exactly if its clause has, and
then what is in front of that line is a clause that has been begun and not been finished: outside
comments there is no mark in it. A directive directly above the first statement that was found is
seen. -/
theorem keywordLine_lead_iff (t : Text) :
    (∀ (d₁ : Document) (s : Statement) (d₂ : Document), document t = d₁ ++ .statement s :: d₂ →
      ⟨s.kind, s.specifier, d₁.write.byteSize⟩ ∈ imports t ∧
        t = d₁.write ++ (s.lead ++ (s.specifier ++ d₂.write)) ∧
          ∃ i front clause back, Blanks i ∧ s.lead = i ++ (front ++ (clause ++ back)) ∧
            Lead s.kind front clause back ∧ (KeywordLine s.lead ↔ KeywordLine clause) ∧
              ∀ m n, clause = m ++ '\n' :: n → Begun s.kind.marks m ∧
                ('/' ∉ m → ∀ c ∈ m, c ∉ s.kind.marks)) ∧
      ∀ a l u, t = a ++ (l ++ '\n' :: u) → Text.Ended a → '\n' ∉ l → isDirective l →
        firstOffset? t = some (Text.byteSize (a ++ (l ++ ['\n']))) → isPreserved t := by
  refine ⟨fun d₁ s d₂ hd => ⟨?_, ?_, ?_⟩, fun a l u => isPreserved_of_line_above⟩
  · rw [imports, hd, importsFrom_append, Nat.zero_add]
    exact List.mem_append_right _ List.mem_cons_self
  · have hwrite := write_scan true t
    rw [← document, hd, write_append, Document.write_cons] at hwrite
    simpa [Piece.text, Statement.text] using hwrite.symm
  · have hmem : Piece.statement s ∈ document t := by
      rw [hd]
      exact List.mem_append_right _ List.mem_cons_self
    obtain ⟨u, rest, hst⟩ := (scanned true t).exists_statement? hmem
    obtain ⟨i, front, clause, back, hi, hlead, hparts⟩ := lead_statement? hst
    refine ⟨i, front, clause, back, hi, hlead, hparts, ?_, ?_⟩
    · rw [hlead]
      exact hparts.keywordLine_iff hi
    · rintro m n rfl
      have hbegun := hparts.loose.begun
      exact ⟨hbegun, hbegun.not_mem_marks⟩

/-- A directive below another comment, directly above an import of two lines. The second line begins
with a name that begins with a keyword. -/
theorem keywordLine_lead_iff_of_directive :
    let lead : Text := "import \x7b Card,\n  exportCard \x7d from '".toList
    let t : Text := ("// Card\n// @microbuild-preserve-casing\nimport \x7b Card,\n  exportCard \x7d" ++
      " from './Card'\n").toList
    (firstOffset? t = some 39 ∧ isPreserved t) ∧ ⟨.value, "./Card".toList, 39⟩ ∈ imports t ∧
      ¬ KeywordLine lead ∧ ∃ i front clause back, lead = i ++ (front ++ (clause ++ back)) ∧
        Lead .value front clause back ∧ ¬ KeywordLine clause ∧
          ∃ m n, clause = m ++ '\n' :: n ∧ Begun importMarks m ∧ ∀ c ∈ m, c ∉ importMarks := by
  intro lead t
  have hdocument : document t = "// Card\n// @microbuild-preserve-casing\n".toList.map .char ++
      .statement ⟨.value, lead, "./Card".toList⟩ :: "'\n".toList.map .char := by
    decide +kernel
  have hoffset : firstOffset? t = some 39 := by
    rw [firstOffset?, imports, hdocument]
    decide
  have hpreserved : isPreserved t := by
    refine (keywordLine_lead_iff t).2 "// Card\n".toList "// @microbuild-preserve-casing".toList
      (lead ++ "./Card'\n".toList) ?_ (.inr rfl) (by decide) (by decide) (hoffset.trans (by decide))
    decide +kernel
  obtain ⟨himport, -, i, front, clause, back, hi, hlead, hparts, hiff, hbegun⟩ :=
    (keywordLine_lead_iff t).1 _ _ _ hdocument
  dsimp only at hlead hparts hiff hbegun
  have hnot : ¬ KeywordLine lead := by decide +kernel
  -- Nothing but the clause can hold the line feed of what leads up to the specifier.
  have hline : '\n' ∈ clause := by
    have hfeed : '\n' ∈ lead := by decide
    have hindent : '\n' ∉ i := (InLine.of_blanks hi).noLineFeed
    rw [hlead] at hfeed
    cases hparts with
    | clause hkind hloose hhead hne hlast hb hq =>
      have hblank := (InLine.of_blanks hb).noLineFeed
      rcases isQuote_iff.1 hq with rfl | rfl <;> simpa [hindent, hblank] using hfeed
  obtain ⟨m, n, rfl⟩ := List.append_of_mem hline
  have hslash : '/' ∉ lead := by decide
  have hcode : '/' ∉ m := fun h => hslash (hlead ▸ by simp [h])
  obtain ⟨hm, hmarks⟩ := hbegun m n rfl
  exact ⟨⟨hoffset, hpreserved⟩, himport, hnot, i, front, _, back, hlead, hparts, mt hiff.2 hnot, m, n,
    rfl, hm, hmarks hcode⟩

/-- Two statements that are taken for one: an expression that begins with `import` hides the directive
above the import that it swallows, and a comment is read on into the import of the next line. -/
theorem keywordLine_of_unfinished_import :
    let lead : Text :=
      "import.meta.hot\n// @microbuild-preserve-casing\nimport y from '".toList
    let swallowing : Text := lead ++ "./B'\n".toList
    let leadPast : Text := "import fs /* a */ = require(\"fs\")\nimport z /* b */ from '".toList
    document swallowing = .statement ⟨.value, lead, "./B".toList⟩ :: "'\n".toList.map .char ∧
      KeywordLine lead ∧ isDirective "// @microbuild-preserve-casing".toList ∧
        isPreserved swallowing = false ∧
          document (leadPast ++ "./c'\n".toList) =
            .statement ⟨.value, leadPast, "./c".toList⟩ :: "'\n".toList.map .char ∧
              KeywordLine leadPast := by
  intro lead swallowing leadPast
  refine ⟨by decide +kernel, ⟨"import.meta.hot\n// @microbuild-preserve-casing".toList,
    "import y from '".toList, by decide, by decide +kernel, by decide⟩, by decide, by decide +kernel,
    by decide +kernel, ⟨"import fs /* a */ = require(\"fs\")".toList, "import z /* b */ from '".toList,
      by decide, by decide +kernel, by decide⟩⟩

end FileCasing

end Transplant
