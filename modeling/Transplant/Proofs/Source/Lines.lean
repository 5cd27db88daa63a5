import Transplant.Proofs.Source.Written
import Transplant.Source.Document

/-! Texts written line by line. A statement stands in front of anything else in its line, and may
take up several lines itself. The scan finds these statements and no others. -/
namespace Transplant.Source

/-- A statement on its line, with the blanks in front of it and whatever is behind it. -/
structure Written where
  kind : ImportKind
  indent : Text
  opening : Text
  openQuote : Char
  specifier : Text
  closeQuote : Char
  after : Text
  blanks : Blanks indent
  opens : Opening kind opening
  openQuote_isQuote : isQuote openQuote
  isSpecifier : IsSpecifier specifier
  closeQuote_isQuote : isQuote closeQuote
  after_noLineFeed : '\n' ∉ after

/-- A line that begins with no keyword of a statement. -/
structure OtherLine where
  text : Text
  noLineFeed : '\n' ∉ text
  noImport : ¬ "import".toList <+: text.dropWhile isBlank
  noExport : ¬ "export".toList <+: text.dropWhile isBlank

/-- A line of a source, or the lines of a statement whose clause has line ends in it. -/
inductive Line where
  | statement (w : Written)
  | other (o : OtherLine)

namespace Line

/-- The characters of a line. -/
def text : Line → Text
  | statement w =>
    w.indent ++ (w.opening ++ w.openQuote :: (w.specifier ++ w.closeQuote :: w.after))
  | other o => o.text

/-- The import that stands in a line which begins at byte `n`. -/
def importsAt (n : Nat) : Line → List Import
  | statement w => [⟨w.kind, w.specifier, n⟩]
  | other _ => []

/-- The imports of lines that follow each other from byte `n` on. -/
def importsFrom (n : Nat) : List Line → List Import
  | [] => []
  | l :: ls => l.importsAt n ++ importsFrom (n + l.text.byteSize + 1) ls

/-- What a line is taken apart into. -/
def pieces : Line → Document
  | statement w =>
    .statement ⟨w.kind, w.indent ++ (w.opening ++ [w.openQuote]), w.specifier⟩ ::
      (w.closeQuote :: w.after).map .char
  | other o => o.text.map .char

end Line

variable {n t w : Text}

theorem stripStart?_eq_none_iff : Text.stripStart? t w = none ↔ ¬ w <+: t := by
  rw [← not_iff_not, not_not, ← ne_eq, Option.ne_none_iff_exists']
  simp only [Text.stripStart?_eq_some_iff]
  exact ⟨fun ⟨r, h⟩ => ⟨r, h.symm⟩, fun ⟨r, h⟩ => ⟨r, h.symm⟩⟩

/-- What follows a line: nothing, or the line feed that ends it. -/
def AtLineEnd (t : Text) : Prop := t = [] ∨ ∃ t', t = '\n' :: t'

theorem statement?_other (o : OtherLine) (ht : AtLineEnd t) : statement? (o.text ++ t) = none := by
  have strip (w : Text) (hw : '\n' ∉ w) (h : ¬ w <+: o.text.dropWhile isBlank) :
      Text.stripStart? ((o.text ++ t).dropWhile isBlank) w = none := by
    have hnone := stripStart?_eq_none_iff.2 h
    rcases ht with rfl | ⟨t, rfl⟩
    · rwa [List.append_nil]
    · rw [(skipped_append (by decide) o.text t).2, stripStart?_append_cons hw, hnone]
      rfl
  rw [statement?, import?, reexport?, Reader.word, strip _ (by decide) o.noImport,
    strip _ (by decide) o.noExport]
  rfl

theorem scan_inside_append (hn : '\n' ∉ n) (t : Text) :
    scan false (n ++ t) = n.map .char ++ scan false t := by
  induction n with
  | nil => rfl
  | cons c n ih =>
    simp only [List.mem_cons, not_or] at hn
    have hc : (c == '\n') = false := by simpa using Ne.symm hn.1
    rw [List.cons_append, scan_inside, hc, ih hn.2]
    rfl

theorem scan_of_statement?_eq_none (h : statement? t = none) : scan true t = scan false t := by
  cases t with
  | nil => simp
  | cons c t => rw [scan_none h, scan_inside]

/-- A line is taken apart by itself. -/
theorem scan_line (l : Line) (ht : AtLineEnd t) :
    scan true (l.text ++ t) = l.pieces ++ scan false t := by
  cases l with
  | statement w =>
    have hstatement := statement?_written (t := w.after ++ t) w.blanks w.opens w.openQuote_isQuote
      w.isSpecifier w.closeQuote_isQuote
    have hafter : '\n' ∉ w.closeQuote :: w.after := by
      simp only [List.mem_cons, not_or]
      refine ⟨fun he => ?_, w.after_noLineFeed⟩
      exact absurd (he ▸ w.closeQuote_isQuote) (by decide)
    have htext : (Line.statement w).text ++ t = w.indent ++ (w.opening ++ w.openQuote ::
        (w.specifier ++ w.closeQuote :: (w.after ++ t))) := by
      simp [Line.text]
    rw [htext, scan_statement hstatement, Line.pieces, List.cons_append,
      ← scan_inside_append hafter]
    rfl
  | other o =>
    rw [Line.text, scan_of_statement?_eq_none (statement?_other o ht),
      scan_inside_append o.noLineFeed]
    rfl

theorem importsFrom_map_char (t : Text) (d : Document) (n : Nat) :
    Document.importsFrom n (t.map .char ++ d) = d.importsFrom (n + Text.byteSize t) := by
  induction t generalizing n with
  | nil => rfl
  | cons c t ih => simp [Document.importsFrom, ih, Nat.add_assoc]

theorem importsFrom_pieces (l : Line) (d : Document) (n : Nat) :
    (l.pieces ++ d).importsFrom n = l.importsAt n ++ d.importsFrom (n + l.text.byteSize) := by
  cases l with
  | statement w =>
    rw [Line.pieces, List.cons_append, Document.importsFrom, importsFrom_map_char]
    simp [Line.importsAt, Line.text, Statement.text, Nat.add_assoc]
  | other o => exact importsFrom_map_char o.text d n

/-- Of lines that hold a written statement each, or none, these statements are found in order, each
at the byte where its line begins, and nothing else is found. -/
theorem imports_lines (ls : List Line) :
    imports (Text.join '\n' (ls.map Line.text)) = Line.importsFrom 0 ls := by
  have key (n : Nat) : (scan true (Text.join '\n' (ls.map Line.text))).importsFrom n =
      Line.importsFrom n ls := by
    induction ls generalizing n with
    | nil => simp [Text.join, Document.importsFrom, Line.importsFrom]
    | cons l ls ih =>
      cases ls with
      | nil =>
        have hscan := scan_line l (.inl rfl)
        rw [List.append_nil] at hscan
        have himports := importsFrom_pieces l (scan false []) n
        rw [← hscan] at himports
        simpa [Text.join, Line.importsFrom, Document.importsFrom] using himports
      | cons l' ls =>
        have hscan := scan_line l (.inr ⟨Text.join '\n' ((l' :: ls).map Line.text), rfl⟩)
        rw [List.map_cons, List.map_cons, Text.join_cons_cons, ← List.map_cons, hscan,
          importsFrom_pieces, scan_inside, Document.importsFrom]
        exact congrArg _ (ih _)
  exact key 0

/-- A comment in a clause that looks like the end of it, and a line that is no statement. -/
theorem imports_lines_past_comment :
    let t := "let a = 1\n\timport /* from 'x' */ b from './b'; // c".toList
    imports t = [⟨.value, "./b".toList, 10⟩] := by
  have hclause : Clause importMarks " /* from 'x' */ b ".toList :=
    .char (by decide) (.block (b := " from 'x' ".toList)
      (fun h => absurd (Text.occursIn_iff.2 h) (by decide))
      (.char (by decide) (.char (by decide) (.char (by decide) .nil))))
  have hblank : Blanks [' '] := by simp [Blanks, isBlank]
  have hopening : Opening .value "import /* from 'x' */ b from ".toList :=
    .clause hclause (by decide) (by rintro _ ⟨⟩; decide) (by rintro _ ⟨⟩; decide) hblank
  have hspecifier : IsSpecifier "./b".toList := ⟨by decide, by decide⟩
  exact imports_lines [
    .other ⟨"let a = 1".toList, by decide, by decide, by decide⟩,
    .statement ⟨.value, ['\t'], _, '\'', "./b".toList, '\'', "; // c".toList,
      by simp [Blanks, isBlank], hopening, by decide, hspecifier, by decide, by decide⟩]

end Transplant.Source
