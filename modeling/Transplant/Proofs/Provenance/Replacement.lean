import Mathlib.Data.Option.Basic
import Transplant.Proofs.Provenance.Header

/-! A header that is added takes the place of the one before. For this the removal of a header must
find the end of the comment where the header ends, which it does unless an origin, a version or a
date ends a line of its own in the end of a comment. -/
namespace Transplant

variable {k l r t : Text} {ls : List Text}

/-- No line of the header before its last one ends the comment. -/
def Stamp.EndsLast (s : Stamp) : Prop :=
  ∀ l ∈ s.header.fullLines.dropLast, ¬ "*/".toList <:+ l.trim

instance (s : Stamp) : Decidable s.EndsLast :=
  inferInstanceAs (Decidable (∀ l ∈ s.header.fullLines.dropLast, ¬ "*/".toList <:+ l.trim))

namespace Provenance

theorem stripEnd?_isSome_iff {w : Text} : (t.stripEnd? w).isSome ↔ w <:+ t := by
  constructor
  · intro h
    obtain ⟨r, hr⟩ := Option.isSome_iff_exists.1 h
    exact ⟨r, (Text.stripEnd?_eq_some_iff.1 hr).symm⟩
  · rintro ⟨r, rfl⟩
    exact Option.isSome_iff_exists.2 ⟨r, Text.stripEnd?_eq_some_iff.2 rfl⟩

/-- A comment reaches up to the first line that ends it. -/
theorem splitComment?_append (h : ∀ l ∈ ls, ¬ "*/".toList <:+ l.trim)
    (hk : "*/".toList <:+ k.trim) (rest : List Text) :
    splitComment? (ls ++ k :: rest) = some (ls ++ [k], rest) := by
  induction ls with
  | nil =>
    have hend := stripEnd?_isSome_iff.2 hk
    simp only [List.nil_append, splitComment?, hend, if_true]
  | cons l ls ih =>
    have hl : (l.trim.stripEnd? "*/".toList).isSome = false := by
      rw [Bool.eq_false_iff]
      intro hend
      exact h l List.mem_cons_self (stripEnd?_isSome_iff.1 hend)
    have hls := ih fun l' hl' => h l' (List.mem_cons_of_mem l hl')
    simp only [List.cons_append, splitComment?, hl, hls, Option.map_some]
    rfl

/-- A comment with a tag in it is removed, and nothing behind it. -/
theorem stripLines?_cons {comment rest : List Text} (hl : l.trim = "/**".toList)
    (hcomment : splitComment? ls = some (comment, rest)) (htag : hasTag (l :: comment).flatten) :
    stripLines? (l :: ls) = some rest := by
  have hblank : (l.trim == []) = false := by
    rw [hl]
    decide
  simp only [stripLines?, List.dropWhile_cons, List.takeWhile_cons, hblank, Bool.false_eq_true,
    if_false]
  simp only [hl, hcomment, guard, if_true, Option.bind_eq_bind, Option.bind_some, htag]
  rfl

/-! The lines of a header -/

/-- A header is its first line, lines with a tag among them, and its last line. -/
theorem exists_header_eq (s : Stamp) : ∃ u : Text, u.Ended ∧ originTag <:+: u ∧
    ∀ t, s.header ++ t = "/**\n".toList ++ (u ++ (" */\n".toList ++ t)) := by
  refine ⟨Stamp.line originTag s.origin ++ Stamp.line versionTag s.version ++
    Stamp.line dateTag s.date, ?_, ?_, ?_⟩
  · rw [Stamp.line_eq dateTag, ← List.append_assoc]
    exact Text.ended_concat _
  · apply List.infix_append_of_infix_left
    apply List.infix_append_of_infix_left
    exact ⟨" * ".toList, ' ' :: s.origin ++ ['\n'], by simp [Stamp.line_eq]⟩
  · intro t
    rw [Stamp.header_append]
    simp only [List.append_assoc]

/-- The header that stands in front is removed, and nothing behind it. -/
theorem stripLines?_header {s : Stamp} (hs : s.EndsLast) (t : Text) :
    stripLines? (s.header ++ t).fullLines = some t.fullLines := by
  obtain ⟨u, hu, htag, hheader⟩ := exists_header_eq s
  have hopen : Text.IsLine "/**\n".toList :=
    Text.isLine_concat_lf (l := "/**".toList) (by decide)
  have hclose : Text.IsLine " */\n".toList :=
    Text.isLine_concat_lf (l := " */".toList) (by decide)
  have hlines (t : Text) : (s.header ++ t).fullLines =
      "/**\n".toList :: (u.fullLines ++ " */\n".toList :: t.fullLines) := by
    rw [hheader, hopen.fullLines_append (.inr rfl), Text.fullLines_append hu,
      hclose.fullLines_append (.inr rfl)]
  have hinside : ∀ l ∈ u.fullLines, ¬ "*/".toList <:+ l.trim := by
    intro l hl
    apply hs
    have hall : s.header.fullLines = "/**\n".toList :: u.fullLines ++ [" */\n".toList] := by
      simpa [Text.fullLines] using hlines []
    rw [hall, List.dropLast_concat]
    exact List.mem_cons_of_mem _ hl
  have hcomment := splitComment?_append hinside (k := " */\n".toList) (by decide) t.fullLines
  have hhas : hasTag ("/**\n".toList :: (u.fullLines ++ [" */\n".toList])).flatten := by
    apply List.any_eq_true.2
    refine ⟨originTag, by simp, Text.occursIn_iff.2 ?_⟩
    rw [List.flatten_cons, List.flatten_append, Text.flatten_fullLines]
    exact List.infix_append_of_infix_right (List.infix_append_of_infix_left htag)
  rw [hlines]
  exact stripLines?_cons (by decide) hcomment hhas

/-! Where a header stands -/

/-- A header begins with no directive. -/
theorem isDirective_header {s : Stamp} (h : (s.header ++ t).fullLines = l :: ls) :
    isDirective l = false := by
  obtain ⟨u, -, -, hheader⟩ := exists_header_eq s
  have hopen : Text.IsLine "/**\n".toList :=
    Text.isLine_concat_lf (l := "/**".toList) (by decide)
  rw [hheader, hopen.fullLines_append (.inr rfl)] at h
  obtain ⟨rfl, -⟩ := List.cons.inj h
  decide

/-- The directive in front is found again when its line is ended and another text stands behind it. -/
theorem splitDirective_ended_append
    (hr : (splitDirective t).1 = [] → ∀ l ls, r.fullLines = l :: ls → isDirective l = false) :
    splitDirective ((splitDirective t).1.ended ++ r) = ((splitDirective t).1.ended, r) := by
  rcases splitDirective_cases t with ⟨h, -⟩ | ⟨l, ls, ht, hd, h⟩
  · rw [h] at hr ⊢
    exact splitDirective_of_not (hr rfl)
  · rw [h]
    apply splitDirective_of_isDirective (Text.fullLines_eq_cons ht).1.ended
    · rwa [isDirective_ended]
    · exact .inl (Text.ended_ended l)

theorem splitDirective_addTo (s : Stamp) (content : Text) : splitDirective (s.addTo content) =
    ((splitDirective (strip content)).1.ended, s.header ++ (splitDirective (strip content)).2) := by
  rw [Stamp.addTo_eq]
  exact splitDirective_ended_append fun _ l ls => isDirective_header

/-- What is left when a header is removed again: the source without its first header, in which the
line of the directive is ended. -/
theorem strip_addTo {s : Stamp} (hs : s.EndsLast) (content : Text) : strip (s.addTo content) =
    (splitDirective (strip content)).1.ended ++ (splitDirective (strip content)).2 := by
  rw [strip, splitDirective_addTo]
  simp only [stripLines?_header hs, Text.flatten_fullLines]

theorem splitDirective_strip_addTo {s : Stamp} (hs : s.EndsLast) (content : Text) :
    splitDirective (strip (s.addTo content)) =
      ((splitDirective (strip content)).1.ended, (splitDirective (strip content)).2) := by
  rw [strip_addTo hs]
  apply splitDirective_ended_append
  rcases splitDirective_cases (strip content) with ⟨h, hnot⟩ | ⟨l, ls, ht, -, h⟩
  · rw [h]
    exact fun _ => hnot
  · rw [h]
    intro hl
    exact absurd hl (Text.fullLines_eq_cons ht).1.ne_nil

/-- Only the line of a directive that is all there is may lack its end. -/
theorem ended_splitDirective_append (t : Text) :
    (splitDirective t).1.ended ++ (splitDirective t).2 =
      t ++ if isDirective t ∧ '\n' ∉ t then ['\n'] else [] := by
  rcases splitDirective_cases t with ⟨h, hnot⟩ | ⟨l, ls, ht, hd, h⟩
  · have hlone : ¬ (isDirective t ∧ '\n' ∉ t) := by
      rintro ⟨hd, hline⟩
      have hne : t ≠ [] := by
        rintro rfl
        cases hd
      have htl : Text.IsLine t := ⟨hne, fun hmem => hline (List.dropLast_subset t hmem)⟩
      simp [hnot t [] (Text.fullLines_of_isLine htl)] at hd
    rw [h, if_neg hlone, List.append_nil]
    rfl
  · obtain ⟨hl, -, hend⟩ := Text.fullLines_eq_cons ht
    have hflat : l ++ ls.flatten = t := by rw [← Text.flatten_fullLines t, ht, List.flatten_cons]
    rw [h, ← hflat]
    by_cases he : l.Ended
    · have hlf : '\n' ∈ l := List.mem_of_getLast? (he.resolve_left hl.ne_nil)
      rw [Text.ended_of_ended he, if_neg fun hlone => hlone.2 (List.mem_append_left _ hlf),
        List.append_nil]
    · obtain rfl := hend.resolve_left he
      rw [List.flatten_nil, List.append_nil, List.append_nil, if_pos ⟨hd, hl.not_mem_of_not_ended he⟩]
      exact if_neg he

/-- Removal undoes what was added, and a second header takes the place of the first. A directive stays
in front, and the header stands right behind it. -/
theorem addTo_replaces_header (s : Stamp) (hs : s.EndsLast) (content : Text) :
    (strip (s.addTo content) = strip content ++
      if isDirective (strip content) ∧ '\n' ∉ strip content then ['\n'] else []) ∧
    (∀ s' : Stamp, s'.addTo (s.addTo content) = s'.addTo content) ∧
    ∀ line rest, (strip content).fullLines = line :: rest → isDirective line →
      s.addTo content = line.ended ++ (s.header ++ rest.flatten) := by
  refine ⟨?_, ?_, ?_⟩
  · rw [strip_addTo hs, ended_splitDirective_append]
  · intro s'
    rw [Stamp.addTo_eq, splitDirective_strip_addTo hs, Stamp.addTo_eq,
      Text.ended_of_ended (Text.ended_ended _)]
  · intro line rest hlines hd
    have hsplit : splitDirective (strip content) = (line, rest.flatten) := by
      rw [splitDirective, hlines]
      exact if_pos hd
    rw [Stamp.addTo_eq, hsplit]

/-- A directive that comes to stand in front when the header above it is removed, and that lacks the
end of its line. -/
theorem addTo_replaces_header_above_directive :
    let s : Stamp := ⟨"@microbuild/lib".toList, "hooks.ts".toList, "1.4.0".toList, "2026-07-29".toList⟩
    let content := "/**\n * @microbuild-version 1\n */\n'use client' ;".toList
    s.EndsLast ∧
      (strip (s.addTo content) = strip content ++
        if isDirective (strip content) ∧ '\n' ∉ strip content then ['\n'] else []) ∧
      (∀ s' : Stamp, s'.addTo (s.addTo content) = s'.addTo content) ∧
      (∀ line rest, (strip content).fullLines = line :: rest → isDirective line →
        s.addTo content = line.ended ++ (s.header ++ rest.flatten)) ∧
      strip content = "'use client' ;".toList := by
  intro s content
  have hs : s.EndsLast := by decide
  obtain ⟨hstrip, hagain, hdirective⟩ := addTo_replaces_header s hs content
  exact ⟨hs, hstrip, hagain, hdirective, by decide⟩

end Provenance

end Transplant
