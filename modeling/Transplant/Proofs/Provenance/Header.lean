import Transplant.Proofs.Text.Lines
import Transplant.Provenance

/-! Where a header stands: behind the directive that a source begins with, or else in front of
everything, and in lines of its own. -/
namespace Transplant

variable {d l r t : Text} {ls : List Text}

namespace Provenance

theorem isDirective_congr {k : Text} (h : k.trim = l.trim) : isDirective k = isDirective l := by
  simp only [isDirective, h]

theorem isDirective_ended (l : Text) : isDirective l.ended = isDirective l :=
  isDirective_congr (Text.trim_ended l)

/-- A directive, when it is trimmed, begins with a quote. -/
theorem exists_of_isDirective (h : isDirective l) :
    ∃ q u, l.trim = q :: u ∧ (q = '"' ∨ q = '\'') := by
  unfold isDirective at h
  split at h
  · rename_i d hd
    have hstart (q : Char) (hq : q = '"' ∨ q = '\'')
        (hbind : ((Text.trimEnd (l.trim.dropEndWhile (· == ';'))).stripStart? [q]).bind
          (Text.stripEnd? · [q]) = some d) : ∃ q u, l.trim = q :: u ∧ (q = '"' ∨ q = '\'') := by
      obtain ⟨u, hu, -⟩ := Option.bind_eq_some_iff.1 hbind
      have hu := Text.stripStart?_eq_some_iff.1 hu
      have hpre : Text.trimEnd (l.trim.dropEndWhile (· == ';')) <+: l.trim :=
        (List.rdropWhile_prefix _ _).trans (List.rdropWhile_prefix _ _)
      obtain ⟨v, hv⟩ := hpre
      exact ⟨q, u ++ v, by rw [← hv, hu]; rfl, hq⟩
    simp only [unquote?, Option.or_eq_some_iff] at hd
    rcases hd with hd | ⟨-, hd⟩
    · exact hstart '"' (.inl rfl) hd
    · exact hstart '\'' (.inr rfl) hd
  · cases h

/-- A source begins with a directive, in a line of its own, or with none. -/
theorem splitDirective_cases (t : Text) :
    (splitDirective t = ([], t) ∧ ∀ l ls, t.fullLines = l :: ls → isDirective l = false) ∨
      ∃ l ls, t.fullLines = l :: ls ∧ isDirective l ∧ splitDirective t = (l, ls.flatten) := by
  rw [splitDirective]
  cases ht : t.fullLines with
  | nil => exact .inl ⟨rfl, nofun⟩
  | cons l ls =>
    cases hl : isDirective l with
    | true => exact .inr ⟨l, ls, rfl, hl, by simp [hl]⟩
    | false =>
      refine .inl ⟨by simp [hl], ?_⟩
      rintro _ _ ⟨⟩
      exact hl

theorem splitDirective_append (t : Text) : (splitDirective t).1 ++ (splitDirective t).2 = t := by
  rcases splitDirective_cases t with ⟨h, -⟩ | ⟨l, ls, ht, -, h⟩
  · rw [h]
    rfl
  · rw [h, ← Text.flatten_fullLines t, ht]
    rfl

theorem ended_or_splitDirective_eq_nil (t : Text) :
    (splitDirective t).1.Ended ∨ (splitDirective t).2 = [] := by
  rcases splitDirective_cases t with ⟨h, -⟩ | ⟨l, ls, ht, -, h⟩
  · rw [h]
    exact .inl (.inl rfl)
  · rw [h]
    exact (Text.fullLines_eq_cons ht).2.2.imp_right fun hls => by rw [hls]; rfl

/-- A directive and the line behind it are taken apart again. -/
theorem splitDirective_of_isDirective (hl : l.IsLine) (hd : isDirective l)
    (hend : l.Ended ∨ r = []) : splitDirective (l ++ r) = (l, r) := by
  have hlines : (l ++ r).fullLines = l :: r.fullLines := by
    rcases hend with hend | rfl
    · exact hl.fullLines_append hend r
    · rw [List.append_nil, Text.fullLines_of_isLine hl]
      rfl
  rw [splitDirective, hlines]
  simp [hd, Text.flatten_fullLines]

theorem splitDirective_of_not (h : ∀ l ls, t.fullLines = l :: ls → isDirective l = false) :
    splitDirective t = ([], t) := by
  rw [splitDirective]
  cases ht : t.fullLines with
  | nil => rfl
  | cons l ls => simp [h l ls ht]

end Provenance

namespace Stamp
open Provenance

theorem addTo_eq (s : Stamp) (t : Text) : s.addTo t =
    (splitDirective (strip t)).1.ended ++ (s.header ++ (splitDirective (strip t)).2) := by
  simp only [addTo, Text.ended]
  split <;> simp

theorem line_eq (tag v : Text) :
    line tag v = ' ' :: ('*' :: ' ' :: (tag ++ ' ' :: v)) ++ ['\n'] := rfl

theorem header_append (s : Stamp) (t : Text) : s.header ++ t =
    "/**\n".toList ++ (line originTag s.origin ++ (line versionTag s.version ++
      (line dateTag s.date ++ (" */\n".toList ++ t)))) := by
  unfold header
  simp only [List.append_assoc]

end Stamp

end Transplant
