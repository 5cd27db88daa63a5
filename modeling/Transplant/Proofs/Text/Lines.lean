import Mathlib.Data.List.DropRight
import Transplant.Text

/-! Lines of a text that has been put together from several, and the white space around them. The
end of a line is white space, so that a trimmed line does not tell how the line ended. -/
namespace Transplant.Text

variable {c : Char} {a b l s t : Text} {ls : List Text}

/-- A word that ends a text ends what stands behind any character that is not in the word. -/
theorem suffix_of_suffix_append_cons {w : Text} (hc : c ∉ w) (h : w <:+ a ++ c :: b) : w <:+ b := by
  have hw : c :: b <:+ a ++ c :: b := List.suffix_append a (c :: b)
  rcases List.suffix_or_suffix_of_suffix h hw with h | h
  · rcases List.suffix_cons_iff.1 h with rfl | h
    · exact absurd List.mem_cons_self hc
    · exact h
  · exact absurd (h.subset List.mem_cons_self) hc

/-! Trimming -/

theorem isWhiteSpace_lf : Unicode.isWhiteSpace '\n' := by decide

theorem isWhiteSpace_cr : Unicode.isWhiteSpace '\r' := by decide

theorem trim_cons (h : Unicode.isWhiteSpace c) : trim (c :: t) = trim t := by
  simp [trim, trimStart, h]

theorem trim_concat (h : Unicode.isWhiteSpace c) : trim (t ++ [c]) = trim t := by
  by_cases hall : ∀ d ∈ t, Unicode.isWhiteSpace d
  · have hdrop : t.dropWhile Unicode.isWhiteSpace = [] := List.dropWhile_eq_nil_iff.2 hall
    have hdrop' : (t ++ [c]).dropWhile Unicode.isWhiteSpace = [] := by
      apply List.dropWhile_eq_nil_iff.2
      intro d hd
      rcases List.mem_append.1 hd with hd | hd
      · exact hall d hd
      · rwa [List.mem_singleton.1 hd]
    simp [trim, trimStart, hdrop, hdrop']
  · have hne : t.dropWhile Unicode.isWhiteSpace ≠ [] := fun he => hall (List.dropWhile_eq_nil_iff.1 he)
    have hstart : trimStart (t ++ [c]) = trimStart t ++ [c] := by
      simp [trimStart, List.dropWhile_append, hne]
    rw [trim, hstart]
    exact List.rdropWhile_concat_pos _ _ c h

theorem trim_append_whiteSpace {w : Text} (h : ∀ c ∈ w, Unicode.isWhiteSpace c) :
    trim (t ++ w) = trim t := by
  induction w using List.reverseRecOn with
  | nil => rw [List.append_nil]
  | append_singleton w c ih =>
    rw [← List.append_assoc, trim_concat (h c (by simp)), ih fun d hd => h d (by simp [hd])]

/-- What trimming takes away is white space on either side. -/
theorem exists_eq_append_trim (t : Text) : ∃ a b, t = a ++ trim t ++ b ∧
    (∀ c ∈ a, Unicode.isWhiteSpace c) ∧ ∀ c ∈ b, Unicode.isWhiteSpace c := by
  refine ⟨t.takeWhile Unicode.isWhiteSpace, t.trimStart.rtakeWhile Unicode.isWhiteSpace, ?_,
    fun c hc => List.mem_takeWhile_imp hc, fun c hc => List.mem_rtakeWhile_imp hc⟩
  have hend : trim t ++ t.trimStart.rtakeWhile Unicode.isWhiteSpace = t.trimStart := by
    rw [trim, trimEnd, dropEndWhile, List.rtakeWhile, ← List.reverse_append,
      List.takeWhile_append_dropWhile, List.reverse_reverse]
  rw [List.append_assoc, hend]
  exact List.takeWhile_append_dropWhile.symm

theorem isWhiteSpace_of_mem_head?_trim (h : c ∈ (trim t).head?) : Unicode.isWhiteSpace c = false := by
  obtain ⟨u, hu⟩ := List.head?_eq_some_iff.1 h
  obtain ⟨v, hv⟩ : trim t <+: trimStart t := List.rdropWhile_prefix _ _
  have hhead : (t.dropWhile Unicode.isWhiteSpace).head? = some c := by
    change (trimStart t).head? = some c
    rw [← hv, hu]
    rfl
  have hnot := List.head?_dropWhile_not Unicode.isWhiteSpace t
  rw [hhead] at hnot
  exact hnot

theorem isWhiteSpace_of_mem_getLast?_trim (h : c ∈ (trim t).getLast?) :
    Unicode.isWhiteSpace c = false := by
  have hne : trim t ≠ [] := by
    intro he
    simp [he] at h
  have hlast := List.rdropWhile_last_not Unicode.isWhiteSpace (trimStart t) hne
  have he : (trim t).getLast hne = c := by
    simpa [List.getLast?_eq_some_getLast hne] using h
  change ¬ Unicode.isWhiteSpace ((trim t).getLast hne) at hlast
  simpa [he] using hlast

/-- A text is trimmed when it neither begins nor ends in white space. -/
theorem trim_eq_self_iff : trim t = t ↔ (∀ c ∈ t.head?, Unicode.isWhiteSpace c = false) ∧
    ∀ c ∈ t.getLast?, Unicode.isWhiteSpace c = false := by
  constructor
  · intro h
    rw [← h]
    exact ⟨fun c => isWhiteSpace_of_mem_head?_trim, fun c => isWhiteSpace_of_mem_getLast?_trim⟩
  · rintro ⟨hhead, hlast⟩
    have hstart : trimStart t = t := by
      cases t with
      | nil => rfl
      | cons c t => simp [trimStart, hhead c (by simp)]
    rw [trim, hstart]
    apply List.rdropWhile_eq_self_iff.2
    intro hne
    simp [hlast _ (List.getLast?_eq_some_getLast hne)]

/-! Lines -/

/-- Whether what follows a text begins a new line. -/
def Ended (t : Text) : Prop := t = [] ∨ t.getLast? = some '\n'

theorem ended_concat (t : Text) : Ended (t ++ ['\n']) := .inr List.getLast?_concat

theorem fullLines_append (ha : Ended a) : fullLines (a ++ b) = fullLines a ++ fullLines b := by
  rcases ha with rfl | ha
  · rfl
  · obtain ⟨l, rfl⟩ := List.getLast?_eq_some_iff.1 ha
    rw [List.append_assoc]
    exact fullLines_append_lf

/-- A line with the line feed that ends it, or the last line of a text without one. -/
structure IsLine (l : Text) : Prop where
  ne_nil : l ≠ []
  oneLine : '\n' ∉ l.dropLast

theorem isLine_concat_lf (h : '\n' ∉ l) : IsLine (l ++ ['\n']) :=
  ⟨by simp, by simpa using h⟩

theorem IsLine.cons (h : IsLine l) (hc : c ≠ '\n') : IsLine (c :: l) := by
  refine ⟨by simp, ?_⟩
  rw [List.dropLast_cons_of_ne_nil h.ne_nil]
  simp [Ne.symm hc, h.oneLine]

theorem fullLines_of_isLine (h : IsLine l) : fullLines l = [l] := by
  induction l with
  | nil => exact absurd rfl h.ne_nil
  | cons c l ih =>
    by_cases hl : l = []
    · by_cases hc : c = '\n' <;> simp [hl, fullLines, hc]
    · have hdrop := h.oneLine
      simp only [List.dropLast_cons_of_ne_nil hl, List.mem_cons, not_or] at hdrop
      simp [fullLines, Ne.symm hdrop.1, ih ⟨hl, hdrop.2⟩]

theorem IsLine.exists_of_ended (h : IsLine l) (he : Ended l) : ∃ k, '\n' ∉ k ∧ l = k ++ ['\n'] := by
  obtain ⟨k, rfl⟩ := List.getLast?_eq_some_iff.1 (he.resolve_left h.ne_nil)
  exact ⟨k, by simpa using h.oneLine, rfl⟩

theorem IsLine.not_mem_of_not_ended (h : IsLine l) (he : ¬ Ended l) : '\n' ∉ l := by
  intro hmem
  rw [← List.dropLast_append_getLast h.ne_nil] at hmem
  rcases List.mem_append.1 hmem with hmem | hmem
  · exact h.oneLine hmem
  · apply he
    right
    rw [List.getLast?_eq_some_getLast h.ne_nil, List.mem_singleton.1 hmem]

theorem IsLine.fullLines_append (hl : IsLine l) (he : Ended l) (t : Text) :
    fullLines (l ++ t) = l :: fullLines t := by
  rw [Text.fullLines_append he, fullLines_of_isLine hl, List.singleton_append]

/-- The first line of a text, and the others behind it. -/
theorem fullLines_eq_cons (h : fullLines t = l :: ls) :
    IsLine l ∧ fullLines ls.flatten = ls ∧ (Ended l ∨ ls = []) := by
  induction t generalizing l ls with
  | nil => cases h
  | cons c t ih =>
    by_cases hc : c = '\n'
    · subst c
      simp only [fullLines, if_true, List.cons.injEq] at h
      obtain ⟨rfl, rfl⟩ := h
      exact ⟨⟨by simp, by simp⟩, by rw [flatten_fullLines], .inl (.inr rfl)⟩
    · simp only [fullLines, hc, if_false] at h
      cases hrest : fullLines t with
      | nil =>
        simp only [hrest, List.cons.injEq] at h
        obtain ⟨rfl, rfl⟩ := h
        exact ⟨⟨by simp, by simp⟩, rfl, .inr rfl⟩
      | cons l' ls' =>
        simp only [hrest, List.cons.injEq] at h
        obtain ⟨rfl, rfl⟩ := h
        obtain ⟨hl, hls, hend⟩ := ih hrest
        refine ⟨hl.cons hc, hls, ?_⟩
        rcases hend with (rfl | hend) | rfl
        · exact absurd rfl hl.ne_nil
        · exact .inl (.inr (by rw [List.getLast?_cons, hend]; rfl))
        · exact .inr rfl

/-- A text with the line feed that its last line may lack. -/
def ended (t : Text) : Text := if t = [] ∨ t.getLast? = some '\n' then t else t ++ ['\n']

theorem ended_ended (t : Text) : Ended t.ended := by
  rw [ended]
  split
  · assumption
  · exact ended_concat t

theorem ended_of_ended (h : Ended t) : t.ended = t := if_pos h

theorem trim_ended (t : Text) : trim t.ended = trim t := by
  rw [ended]
  split
  · rfl
  · exact trim_concat isWhiteSpace_lf

theorem IsLine.ended (h : IsLine l) : IsLine l.ended := by
  rw [Text.ended]
  split
  · exact h
  · rename_i he
    exact isLine_concat_lf (h.not_mem_of_not_ended he)

theorem trim_withoutLineEnd (l : Text) : trim (withoutLineEnd l) = trim l := by
  rw [withoutLineEnd]
  cases hlf : l.stripEnd? ['\n'] with
  | none => rfl
  | some k =>
    obtain rfl := stripEnd?_eq_some_iff.1 hlf
    rw [trim_concat isWhiteSpace_lf]
    cases hcr : k.stripEnd? ['\r'] with
    | none => simp [hcr]
    | some j =>
      obtain rfl := stripEnd?_eq_some_iff.1 hcr
      simp [hcr, trim_concat isWhiteSpace_cr]

end Transplant.Text
