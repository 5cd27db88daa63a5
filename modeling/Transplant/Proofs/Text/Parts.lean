import Mathlib.Data.List.DropRight
import Transplant.Text

/-! Parts of a text between separators, and what is in them. -/
namespace Transplant.Text

variable {sep c : Char} {a b p s t w : Text} {parts : List Text}

theorem splitFirst?_append (h : sep ∉ a) (b : Text) : splitFirst? sep (a ++ sep :: b) = some (a, b) :=
  splitFirst?_eq_some_iff.2 ⟨rfl, h⟩

theorem splitFirst?_eq_none_iff : splitFirst? sep t = none ↔ sep ∉ t := by
  induction t with
  | nil => simp [splitFirst?]
  | cons d t ih =>
    by_cases hd : d = sep
    · simp [splitFirst?, hd]
    · simp [splitFirst?, hd, Ne.symm hd, ih]

/-- There is a last part. -/
theorem exists_split_concat (sep : Char) (t : Text) :
    ∃ parts last, split sep t = parts ++ [last] := by
  rcases List.eq_nil_or_concat (split sep t) with h | ⟨parts, last, h⟩
  · exact absurd h (split_ne_nil t)
  · exact ⟨parts, last, by rw [h, List.concat_eq_append]⟩

/-- The first part is all that stands before the first separator, or the text itself. -/
theorem head?_split (sep : Char) (t : Text) :
    (split sep t).head? = some ((splitFirst? sep t).getD (t, [])).1 := by
  cases h : splitFirst? sep t with
  | none => simp [split_of_not_mem (splitFirst?_eq_none_iff.1 h)]
  | some parts =>
    obtain ⟨rfl, hsep⟩ := splitFirst?_eq_some_iff.1 h
    simp [split_append_sep, split_of_not_mem hsep]

theorem mem_of_mem_split (hp : p ∈ split sep t) (hc : c ∈ p) : c ∈ t := by
  induction t generalizing p with
  | nil =>
    obtain rfl : p = [] := by simpa [split] using hp
    exact hc
  | cons d t ih =>
    by_cases hd : d = sep
    · simp only [split, hd, if_true, List.mem_cons] at hp
      rcases hp with rfl | hp
      · cases hc
      · exact List.mem_cons_of_mem d (ih hp hc)
    · obtain ⟨x, xs, hx⟩ := List.exists_cons_of_ne_nil (@split_ne_nil sep t)
      simp only [split, hd, if_false, hx, List.modifyHead_cons, List.mem_cons] at hp
      rcases hp with rfl | hp
      · rcases List.mem_cons.1 hc with rfl | hc
        · exact List.mem_cons_self
        · exact List.mem_cons_of_mem d (ih (hx ▸ List.mem_cons_self) hc)
      · exact List.mem_cons_of_mem d (ih (hx ▸ List.mem_cons_of_mem x hp) hc)

theorem mem_join (hc : c ∈ join sep parts) : c = sep ∨ ∃ p ∈ parts, c ∈ p := by
  induction parts with
  | nil => simp [join] at hc
  | cons a parts ih =>
    cases parts with
    | nil => exact .inr ⟨a, List.mem_cons_self, by simpa [join] using hc⟩
    | cons b parts =>
      rw [join_cons_cons] at hc
      rcases List.mem_append.1 hc with hc | hc
      · exact .inr ⟨a, List.mem_cons_self, hc⟩
      · rcases List.mem_cons.1 hc with rfl | hc
        · exact .inl rfl
        · rcases ih hc with hc | ⟨p, hp, hc⟩
          · exact .inl hc
          · exact .inr ⟨p, List.mem_cons_of_mem a hp, hc⟩

theorem join_cons (sep : Char) (a : Text) (parts : List Text) :
    join sep (a :: parts) = a ++ parts.flatMap (sep :: ·) := by
  induction parts generalizing a with
  | nil => simp [join]
  | cons b parts ih => simp [join_cons_cons, ih]

theorem infix_join_of_mem (hp : p ∈ parts) (a : Text) : sep :: p <:+: join sep (a :: parts) := by
  induction parts generalizing a with
  | nil => cases hp
  | cons b parts ih =>
    rw [join_cons_cons]
    rcases List.mem_cons.1 hp with rfl | hp
    · have hpre : p <+: join sep (p :: parts) := by
        cases parts with
        | nil => simp [join]
        | cons d parts =>
          rw [join_cons_cons]
          exact List.prefix_append p _
      obtain ⟨x, hx⟩ := hpre
      exact ⟨a, x, by simp [← hx]⟩
    · exact (ih hp b).trans ⟨a ++ [sep], [], by simp⟩

/-- A word without the character `c` lies on one side of it. -/
theorem infix_append_cons (hc : c ∉ w) : w <:+: a ++ c :: b ↔ w <:+: a ∨ w <:+: b := by
  constructor
  · rintro ⟨p, q, h⟩
    rcases List.append_eq_append_iff.1 h with ⟨x, rfl, -⟩ | ⟨x, hpw, hx⟩
    · exact .inl ⟨p, x, rfl⟩
    rcases List.cons_eq_append_iff.1 hx with ⟨rfl, -⟩ | ⟨x, rfl, rfl⟩
    · exact .inl ⟨p, [], by simpa using hpw⟩
    rcases List.append_eq_append_iff.1 hpw with ⟨y, -, rfl⟩ | ⟨y, rfl, hy⟩
    · exact absurd (by simp) hc
    rcases List.cons_eq_append_iff.1 hy with ⟨rfl, hw⟩ | ⟨y, rfl, rfl⟩
    · exact absurd (by simp [hw]) hc
    · exact .inr ⟨y, q, rfl⟩
  · rintro (h | h)
    · exact h.trans (List.prefix_append a _).isInfix
    · exact h.trans ⟨a ++ [c], [], by simp⟩

/-- A word is found where a text has been changed only in characters that are not in the word. -/
theorem infix_of_infix_map {f : Char → Char} (h : w <:+: s.map f) (hf : ∀ c, f c ∈ w → f c = c) :
    w <:+: s := by
  obtain ⟨p, q, h⟩ := h
  obtain ⟨l, q', rfl, hl, -⟩ := List.map_eq_append_iff.1 h.symm
  obtain ⟨p', w', rfl, -, rfl⟩ := List.map_eq_append_iff.1 hl
  have hw : w'.map f = w' := by
    conv => rhs; rw [← List.map_id w']
    exact List.map_congr_left fun c hc => hf c (List.mem_map_of_mem hc)
  exact ⟨p', q', by rw [hw]⟩

/-- A character comes right behind a separator when a part other than the first begins with it. -/
theorem infix_pair_iff (hc : c ≠ sep) :
    [sep, c] <:+: t ↔ ∃ p ∈ (split sep t).tail, p.head? = some c := by
  constructor
  · rintro ⟨a, b, rfl⟩
    have hsplit : split sep (a ++ [sep, c] ++ b) = split sep a ++ split sep (c :: b) := by
      rw [List.append_assoc]
      exact split_append_sep
    obtain ⟨x, xs, hx⟩ := List.exists_cons_of_ne_nil (@split_ne_nil sep a)
    obtain ⟨y, ys, hy⟩ := List.exists_cons_of_ne_nil (@split_ne_nil sep b)
    refine ⟨c :: y, ?_, rfl⟩
    rw [hsplit, hx]
    simp [split, hc, hy]
  · rintro ⟨p, hp, hhead⟩
    obtain ⟨x, xs, hx⟩ := List.exists_cons_of_ne_nil (@split_ne_nil sep t)
    rw [hx, List.tail_cons] at hp
    obtain ⟨p, rfl⟩ := List.head?_eq_some_iff.1 hhead
    have hin : sep :: c :: p <:+: join sep (x :: xs) := infix_join_of_mem hp x
    rw [← hx, join_split] at hin
    exact (List.prefix_append [sep, c] p).isInfix.trans hin

theorem dropEndWhile_slash (h : '/' ∉ b) (hne : b ≠ []) :
    dropEndWhile (· == '/') (a ++ b) = a ++ b := by
  apply List.rdropWhile_eq_self_iff.2
  intro hab he
  rw [List.getLast_append_of_ne_nil hab hne] at he
  exact h (beq_iff_eq.1 he ▸ List.getLast_mem hne)

end Transplant.Text
