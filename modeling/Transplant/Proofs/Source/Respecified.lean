import Transplant.Proofs.Source.Substitute

/-! Texts that differ in specifiers only. What no reader can read in one text it cannot read in the
other, and what it reads up to a specifier it reads up to the specifier in its place. -/
namespace Transplant.Source

/-- The second text is the first with other specifiers in place of some of its own. -/
inductive Respecified : Text → Text → Prop where
  | nil : Respecified [] []
  | char {t u : Text} (c : Char) : Respecified t u → Respecified (c :: t) (c :: u)
  | specifier {q q' : Char} {s s' t u : Text} : isQuote q → isQuote q' → IsSpecifier s →
      IsSpecifier s' → Substitute s s' → Respecified t u →
        Respecified (q :: (s ++ q' :: t)) (q :: (s' ++ q' :: u))

variable {k : Reader} {c p q : Char} {s t u w : Text} {x : Char → Bool}

namespace Respecified

theorem append (h : Respecified t u) (p : Text) : Respecified (p ++ t) (p ++ u) := by
  induction p with
  | nil => exact h
  | cons c p ih => exact .char c ih

theorem head?_eq (h : Respecified t u) : t.head? = u.head? := by
  cases h <;> rfl

/-- A word without quotes stands in both texts or in neither. -/
theorem stripStart? (h : Respecified t u) (hw : ∀ c ∈ w, ¬isQuote c) :
    (t.stripStart? w = none ∧ u.stripStart? w = none) ∨
      ∃ t' u', t.stripStart? w = some t' ∧ u.stripStart? w = some u' ∧ Respecified t' u' := by
  induction w generalizing t u with
  | nil => exact .inr ⟨t, u, by simp [Text.stripStart?], by simp [Text.stripStart?], h⟩
  | cons d w ih =>
    cases h with
    | nil => simp [Text.stripStart?]
    | char c h =>
      by_cases hd : d = c
      · simpa [Text.stripStart?, hd] using ih h fun e he => hw e (by simp [he])
      · simp [Text.stripStart?, hd]
    | @specifier q _ _ _ _ _ hq =>
      have hd : d ≠ q := fun hd => hw d (by simp) (hd ▸ hq)
      simp [Text.stripStart?, hd]

/-- Characters other than quotes are skipped alike in both texts. -/
theorem skipped (h : Respecified t u) (hx : ∀ q, isQuote q → x q = false) :
    t.takeWhile x = u.takeWhile x ∧ Respecified (t.dropWhile x) (u.dropWhile x) := by
  induction h with
  | nil => exact ⟨rfl, nil⟩
  | char c h ih =>
    by_cases hc : x c
    · simpa [List.takeWhile_cons, List.dropWhile_cons, hc] using ih
    · simpa [List.takeWhile_cons, List.dropWhile_cons, hc] using h.char c
  | specifier hq hq' hs hs' hi h =>
    simpa [List.takeWhile_cons, List.dropWhile_cons, hx _ hq] using h.specifier hq hq' hs hs' hi

end Respecified

/-! Specifiers -/

theorem specifier?_append (hs : IsSpecifier s) (hq : isQuote q) :
    specifier? (s ++ q :: t) = some ⟨[], s, q :: t⟩ := by
  have hq' := inSpecifier_eq_false_of_isQuote hq
  have take : (s ++ q :: t).takeWhile inSpecifier = s := by
    simp [List.takeWhile_append_of_pos hs.2, hq']
  have drop : (s ++ q :: t).dropWhile inSpecifier = q :: t := by
    simp [List.dropWhile_append_of_pos hs.2, hq']
  obtain ⟨c, s, rfl⟩ := List.exists_cons_of_ne_nil hs.1
  rw [specifier?, take, drop]
  simp [hq]

theorem inQuotes?_append (hp : isQuote p) (hs : IsSpecifier s) (hq : isQuote q) :
    inQuotes? (p :: (s ++ q :: t)) = some ⟨[p], s, q :: t⟩ := by
  simp [inQuotes?, hp, specifier?_append hs hq, Reading.after]

/-! What cannot be read -/

/-- The reader finds no specifier in a respecified text, if it found none before. -/
def Reader.Reflects (k : Reader) : Prop := ∀ ⦃t u⦄, Respecified t u → k t = none → k u = none

theorem specifier?_reflects : Reader.Reflects specifier? := by
  intro t u h ht
  obtain ⟨htake, hdrop⟩ := h.skipped (x := inSpecifier) fun q => inSpecifier_eq_false_of_isQuote
  simp only [specifier?, htake] at ht ⊢
  cases hs : u.takeWhile inSpecifier with
  | nil => simp
  | cons c s =>
    simp only [hs] at ht ⊢
    have hhead := hdrop.head?_eq
    cases hu : u.dropWhile inSpecifier with
    | nil => simp
    | cons q u' =>
      rw [hu, List.head?_cons] at hhead
      obtain ⟨t', ht'⟩ := List.head?_eq_some_iff.1 hhead
      simpa [ht'] using ht

theorem inQuotes?_reflects : Reader.Reflects inQuotes? := by
  intro t u h ht
  cases h with
  | nil => exact ht
  | char c h =>
    by_cases hc : isQuote c
    · simp only [inQuotes?, hc, if_true, Option.map_eq_none_iff] at ht ⊢
      exact specifier?_reflects h ht
    · simp [inQuotes?, hc]
  | specifier hq hq' hs => simp [inQuotes?_append hq hs hq'] at ht

/-! What is read -/

/-- In two respecified texts, from where a specifier opens: the specifier and what follows it. -/
structure Swap (q : Char) (s rest s' rest' : Text) : Prop where
  opened : isQuote q
  isSpecifier : IsSpecifier s'
  closed : ∃ e r, rest' = e :: r ∧ isQuote e
  respecified : Respecified (q :: (s ++ rest)) (q :: (s' ++ rest'))

/-- The reader that finds a specifier finds the one in its place. -/
def Reader.Preserves (k : Reader) : Prop := ∀ ⦃p q s rest s' rest'⦄, Swap q s rest s' rest' →
  k (p ++ q :: (s ++ rest)) = some ⟨p ++ [q], s, rest⟩ →
    k (p ++ q :: (s' ++ rest')) = some ⟨p ++ [q], s', rest'⟩

@[simp] theorem map_after_eq_some_iff {m : Option Reading} {a l : Text} :
    m.map (Reading.after a) = some ⟨a ++ l, s, t⟩ ↔ m = some ⟨l, s, t⟩ := by
  cases m with
  | none => simp
  | some r =>
    obtain ⟨lead, s', t'⟩ := r
    simp [Reading.after]

@[simp] theorem map_after_cons_eq_some_iff {m : Option Reading} {l : Text} :
    m.map (Reading.after [c]) = some ⟨c :: l, s, t⟩ ↔ m = some ⟨l, s, t⟩ :=
  map_after_eq_some_iff (a := [c])

theorem none_ne_some {α : Type} {m : Option α} {y y' : α} (h : none = some y) : m = some y' := by
  cases h

theorem head?_append_quote (p t u : Text) : (p ++ q :: t).head? = (p ++ q :: u).head? := by
  cases p <;> rfl

/-- Skipping ends at a quote at the latest, whatever follows it. -/
theorem skipped_append (hq : x q = false) (p t : Text) :
    (p ++ q :: t).takeWhile x = p.takeWhile x ∧
      (p ++ q :: t).dropWhile x = p.dropWhile x ++ q :: t := by
  induction p with
  | nil => simp [hq]
  | cons c p ih =>
    by_cases hc : x c
    · simpa [List.takeWhile_cons, List.dropWhile_cons, hc] using ih
    · simp [hc]

theorem stripStart?_append_cons (hw : c ∉ w) (p t : Text) :
    (p ++ c :: t).stripStart? w = (p.stripStart? w).map (· ++ c :: t) := by
  induction w generalizing p with
  | nil => simp [Text.stripStart?]
  | cons d w ih =>
    simp only [List.mem_cons, not_or] at hw
    cases p with
    | nil => simp [Text.stripStart?, Ne.symm hw.1]
    | cons e p =>
      by_cases hde : d = e
      · simpa [Text.stripStart?, hde] using ih hw.2 p
      · simp [Text.stripStart?, hde]

theorem stripStart?_append_quote (hw : ∀ c ∈ w, ¬isQuote c) (hq : isQuote q) (p t : Text) :
    (p ++ q :: t).stripStart? w = (p.stripStart? w).map (· ++ q :: t) :=
  stripStart?_append_cons (fun hm => hw q hm hq) p t

theorem inQuotes?_preserves : Reader.Preserves inQuotes? := by
  intro p q s rest s' rest' hs h
  cases p with
  | nil =>
    obtain ⟨e, r, rfl, he⟩ := hs.closed
    exact inQuotes?_append hs.opened hs.isSpecifier he
  | cons c p =>
    rw [List.cons_append, inQuotes?] at h
    split at h
    · obtain ⟨r, hr, he⟩ := Option.map_eq_some_iff.1 h
      have hlead := congrArg Reading.lead he
      simp [(specifier?_eq_some hr).2.1] at hlead
    · cases h

/-- A reader that reads respecified texts alike. -/
structure Reader.Steady (k : Reader) : Prop where
  reflects : k.Reflects
  preserves : k.Preserves

theorem inQuotes?_steady : Reader.Steady inQuotes? := ⟨inQuotes?_reflects, inQuotes?_preserves⟩

namespace Reader.Steady

theorem skip (h : k.Steady) (hx : ∀ q, isQuote q → x q = false) : (Reader.skip x k).Steady where
  reflects t u hr ht := by
    rw [Reader.skip, Option.map_eq_none_iff] at ht ⊢
    exact h.reflects (hr.skipped hx).2 ht
  preserves p q s rest s' rest' hs hr := by
    have hq := hx q hs.opened
    have hp : p ++ [q] = p.takeWhile x ++ (p.dropWhile x ++ [q]) := by
      rw [← List.append_assoc, List.takeWhile_append_dropWhile]
    rw [Reader.skip, (skipped_append hq p _).1, (skipped_append hq p _).2, hp,
      map_after_eq_some_iff] at hr ⊢
    exact h.preserves hs hr

theorem skipSome (h : k.Steady) (hx : ∀ q, isQuote q → x q = false) :
    (Reader.skipSome x k).Steady where
  reflects t u hr ht := by
    rw [Reader.skipSome, hr.head?_eq] at ht
    exact ite_eq_of_ite_eq ((h.skip hx).reflects hr) id ht
  preserves p q s rest s' rest' hs hr := by
    rw [Reader.skipSome, head?_append_quote p _ (s' ++ rest')] at hr
    exact ite_eq_of_ite_eq ((h.skip hx).preserves hs) none_ne_some hr

theorem word (h : k.Steady) (hw : ∀ c ∈ w, ¬isQuote c) : (Reader.word w k).Steady where
  reflects t u hr ht := by
    rcases hr.stripStart? hw with ⟨-, hu⟩ | ⟨t', u', ht', hu', hr'⟩
    · simp [Reader.word, hu]
    · simp only [Reader.word, ht', Option.bind_some, Option.map_eq_none_iff] at ht
      simp [Reader.word, hu', h.reflects hr' ht]
  preserves p q s rest s' rest' hs hr := by
    rw [Reader.word, stripStart?_append_quote hw hs.opened] at hr ⊢
    cases hp : p.stripStart? w with
    | none => simp [hp] at hr
    | some p' =>
      obtain rfl := Text.stripStart?_eq_some_iff.1 hp
      simp only [hp, Option.map_some, Option.bind_some, List.append_assoc,
        map_after_eq_some_iff] at hr ⊢
      exact h.preserves hs hr

/-- The second reader is asked only where the first finds nothing, in the new text as in the old. -/
theorem or {k' : Reader} (h : k.Steady) (h' : k'.Steady) :
    Reader.Steady fun t => (k t).or (k' t) where
  reflects t u hr ht := by
    rw [Option.or_eq_none_iff] at ht ⊢
    exact ⟨h.reflects hr ht.1, h'.reflects hr ht.2⟩
  preserves p q s rest s' rest' hs hr := by
    rw [Option.or_eq_some_iff] at hr ⊢
    rcases hr with hr | ⟨hnone, hr⟩
    · exact .inl (h.preserves hs hr)
    · exact .inr ⟨h.reflects (hs.respecified.append p) hnone, h'.preserves hs hr⟩

end Reader.Steady

end Transplant.Source
