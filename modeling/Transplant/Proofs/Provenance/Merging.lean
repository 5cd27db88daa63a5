import Transplant.Proofs.Provenance.RoundTrip

/-! Headers read from two texts, one below the other. Each line is read by itself, and the line feed
between the texts, which may have a carriage return in front of it, is white space to the reader: so
the two readings are merged, and what is read first stays. -/
namespace Transplant

variable {a b l t tag v : Text} {p q : Provenance}

namespace Text

theorem trim_trim (t : Text) : t.trim.trim = t.trim :=
  trim_eq_self_iff.2 ⟨fun _ => isWhiteSpace_of_mem_head?_trim, fun _ => isWhiteSpace_of_mem_getLast?_trim⟩

/-- The last line of a text, which is empty if the text is or ends in a line feed. -/
theorem exists_last_line (t : Text) : ∃ a l, t = a ++ l ∧ Ended a ∧ '\n' ∉ l := by
  induction t with
  | nil => exact ⟨[], [], rfl, .inl rfl, by simp⟩
  | cons c t ih =>
    obtain ⟨a, l, rfl, ha, hl⟩ := ih
    rcases ha with rfl | ha
    · by_cases hc : c = '\n'
      · subst c
        exact ⟨['\n'], l, rfl, ended_concat [], hl⟩
      · refine ⟨[], c :: l, rfl, .inl rfl, ?_⟩
        simp [Ne.symm hc, hl]
    · refine ⟨c :: a, l, rfl, .inr ?_, hl⟩
      rw [List.getLast?_cons, ha]
      rfl

end Text

namespace Provenance

/-- The fields of a header. -/
def fields : List (Provenance → Option Text) := [Provenance.origin, Provenance.version, Provenance.date]

/-- What two headers say together, where the first goes before the second. -/
def or (p q : Provenance) : Provenance :=
  ⟨p.origin.or q.origin, p.version.or q.version, p.date.or q.date⟩

/-- What two readings say together. -/
def merge : Option Provenance → Option Provenance → Option Provenance := Option.merge or

/-! Fields -/

/-- A line feed at the end of a text says nothing. -/
theorem field?_concat_lf (tag t : Text) : field? tag (t ++ ['\n']) = field? tag t := by
  obtain ⟨a, l, rfl, ha, hl⟩ := Text.exists_last_line t
  have hlast : field? tag (l ++ ['\n']) = field? tag l := by
    by_cases hnil : l = []
    · subst l
      rfl
    · have hline : Text.IsLine l := ⟨hnil, fun h => hl (List.dropLast_subset l h)⟩
      rw [field?_of_isLine hline, field?_of_isLine (Text.isLine_concat_lf hl), fieldLine?, fieldLine?,
        commentBody?_congr (Text.trim_concat Text.isWhiteSpace_lf)]
  rw [List.append_assoc, field?_append ha, field?_append ha, hlast]

theorem field?_append_lf (tag a b : Text) :
    field? tag (a ++ '\n' :: b) = (field? tag a).or (field? tag b) := by
  have hsplit : a ++ '\n' :: b = (a ++ ['\n']) ++ b := by simp
  rw [hsplit, field?_append (Text.ended_concat a), field?_concat_lf]

theorem trim_of_tagValue? {body : Text} (h : tagValue? tag body = some v) : v ≠ [] ∧ v.trim = v := by
  simp only [tagValue?, Option.bind_eq_bind, Option.bind_eq_some_iff, Option.guard_eq_some',
    exists_const] at h
  obtain ⟨rest, -, ⟨-, hne⟩, hv⟩ := h
  obtain rfl := Option.some.inj hv
  exact ⟨hne, Text.trim_trim rest⟩

theorem trim_of_field? (h : field? tag t = some v) : v ≠ [] ∧ v.trim = v := by
  obtain ⟨l, -, hl⟩ := List.exists_of_findSome?_eq_some h
  obtain ⟨body, -, hv⟩ := Option.bind_eq_some_iff.1 hl
  exact trim_of_tagValue? hv

/-! Headers -/

theorem read_append_lf (a b : Text) : read (a ++ '\n' :: b) = (read a).or (read b) := by
  simp only [read, or, field?_append_lf]

/-- Two headers say nothing together only if neither says anything. -/
theorem or_eq_nothing_iff :
    p.or q = ⟨none, none, none⟩ ↔ p = ⟨none, none, none⟩ ∧ q = ⟨none, none, none⟩ := by
  obtain ⟨o, v, d⟩ := p
  obtain ⟨o', v', d'⟩ := q
  simp only [or, Provenance.mk.injEq, Option.or_eq_none_iff]
  tauto

theorem read?_eq (t : Text) :
    read? t = if read t = ⟨none, none, none⟩ then none else some (read t) := rfl

theorem read?_append_lf (a b : Text) : read? (a ++ '\n' :: b) = merge (read? a) (read? b) := by
  rw [read?_eq a, read?_eq b, read?_eq, read_append_lf]
  by_cases ha : read a = ⟨none, none, none⟩
  · rw [ha, if_pos rfl]
    exact Option.merge_none_left.symm
  · by_cases hb : read b = ⟨none, none, none⟩
    · have hor : (read a).or ⟨none, none, none⟩ = read a := by simp [or]
      rw [hb, hor, if_pos rfl, if_neg ha]
      rfl
    · have hor : (read a).or (read b) ≠ ⟨none, none, none⟩ := fun h => ha (or_eq_nothing_iff.1 h).1
      rw [if_neg ha, if_neg hb, if_neg hor]
      rfl

/-- A text is read piece by piece, at whatever line feeds it is cut. -/
theorem read?_join (parts : List Text) :
    read? (Text.join '\n' parts) = (parts.map read?).foldr merge none := by
  induction parts with
  | nil => rfl
  | cons a parts ih =>
    cases parts with
    | nil =>
      have hjoin : Text.join '\n' [a] = a := by simp [Text.join]
      rw [hjoin]
      exact Option.merge_none_right.symm
    | cons b parts =>
      rw [Text.join_cons_cons, read?_append_lf, ih]
      rfl

section
variable {field : Provenance → Option Text} (h : field ∈ fields)
include h

theorem field_or (p q : Provenance) : field (p.or q) = (field p).or (field q) := by
  simp only [fields, List.mem_cons, List.not_mem_nil, or_false] at h
  rcases h with rfl | rfl | rfl <;> rfl

/-- A field of what was read, also where nothing was. -/
theorem bind_read? (t : Text) : (read? t).bind field = field (read t) := by
  rw [read?_eq]
  split
  · rename_i hnothing
    rw [hnothing]
    simp only [fields, List.mem_cons, List.not_mem_nil, or_false] at h
    rcases h with rfl | rfl | rfl <;> rfl
  · rfl

theorem trim_of_field_read (hv : field (read t) = some v) : v ≠ [] ∧ v.trim = v := by
  simp only [fields, List.mem_cons, List.not_mem_nil, or_false] at h
  rcases h with rfl | rfl | rfl <;> exact trim_of_field? hv

end

/-- What is read from a text stays as it is when another text is put below it, and what is missing is
taken from that one. Nothing is read only if there is nothing in either. No field is ever empty, and
none has white space around it. -/
theorem read?_first_wins (a b : Text) :
    read? (a ++ '\n' :: b) = merge (read? a) (read? b) ∧
      (read? (a ++ '\n' :: b) = none ↔ read? a = none ∧ read? b = none) ∧
        (∀ field ∈ fields, ∀ v, (read? a).bind field = some v →
          (read? (a ++ '\n' :: b)).bind field = some v) ∧
            ∀ t, ∀ field ∈ fields, ∀ v, (read? t).bind field = some v → v ≠ [] ∧ v.trim = v := by
  refine ⟨read?_append_lf a b, ?_, ?_, ?_⟩
  · rw [read?_append_lf]
    cases read? a <;> cases read? b <;> simp [merge]
  · intro field hfield v hv
    rw [bind_read? hfield] at hv ⊢
    rw [read_append_lf, field_or hfield, hv, Option.some_or]
  · intro t field hfield v hv
    rw [bind_read? hfield] at hv
    exact trim_of_field_read hfield hv

/-- A header that was begun in a text whose last line ends in a carriage return, and that goes on in
another with an older one below it. -/
theorem read?_first_wins_of_carriage_return :
    let a : Text := "/**\n * @microbuild-origin  @microbuild/types \r".toList
    let b : Text := " * @microbuild-version 1.4.0 */\n\n * @microbuild-origin left-pad".toList
    read? a = some ⟨some "@microbuild/types".toList, none, none⟩ ∧
      read? (a ++ '\n' :: b) = some ⟨some "@microbuild/types".toList, some "1.4.0".toList, none⟩ ∧
        (read? (a ++ '\n' :: b)).bind Provenance.origin = some "@microbuild/types".toList := by
  intro a b
  obtain ⟨hmerge, -, hstays, -⟩ := read?_first_wins a b
  have ha : read? a = some ⟨some "@microbuild/types".toList, none, none⟩ := by decide +kernel
  have hb : read? b = some ⟨some "left-pad".toList, some "1.4.0".toList, none⟩ := by decide +kernel
  refine ⟨ha, ?_, hstays Provenance.origin List.mem_cons_self _ ?_⟩
  · rw [hmerge, ha, hb]
    rfl
  · rw [ha]
    rfl

end Provenance

end Transplant
