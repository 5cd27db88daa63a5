import Transplant.Proofs.Source.Rescan
import Transplant.Proofs.Text.Lines

/-! A source as specifiers and the gaps between them. A change of specifiers keeps the gaps, whatever
it puts between them, and each specifier stands between quotes, behind the line end where its
statement begins and in front of the next statement. -/
namespace Transplant.Source

variable {b : Bool} {t front gap lead s : Text} {d : Document} {f : Import → Option Text}
  {i : Import} {n : Nat}

/-- A specifier in a source, as part of its import, and the gap in front of it, which goes back to
the specifier before. -/
structure Slot where
  gap : Text
  found : Import

namespace Slot

/-- The text of slots into which `g` puts the specifiers. -/
def write (g : Import → Text) (slots : List Slot) : Text := slots.flatMap fun s => s.gap ++ g s.found

@[simp] theorem write_nil (g : Import → Text) : write g [] = [] := rfl

@[simp] theorem write_cons (g : Import → Text) (x : Slot) (slots : List Slot) :
    write g (x :: slots) = x.gap ++ (g x.found ++ write g slots) := by
  simp [write]

end Slot

/-- An import's specifier between the texts in front of it and behind it: its statement begins in
front of it, at the start of the source or behind a line feed. -/
structure Import.StandsBetween (i : Import) (front behind : Text) : Prop where
  isSpecifier : IsSpecifier i.specifier
  opened : ∃ a q, front = a ++ [q] ∧ isQuote q
  closed : ∃ q a, behind = q :: a ∧ isQuote q
  begins : ∃ a lead, front = a ++ lead ∧ a.byteSize = i.offset ∧ a.Ended

theorem Import.StandsBetween.offset_le {behind : Text} (h : i.StandsBetween front behind) :
    i.offset ≤ front.byteSize := by
  obtain ⟨a, lead, rfl, ha, -⟩ := h.begins
  rw [← ha, Text.byteSize_append]
  exact Nat.le_add_right _ _

namespace Document

/-- The slots of a document that begins at byte `start` with `gap` in front of it, and the gap
behind the last. -/
def slots (gap : Text) (start : Nat) : Document → List Slot × Text
  | [] => ([], gap)
  | .char c :: d => slots (gap ++ [c]) (start + c.utf8Size) d
  | .statement s :: d =>
    let rest := slots [] (start + s.text.byteSize) d
    (⟨gap ++ s.lead, ⟨s.kind, s.specifier, start⟩⟩ :: rest.1, rest.2)

theorem map_found_slots (d : Document) (gap : Text) (n : Nat) :
    (d.slots gap n).1.map (·.found) = d.importsFrom n := by
  induction d generalizing gap n with
  | nil => rfl
  | cons x d ih =>
    cases x with
    | char c => exact ih _ _
    | statement st => simp [slots, importsFrom, ih]

/-- The gaps are what a change of specifiers keeps. -/
theorem write_slots (f : Import → Option Text) (d : Document) (gap : Text) (n : Nat) :
    gap ++ (d.mapSpecifiersFrom f n).write =
      Slot.write (Import.chosen f) (d.slots gap n).1 ++ (d.slots gap n).2 := by
  induction d generalizing gap n with
  | nil => simp [slots, mapSpecifiersFrom, write]
  | cons x d ih =>
    cases x with
    | char c =>
      rw [slots, mapSpecifiersFrom, write_cons, ← ih]
      simp [Piece.text]
    | statement st =>
      have htail := ih [] (n + st.text.byteSize)
      rw [List.nil_append] at htail
      rw [slots, mapSpecifiersFrom, write_cons, htail]
      simp [Piece.text, Statement.text, Import.chosen]

theorem le_offset_of_mem (d : Document) (n : Nat) : ∀ i ∈ d.importsFrom n, n ≤ i.offset := by
  induction d generalizing n with
  | nil => simp [importsFrom]
  | cons x d ih =>
    cases x with
    | char c => exact fun i hi => Nat.le_of_add_right_le (ih _ i hi)
    | statement st =>
      intro i hi
      rcases List.mem_cons.1 hi with rfl | hi
      · exact Nat.le_refl n
      · exact Nat.le_of_add_right_le (ih _ i hi)

end Document

open Document

/-- The specifiers of a scanned text stand between quotes, each in front of the next statement.
`front` is all that is in front of the text, and `gap` is the end of it that is no slot's yet. -/
theorem Scanned.standsBetween (h : Scanned b t d) (hn : (front ++ gap).byteSize = n)
    (hb : b = true → Text.Ended (front ++ gap)) :
    ∀ pre x post, (d.slots gap n).1 = pre ++ x :: post →
      x.found.StandsBetween (front ++ (Slot.write (·.specifier) pre ++ x.gap))
          (Slot.write (·.specifier) post ++ (d.slots gap n).2) ∧
        ∀ y ∈ post, (front ++ (Slot.write (·.specifier) pre ++ x.gap)).byteSize < y.found.offset := by
  induction h generalizing front gap n with
  | nil => simp [Document.slots]
  | @char b c t d hnone h ih =>
    have hsize : (front ++ (gap ++ [c])).byteSize = n + c.utf8Size := by simp [← hn]; omega
    have hend : (c == '\n') = true → Text.Ended (front ++ (gap ++ [c])) := by
      intro hc
      rw [eq_of_beq hc, ← List.append_assoc]
      exact Text.ended_concat _
    exact ih hsize hend
  | @statement p s t q e kind d hst hq hs he h ih =>
    have hchar : 0 < e.utf8Size := Char.utf8Size_pos e
    have hsize : (front ++ (gap ++ (p ++ q :: s)) ++ [e]).byteSize =
        n + (Statement.mk kind (p ++ [q]) s).text.byteSize + e.utf8Size := by
      simp [Statement.text, ← hn]
      omega
    have hrest := ih hsize (by simp)
    intro pre x post hslots
    rw [Document.slots, Document.slots, List.nil_append] at hslots ⊢
    generalize n + (Statement.mk kind (p ++ [q]) s).text.byteSize + e.utf8Size = m at *
    cases pre with
    | nil =>
      obtain ⟨rfl, rfl⟩ := List.cons.inj hslots
      have hbehind := write_slots (fun _ => none) d [e] m
      refine ⟨⟨hs, ⟨front ++ (gap ++ p), q, by simp, hq⟩, ⟨e, _, hbehind.symm, he⟩,
        front ++ gap, p ++ [q], by simp, hn, hb rfl⟩, fun y hy => ?_⟩
      have hy : y.found ∈ d.importsFrom m := by
        rw [← map_found_slots d [e] m]
        exact List.mem_map_of_mem hy
      have hle := le_offset_of_mem d m _ hy
      simp at hsize ⊢
      omega
    | cons w pre =>
      obtain ⟨rfl, htail⟩ := List.cons.inj hslots
      simpa using hrest pre x post htail

/-- A statement begins behind the specifiers of the statements before it. -/
theorem Scanned.pairwise_offset (h : Scanned b t d) (n : Nat) :
    (d.importsFrom n).Pairwise (·.offset < ·.offset) := by
  induction h generalizing n with
  | nil => exact .nil
  | char hnone h ih => exact ih _
  | @statement p s t q e kind d hst hq hs he h ih =>
    refine List.pairwise_cons.2 ⟨fun i hi => ?_, ih _⟩
    have hle := le_offset_of_mem d _ i hi
    have hchar : 0 < e.utf8Size := Char.utf8Size_pos e
    show n < i.offset
    omega

/-- A source is its specifiers, in the order in which they are found, with gaps in front of them and
behind the last, and a change of specifiers leaves the gaps as they are. Each specifier stands
between quotes and has no quote or line end in it, and its statement begins where a line does, in
front of it and behind the specifier before. -/
theorem exists_slots (t : Text) : ∃ (slots : List Slot) (last : Text),
    slots.map (·.found) = imports t ∧ t = Slot.write (·.specifier) slots ++ last ∧
      (∀ f, mapSpecifiers f t = Slot.write (Import.chosen f) slots ++ last) ∧
        (imports t).Pairwise (·.offset < ·.offset) ∧
          ∀ pre x post, slots = pre ++ x :: post →
            let front := Slot.write (·.specifier) pre ++ x.gap
            x.found.StandsBetween front (Slot.write (·.specifier) post ++ last) ∧
              x.found.offset ≤ front.byteSize ∧
                ∀ y ∈ post, front.byteSize < y.found.offset := by
  have hscan : Scanned true t (document t) := scanned true t
  have hsize : Text.byteSize ([] ++ []) = 0 := rfl
  have hwrite (f : Import → Option Text) : mapSpecifiers f t =
      Slot.write (Import.chosen f) ((document t).slots [] 0).1 ++ ((document t).slots [] 0).2 :=
    write_slots f (document t) [] 0
  refine ⟨((document t).slots [] 0).1, ((document t).slots [] 0).2, map_found_slots _ [] 0, ?_,
    hwrite, hscan.pairwise_offset 0, fun pre x post hslots => ?_⟩
  · have hself := hwrite fun _ => none
    rwa [mapSpecifiers_none] at hself
  · obtain ⟨hstands, hnext⟩ :=
      hscan.standsBetween hsize (fun _ => .inl rfl) pre x post hslots
    exact ⟨hstands, hstands.offset_le, hnext⟩

end Transplant.Source
