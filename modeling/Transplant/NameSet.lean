import Transplant.Text

/-!
Finite sets of names. A set is kept as its names in increasing order, by code point, each once, so
that equal sets are equal lists (`ext`).
-/

namespace Transplant
variable {x y : Text} {s t : NameSet} {l : List Text}

/-- A set of names. -/
structure NameSet where
  names : List Text
  increasing : names.Pairwise (· < ·)
deriving DecidableEq

namespace NameSet

instance : Membership Text NameSet := ⟨fun s x => x ∈ s.names⟩

theorem mem_def : x ∈ s ↔ x ∈ s.names := Iff.rfl

instance (x : Text) (s : NameSet) : Decidable (x ∈ s) := inferInstanceAs (Decidable (x ∈ s.names))

/-- The set without names. -/
def empty : NameSet := ⟨[], .nil⟩

instance : EmptyCollection NameSet := ⟨empty⟩

instance : Inhabited NameSet := ⟨empty⟩

/-- Whether a set has no name. -/
def isEmpty (s : NameSet) : Bool := s.names.isEmpty

/-- Puts a name into an increasing list, unless it is there. -/
def insertName (x : Text) : List Text → List Text
  | [] => [x]
  | y :: ys => if x < y then x :: y :: ys else if x = y then y :: ys else y :: insertName x ys

theorem mem_insertName : y ∈ insertName x l ↔ y = x ∨ y ∈ l := by
  induction l with
  | nil => simp [insertName]
  | cons z l ih =>
    rw [insertName]
    split
    · simp
    · split
      · rename_i h
        subst h
        simp
      · simp [ih]
        constructor <;> (intro h; rcases h with h | h | h <;> simp [h])

theorem lt_of_not_lt_of_ne (h : ¬x < y) (hne : x ≠ y) : y < x :=
  List.not_le.1 fun h' => hne (List.le_antisymm h' (List.not_lt.1 h))

theorem increasing_insertName (h : l.Pairwise (· < ·)) :
    (insertName x l).Pairwise (· < ·) := by
  induction l with
  | nil => simp [insertName]
  | cons z l ih =>
    rw [List.pairwise_cons] at h
    rw [insertName]
    split
    · rename_i hx
      refine List.pairwise_cons.2 ⟨fun y hy => ?_, List.pairwise_cons.2 h⟩
      obtain rfl | hy := List.mem_cons.1 hy
      · exact hx
      · exact List.lt_trans hx (h.1 y hy)
    · split
      · exact List.pairwise_cons.2 h
      · rename_i hx hne
        refine List.pairwise_cons.2 ⟨fun y hy => ?_, ih h.2⟩
        obtain rfl | hy := mem_insertName.1 hy
        · exact lt_of_not_lt_of_ne hx hne
        · exact h.1 y hy

/-- A set with one name more. -/
def insert (x : Text) (s : NameSet) : NameSet :=
  ⟨insertName x s.names, increasing_insertName s.increasing⟩

/-- The set of the names in a list. -/
def ofList (l : List Text) : NameSet := l.foldr insert empty

/-- The names of a set that satisfy `p`. -/
def filter (p : Text → Bool) (s : NameSet) : NameSet := ⟨s.names.filter p, s.increasing.filter p⟩

@[simp] theorem not_mem_empty : x ∉ (∅ : NameSet) := List.not_mem_nil

@[simp] theorem mem_insert : y ∈ s.insert x ↔ y = x ∨ y ∈ s := mem_insertName

@[simp] theorem mem_ofList : x ∈ ofList l ↔ x ∈ l := by
  induction l with
  | nil => exact iff_of_false not_mem_empty List.not_mem_nil
  | cons y l ih => simp only [ofList, List.foldr_cons, mem_insert, List.mem_cons] at ih ⊢; rw [ih]

@[simp] theorem mem_filter {p : Text → Bool} : x ∈ s.filter p ↔ x ∈ s ∧ p x :=
  List.mem_filter

theorem names_eq_of_mem_iff {l m : List Text} (hl : l.Pairwise (· < ·)) (hm : m.Pairwise (· < ·))
    (h : ∀ x, x ∈ l ↔ x ∈ m) : l = m := by
  induction l generalizing m with
  | nil =>
    cases m with
    | nil => rfl
    | cons y m => exact absurd ((h y).2 (by simp)) (by simp)
  | cons y l ih =>
    cases m with
    | nil => exact absurd ((h y).1 (by simp)) (by simp)
    | cons z m =>
      rw [List.pairwise_cons] at hl hm
      have hyz : y = z := by
        obtain h₁ | h₁ := List.mem_cons.1 ((h y).1 (by simp))
        · exact h₁
        · obtain h₂ | h₂ := List.mem_cons.1 ((h z).2 (by simp))
          · exact h₂.symm
          · exact absurd (List.lt_trans (hm.1 y h₁) (hl.1 z h₂)) (List.lt_irrefl z)
      subst hyz
      rw [ih hl.2 hm.2 fun x => ?_]
      have hx := h x
      simp only [List.mem_cons] at hx
      constructor
      · intro hxl
        obtain rfl | hxm := hx.1 (.inr hxl)
        · exact absurd (hl.1 _ hxl) (List.lt_irrefl _)
        · exact hxm
      · intro hxm
        obtain rfl | hxl := hx.2 (.inr hxm)
        · exact absurd (hm.1 _ hxm) (List.lt_irrefl _)
        · exact hxl

/-- Two sets with the same names are the same. -/
theorem ext (h : ∀ x, x ∈ s ↔ x ∈ t) : s = t := by
  obtain ⟨l, hl⟩ := s
  obtain ⟨m, hm⟩ := t
  obtain rfl : l = m := names_eq_of_mem_iff hl hm h
  rfl

end NameSet

end Transplant
