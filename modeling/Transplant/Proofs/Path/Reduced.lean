import Transplant.Proofs.Path.Resolve

/-! Specifiers without what cancels out. Parts that stay are dropped, and a name goes together with a
`..` behind it. What is left are levels to climb and names to go down along, and it leads from every
directory to where the specifier leads. -/
namespace Transplant.Path
open Position

variable {part : Text} {parts names dir : List Text} {k : Nat} {s : Text}

/-- The parts of a specifier without empty parts, `.`, and names that a `..` follows. -/
def reduced : List Text → List Text
  | [] => []
  | part :: parts =>
    if part = [] ∨ part = ['.'] then reduced parts
    else if part ≠ ['.', '.'] ∧ (reduced parts).head? = some ['.', '.'] then (reduced parts).tail
    else part :: reduced parts

theorem parent_enter_name (p : Position) (h : part ≠ []) (h₁ : part ≠ ['.'])
    (h₂ : part ≠ ['.', '.']) : (p.enter part).parent = p := by
  rw [enter_name h h₁ h₂, parent_concat]

/-- What cancels out leads back to where it started. -/
theorem foldl_enter_reduced (parts : List Text) (p : Position) :
    (reduced parts).foldl enter p = parts.foldl enter p := by
  induction parts generalizing p with
  | nil => rfl
  | cons part parts ih =>
    rw [List.foldl_cons, ← ih, reduced]
    split
    · rename_i hstay
      simp [enter, hstay]
    · rename_i hstay
      obtain ⟨hnil, hdot⟩ := not_or.1 hstay
      split
      · rename_i hup
        obtain ⟨hdots, hhead⟩ := hup
        obtain ⟨rest, hrest⟩ := List.head?_eq_some_iff.1 hhead
        rw [hrest, List.tail_cons, List.foldl_cons, enter_up, parent_enter_name p hnil hdot hdots]
      · rfl

theorem exists_reduced (h : ∀ part ∈ parts, '/' ∉ part) :
    ∃ k names, reduced parts = List.replicate k ['.', '.'] ++ names ∧ ∀ a ∈ names, IsName a := by
  induction parts with
  | nil => exact ⟨0, [], rfl, by simp⟩
  | cons part parts ih =>
    obtain ⟨k, names, hreduced, hnames⟩ := ih fun a ha => h a (.tail part ha)
    rw [reduced, hreduced]
    split
    · exact ⟨k, names, rfl, hnames⟩
    · rename_i hstay
      obtain ⟨hnil, hdot⟩ := not_or.1 hstay
      by_cases hup : part = ['.', '.']
      · exact ⟨k + 1, names, by simp [hup, List.replicate_succ], hnames⟩
      · have hname : IsName part := ⟨hnil, hdot, hup, h part List.mem_cons_self⟩
        cases k with
        | zero =>
          have hhead : names.head? ≠ some ['.', '.'] := fun he =>
            (hnames _ (List.mem_of_mem_head? he)).ne_dots rfl
          refine ⟨0, part :: names, by simp [hhead], fun a ha => ?_⟩
          rcases List.mem_cons.1 ha with rfl | ha
          · exact hname
          · exact hnames a ha
        | succ k => exact ⟨k, names, by simp [List.replicate_succ, hup], hnames⟩

/-- The reduced parts are the levels a specifier climbs and the names it goes down along. -/
theorem reduced_split (s : Text) : reduced (s.split '/') =
    List.replicate (resolve [] s).ups ['.', '.'] ++ (resolve [] s).segments := by
  have hslash : ∀ part ∈ s.split '/', '/' ∉ part := fun part => Text.not_mem_of_mem_split
  obtain ⟨k, names, hreduced, hnames⟩ := exists_reduced hslash
  have hresolve : resolve [] s = ⟨k, names⟩ := by
    rw [resolve, ← foldl_enter_reduced, hreduced, List.foldl_append, foldl_enter_ups,
      foldl_enter_names hnames]
    cases k with
    | zero => rfl
    | succ k => simp [climb]
  rw [hresolve, hreduced]

/-- The parts of a canonical specifier without the `.` that it may begin with. -/
theorem split_specifierOf_erase (h : ∀ a ∈ names, IsName a) (k : Nat) :
    ((specifierOf k names).split '/').erase ['.'] = List.replicate k ['.', '.'] ++ names := by
  rw [split_specifierOf h, dots]
  split
  · simp_all
  · apply List.erase_of_not_mem
    intro hdot
    rcases List.mem_append.1 hdot with hdot | hdot
    · exact absurd (List.eq_of_mem_replicate hdot) (by decide)
    · exact (h _ hdot).ne_dot rfl

end Transplant.Path
