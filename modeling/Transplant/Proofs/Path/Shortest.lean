import Transplant.Proofs.Relocation.Canonical

/-! The specifier that is written for a position is a shortest one. A part of a specifier leads by one
level or one name at most, so that a specifier has as many parts as the position, seen from where it
starts, has levels and names. The canonical one has no more, and it leaves out its detour. -/
namespace Transplant

variable {names : List Text}

namespace Position

/-- How many levels and names a position is away from where it is seen from. -/
def distance (p : Position) : Nat := p.ups + p.segments.length

theorem distance_parent_le (p : Position) : p.parent.distance ≤ p.distance + 1 := by
  rw [parent]
  split
  · simp only [distance]
    omega
  · simp only [distance, List.length_dropLast]
    omega

theorem distance_enter_le (p : Position) (part : Text) : (p.enter part).distance ≤ p.distance + 1 := by
  by_cases hstay : part = [] ∨ part = ['.']
  · simp [enter, hstay]
  · by_cases hup : part = ['.', '.']
    · rw [hup, enter_up]
      exact distance_parent_le p
    · obtain ⟨hnil, hdot⟩ := not_or.1 hstay
      simp [enter_name hnil hdot hup, distance, Nat.add_assoc]

end Position

namespace Path
open Position

/-- The parts of a specifier that lead somewhere: it stays where it is at the others. -/
def steps (s : Text) : List Text := (s.split '/').filter fun part => part ≠ [] ∧ part ≠ ['.']

/-- The distance grows by no more than the number of parts that lead somewhere. -/
theorem distance_foldl_enter_le (parts : List Text) (p : Position) :
    (parts.foldl enter p).distance ≤
      p.distance + (parts.filter fun part => part ≠ [] ∧ part ≠ ['.']).length := by
  induction parts generalizing p with
  | nil => simp
  | cons part parts ih =>
    have hrest := ih (p.enter part)
    rw [List.foldl_cons]
    by_cases hstay : part = [] ∨ part = ['.']
    · have hp : p.enter part = p := by simp [enter, hstay]
      have hskip : ¬ (part ≠ [] ∧ part ≠ ['.']) := by tauto
      rw [List.filter_cons_of_neg (by simpa using hskip)]
      rwa [hp] at hrest ⊢
    · have hstep := distance_enter_le p part
      rw [List.filter_cons_of_pos (by simpa using hstay), List.length_cons]
      omega

theorem distance_resolve_le (s : Text) : (resolve [] s).distance ≤ (steps s).length := by
  have h := distance_foldl_enter_le (s.split '/') ⟨0, []⟩
  rwa [show distance ⟨0, []⟩ = 0 from rfl, Nat.zero_add] at h

theorem steps_specifierOf (h : ∀ a ∈ names, IsName a) (k : Nat) :
    steps (specifierOf k names) = List.replicate k ['.', '.'] ++ names := by
  have hnames : names.filter (fun part => part ≠ [] ∧ part ≠ ['.']) = names := by
    apply List.filter_eq_self.2
    intro a ha
    simpa using ⟨(h a ha).ne_nil, (h a ha).ne_dot⟩
  have hdots : (dots k).filter (fun part => part ≠ [] ∧ part ≠ ['.']) = List.replicate k ['.', '.'] := by
    rw [dots]
    split
    · simp_all
    · simp
  rw [steps, split_specifierOf h, List.filter_append, hnames, hdots]

/-- The canonical specifier has as many parts as the position has levels and names, less those of the
detour. -/
theorem length_steps_relativeSpecifier_le (dir : List Text) (s : Text) :
    (steps (relativeSpecifier dir (resolve dir s))).length ≤ (resolve [] s).distance := by
  have hnames : ∀ a ∈ (resolve [] s).segments, IsName a := isName_of_mem_resolve (by simp) s
  rw [relativeSpecifier_resolve, steps_specifierOf fun a ha => hnames a (List.mem_of_mem_drop ha)]
  simp only [List.length_append, List.length_replicate, List.length_drop, distance]
  omega

/-- Leaving the detour out makes no difference from the directory in which it is one. -/
theorem resolve_relativeSpecifier_resolve (dir : List Text) (s : Text) :
    resolve dir (relativeSpecifier dir (resolve dir s)) = resolve dir s :=
  (resolve_relativeSpecifier_iff dir dir s).2 (detour_isPrefix dir s).1

/-- From any directory, the specifier that is written for a position leads there, is relative, and has
no more parts that lead somewhere than any other that leads there. Wherever a specifier leads, the
one that is written for the place leads as well. -/
theorem relativeSpecifier_shortest (dir : List Text) :
    (∀ target : Position, (∀ a ∈ target.segments, IsName a) →
      resolve dir (relativeSpecifier dir target) = target ∧
        Specifier.isRelative (relativeSpecifier dir target) ∧
          ∀ s, resolve dir s = target →
            (steps (relativeSpecifier dir target)).length ≤ (steps s).length) ∧
      ∀ s, resolve dir (relativeSpecifier dir (resolve dir s)) = resolve dir s := by
  refine ⟨fun target htarget => ⟨resolve_relativeSpecifier dir htarget,
    isRelative_relativeSpecifier dir target, ?_⟩, resolve_relativeSpecifier_resolve dir⟩
  rintro s rfl
  exact Nat.le_trans (length_steps_relativeSpecifier_le dir s) (distance_resolve_le s)

/-- A position above the root, and a longer way there that leaves it and comes back. -/
theorem relativeSpecifier_shortest_above_root :
    let dir := ["forms".toList, "upload".toList]
    let target : Position := ⟨1, ["forms".toList]⟩
    let s : Text := ".././../x/..//../lib/../forms".toList
    (∀ a ∈ target.segments, IsName a) ∧ resolve dir s = target ∧
      relativeSpecifier dir target = "../../../forms".toList ∧
        resolve dir "../../../forms".toList = target ∧
          (steps "../../../forms".toList).length ≤ (steps s).length := by
  intro dir target s
  have htarget : ∀ a ∈ target.segments, IsName a := by
    intro a ha
    obtain rfl : a = "forms".toList := List.mem_singleton.1 ha
    exact ⟨by decide, by decide, by decide, by decide⟩
  have hs : resolve dir s = target := by decide
  obtain ⟨hback, -, hleast⟩ := (relativeSpecifier_shortest dir).1 target htarget
  exact ⟨htarget, hs, by decide, hback, hleast s hs⟩

end Path

end Transplant
