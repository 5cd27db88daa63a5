import Transplant.Proofs.FileCasing.Specifier
import Transplant.Proofs.Path.Reduced
import Transplant.Proofs.Relocation.SameFile

/-! What a relocation writes, and what it keeps. The specifier that it writes is the canonical one to
where the file lies after the move. A spelling that it keeps makes no detour if nothing is left of it
but the canonical one when what cancels out is dropped, and then it leads to the right file. -/
namespace Transplant

variable {m : Relocation} {s : Text} {dir : List Text} {p : Position}

namespace Path

theorem isRelative_specifierOf (k : Nat) (names : List Text) :
    Specifier.isRelative (specifierOf k names) := by
  have hjoin (d : Text) (hd : d = ['.'] ∨ d = ['.', '.']) (parts : List Text) :
      Specifier.isRelative (Text.join '/' (d :: parts)) := by
    cases parts with
    | nil => rcases hd with rfl | rfl <;> decide
    | cons part parts =>
      rw [Text.join_cons_cons]
      rcases hd with rfl | rfl <;> rfl
  rw [specifierOf_eq, dots]
  split
  · exact hjoin _ (.inl rfl) names
  · obtain ⟨n, rfl⟩ := Nat.exists_eq_succ_of_ne_zero ‹_›
    rw [List.replicate_succ, List.cons_append]
    exact hjoin _ (.inr rfl) _

theorem isRelative_relativeSpecifier (dir : List Text) (p : Position) :
    Specifier.isRelative (relativeSpecifier dir p) := by
  obtain ⟨k, names, hk, -⟩ := exists_relativeSpecifier dir p
  rw [hk]
  exact isRelative_specifierOf k names

/-- A specifier that reduces to its canonical form makes no detour. -/
theorem detour_eq_nil (h : reduced (s.split '/') =
    ((relativeSpecifier dir (resolve dir s)).split '/').erase ['.']) : detour dir s = [] := by
  have hnames : ∀ a ∈ (resolve [] s).segments, IsName a := isName_of_mem_resolve (by simp) s
  rw [reduced_split, relativeSpecifier_resolve,
    split_specifierOf_erase fun a ha => hnames a (List.mem_of_mem_drop ha)] at h
  have hups := length_detour_le dir s
  have hsegments := (detour_isPrefix dir s).2.length_le
  -- Along the detour there are as many levels to climb as names, and the canonical form has neither.
  have hlength := congrArg List.length h
  simp only [List.length_append, List.length_replicate, List.length_drop] at hlength
  exact List.length_eq_zero_iff.1 (by omega)

end Path

namespace Relocation
open Transplant.Path

/-- What is written anew is the canonical specifier from the new directory to where the file lies
after the move: it is relative, differs from the canonical one before, and leads there. What is kept
leads there as well, if it reduces to the canonical specifier before. -/
theorem specifier?_canonical (hm : m.Named) (s : Text) :
    let before := resolve m.source s
    (∀ r, m.specifier? s = some r → r = relativeSpecifier m.dest (m.target before) ∧
      Specifier.isRelative r ∧ r ≠ relativeSpecifier m.source before ∧
        resolve m.dest r = m.target before) ∧
      (m.specifier? s = none →
        reduced (s.split '/') = ((relativeSpecifier m.source before).split '/').erase ['.'] →
          resolve m.dest s = m.target before) := by
  intro before
  constructor
  · intro r hr
    have hresolve := resolve_of_specifier?_eq_some hm hr
    simp only [specifier?] at hr
    split at hr
    · cases hr
    · rename_i hne
      obtain rfl := Option.some.inj hr
      exact ⟨rfl, isRelative_relativeSpecifier _ _, hne, hresolve⟩
  · intro hnone hreduced
    rw [resolve_of_specifier?_eq_none_iff hm hnone, detour_eq_nil hreduced]
    exact List.nil_prefix

/-- One specifier that is written anew, and one that is kept although it can be reduced. -/
theorem specifier?_canonical_sibling :
    let m : Relocation := ⟨["forms".toList, "upload".toList], ["forms".toList, "files".toList]⟩
    let anew : Text := "../files/./types".toList
    let kept : Text := "./x/..//../types".toList
    m.Named ∧ m.specifier? anew = some "./types".toList ∧
      resolve m.dest "./types".toList = m.target (resolve m.source anew) ∧
        m.specifier? kept = none ∧ reduced (kept.split '/') =
          ((relativeSpecifier m.source (resolve m.source kept)).split '/').erase ['.'] ∧
            resolve m.dest kept = m.target (resolve m.source kept) := by
  intro m anew kept
  have hname : ∀ a ∈ m.source ++ m.dest, IsName a := by
    intro a ha
    simp only [m, List.cons_append, List.nil_append, List.mem_cons, List.not_mem_nil, or_false] at ha
    rcases ha with rfl | rfl | rfl | rfl <;> exact ⟨by decide, by decide, by decide, by decide⟩
  have hm : m.Named :=
    ⟨fun a ha => hname a (List.mem_append_left _ ha), fun a ha => hname a (List.mem_append_right _ ha)⟩
  have hanew : m.specifier? anew = some "./types".toList := by decide
  have hkept : m.specifier? kept = none := by decide
  have hreduced : reduced (kept.split '/') =
      ((relativeSpecifier m.source (resolve m.source kept)).split '/').erase ['.'] := by decide
  exact ⟨hm, hanew, ((specifier?_canonical hm anew).1 _ hanew).2.2.2, hkept, hreduced,
    (specifier?_canonical hm kept).2 hkept hreduced⟩

end Relocation

end Transplant
