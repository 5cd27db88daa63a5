import Transplant.Proofs.FileCasing.Specifier

/-! Putting the file name of one specifier into kebab case again and again. The first time settles it, unless
the name becomes `index`: then the directory in front of it is the file, and the second time settles it. -/
namespace Transplant.FileCasing
open Casing

variable {name r s : Text}

/-- What a specifier becomes. -/
def recased (s : Text) : Text := (specifier? s).getD s

theorem recased_of_eq_none (h : specifier? s = none) : recased s = s := by
  rw [recased, h]
  rfl

theorem recased_of_eq_some (h : specifier? s = some r) : recased s = r := by
  rw [recased, h]
  rfl

theorem recased_eq_self_iff : recased s = s ↔ specifier? s = none := by
  constructor
  · intro hself
    cases h : specifier? s with
    | none => rfl
    | some r =>
      rw [recased_of_eq_some h] at hself
      subst hself
      exact absurd h specifier?_ne_self
  · exact recased_of_eq_none

theorem isRelative_recased (hrelative : Specifier.isRelative s) :
    Specifier.isRelative (recased s) := by
  cases h : specifier? s with
  | none => rwa [recased_of_eq_none h]
  | some r =>
    rw [recased_of_eq_some h]
    exact isRelative_of_specifier? h hrelative

/-- The second time changes something just if a directory has been exposed. -/
theorem recased_recased_eq_iff : recased (recased s) = recased s ↔ exposes s = false := by
  rw [recased_eq_self_iff]
  cases h : specifier? s with
  | none => simp [recased_of_eq_none h, h, exposes_eq_false_of_specifier?_eq_none h]
  | some r => rw [recased_of_eq_some h, specifier?_eq_none_iff_of_specifier? h]

/-- Only a whole name in Pascal case can become `index`, which has no point. -/
theorem eq_index_of_kebabName (h : kebabName name = index) :
    name = stem name ∧ toKebab (stem name) = index := by
  have hext : extension name = [] := by
    rcases head?_extension name with hnil | hpoint
    · exact hnil
    · obtain ⟨e, he⟩ := List.head?_eq_some_iff.1 hpoint
      have hmem : '.' ∈ index := by
        rw [← h, kebabName, he]
        simp
      exact absurd hmem (by decide)
  have happend : stem name ++ extension name = name := List.takeWhile_append_dropWhile
  rw [hext, List.append_nil] at happend
  rw [kebabName, hext, List.append_nil] at h
  exact ⟨happend.symm, h⟩

theorem exists_of_exposes (h : exposes s) : ∃ dirs name, s.split '/' = dirs ++ [name] ∧
    isPascal (stem name) ∧ kebabName name = index := by
  obtain ⟨dirs, name, hs⟩ := Text.exists_split_concat '/' s
  rw [exposes_eq hs] at h
  simp only [Bool.and_eq_true, beq_iff_eq] at h
  exact ⟨dirs, name, hs, h.1.1⟩

/-- What exposes a directory ends in `index` from then on. -/
theorem exposes_recased (h : exposes s) : exposes (recased s) = false := by
  obtain ⟨dirs, name, hs, hpascal, hindex⟩ := exists_of_exposes h
  have hne : name ≠ index := by
    rintro rfl
    cases hpascal
  have hsplit : splitIndex (s.split '/') = (dirs ++ [name], []) := by
    rw [hs]
    apply splitIndex_concat
    rintro ⟨-, hname⟩
    exact hne hname
  have hsome := specifier?_eq hs hsplit
  rw [if_pos hpascal] at hsome
  rw [recased_of_eq_some hsome]
  apply exposes_of_index
  rw [split_join_new hs hpascal, hindex]

/-- A specifier settles after two times, and after one exactly if no directory is exposed, as is sure
unless its last part is a name in Pascal case that becomes `index`. What is written for a specifier
is another one, and relative if that was. -/
theorem recased_settles (s : Text) :
    recased (recased (recased s)) = recased (recased s) ∧
      (recased (recased s) = recased s ↔ exposes s = false) ∧
      (∀ name, (s.split '/').getLast? = some name → ¬ (isPascal name ∧ toKebab name = index) →
        recased (recased s) = recased s) ∧
      (∀ r, specifier? s = some r → r ≠ s) ∧
      (Specifier.isRelative s → Specifier.isRelative (recased s) ∧
        Specifier.classify (recased s) = Specifier.classify s) := by
  refine ⟨?_, recased_recased_eq_iff, ?_, ?_, ?_⟩
  · cases h : exposes s with
    | false =>
      have honce := recased_recased_eq_iff.2 h
      rw [honce, honce]
    | true => exact recased_recased_eq_iff.2 (exposes_recased h)
  · intro name hlast hnot
    rw [recased_recased_eq_iff, ← Bool.not_eq_true]
    intro h
    obtain ⟨dirs, name', hs, hpascal, hindex⟩ := exists_of_exposes h
    obtain rfl : name' = name := by
      rw [hs, List.getLast?_concat] at hlast
      exact Option.some.inj hlast
    obtain ⟨hstem, hkebab⟩ := eq_index_of_kebabName hindex
    rw [← hstem] at hpascal hkebab
    exact hnot ⟨hpascal, hkebab⟩
  · rintro r h rfl
    exact specifier?_ne_self h
  · intro hrelative
    have hstill := isRelative_recased hrelative
    refine ⟨hstill, ?_⟩
    rw [Specifier.classify_eq_relative_iff.2 hstill, Specifier.classify_eq_relative_iff.2 hrelative]

/-- It does take two times where a file becomes the `index` of a directory in Pascal case. -/
theorem recased_settles_second_time :
    let s := "./Foo/Index".toList
    recased s = "./Foo/index".toList ∧ recased (recased s) = "./foo/index".toList ∧
      recased (recased (recased s)) = "./foo/index".toList ∧
        Specifier.classify (recased s) = .relative := by
  intro s
  have htwice : recased (recased s) = "./foo/index".toList := by decide
  obtain ⟨hthird, -, -, -, hrelative⟩ := recased_settles s
  exact ⟨by decide, htwice, hthird.trans htwice, (hrelative (by decide)).2⟩

end Transplant.FileCasing
