import Transplant.Proofs.FileCasing.Settled
import Transplant.Proofs.Transplantation.OnePass

/-! Putting file names into kebab case a second time. It changes nothing, unless a file has become the
`index` of a directory in Pascal case, whose name is then the one that counts. -/
namespace Transplant.FileCasing
open Source

variable {content r s : Text} {kind : ImportKind}

/-- A specifier in which a comment cannot end, nor a clause behind the comment. -/
structure IsQuiet (s : Text) : Prop where
  closes_none : ¬ "*/".toList <:+: s
  ends_none : ¬ "from".toList <:+ Text.dropEndWhile isBlank s

instance (s : Text) : Decidable (IsQuiet s) :=
  decidable_of_iff (Text.occursIn "*/".toList s = false ∧
      ¬ "from".toList <:+ Text.dropEndWhile isBlank s) <| by
    rw [← Bool.not_eq_true, Text.occursIn_iff]
    exact ⟨fun ⟨hclose, hend⟩ => ⟨hclose, hend⟩, fun ⟨hclose, hend⟩ => ⟨hclose, hend⟩⟩

/-- What a specifier becomes. -/
def renamed (s : Text) : Text := if Specifier.isRelative s then (specifier? s).getD s else s

theorem chosen_casing (i : Import) :
    i.chosen (Transplantation.casing false).onImports = renamed i.specifier := by
  simp only [Import.chosen, KindMapper.onImports, Transplantation.casing, renamed, and_true]
  split <;> rfl

theorem isSpecifier_renamed (hs : IsSpecifier s) : IsSpecifier (renamed s) := by
  rw [renamed]
  split
  · rename_i hrelative
    cases h : specifier? s with
    | none => exact hs
    | some r => exact isSpecifier_of_specifier? h hrelative hs
  · exact hs

/-- A specifier is changed a second time when it has been exposed. -/
theorem renamed_renamed_eq_iff :
    renamed (renamed s) = renamed s ↔ (Specifier.isRelative s → exposes s = false) := by
  have heq (t : Text) (h : Specifier.isRelative t) : renamed t = recased t := if_pos h
  by_cases hrelative : Specifier.isRelative s
  · rw [heq s hrelative, heq _ (isRelative_recased hrelative), recased_recased_eq_iff]
    simp [hrelative]
  · simp [renamed, hrelative]

theorem admits_casing (hquiet : ∀ i ∈ imports content, Specifier.isRelative i.specifier →
    ∀ r, specifier? i.specifier = some r → IsQuiet r) :
    (document content).Admits (Transplantation.casing false).onImports 0 := by
  intro i hi r hr
  have hs := isSpecifier_of_mem_imports hi
  simp only [KindMapper.onImports, Transplantation.casing, and_true] at hr
  split at hr
  · rename_i hrelative
    have hnew := isSpecifier_of_specifier? hr hrelative hs
    obtain ⟨hclose, hend⟩ := hquiet i hi hrelative r hr
    exact ⟨hnew, .of_closes_none hs.2 hnew.2 hclose (not_suffix_of_dropEndWhile hend)
      (opens_of_specifier? hr hrelative)⟩
  · cases hr

/-- A second pass over the file names changes nothing exactly if the source asks for its names to be
left alone, or no import exposes a directory. -/
theorem mapImports_mapImports_eq_iff (content : Text)
    (hquiet : ∀ i ∈ imports content, Specifier.isRelative i.specifier →
      ∀ r, specifier? i.specifier = some r → IsQuiet r) :
    mapImports (mapImports content) = mapImports content ↔ isPreserved content ∨
      ∀ i ∈ imports content, Specifier.isRelative i.specifier → exposes i.specifier = false := by
  cases hpreserved : isPreserved content with
  | true => simp [mapImports, hpreserved]
  | false =>
    have hadmits := admits_casing hquiet
    have hfirst : mapImports content =
        mapSpecifiers (Transplantation.casing false).onImports content := by
      rw [Transplantation.mapImports_casing, hpreserved]
    have hspecifiers := map_specifier_of_admits hadmits
    rw [← hfirst] at hspecifiers
    simp only [chosen_casing] at hspecifiers
    have hagain : isPreserved (mapImports content) = false := by
      rw [hfirst, isPreserved_of_admits hadmits, hpreserved]
    have hnew : ∀ i ∈ imports (mapImports content),
        IsSpecifier (i.chosen (Transplantation.casing false).onImports) := by
      intro i hi
      rw [chosen_casing]
      exact isSpecifier_renamed (isSpecifier_of_mem_imports hi)
    calc mapImports (mapImports content) = mapImports content
      _ ↔ ∀ i ∈ imports (mapImports content), renamed i.specifier = i.specifier := by
        rw [Transplantation.mapImports_casing, hagain, mapSpecifiers_eq_self_iff hnew]
        simp only [chosen_casing]
      _ ↔ ∀ s ∈ (imports (mapImports content)).map (·.specifier), renamed s = s := by
        rw [List.forall_mem_map]
      _ ↔ ∀ i ∈ imports content, renamed (renamed i.specifier) = renamed i.specifier := by
        rw [hspecifiers, List.forall_mem_map]
      _ ↔ false = true ∨ ∀ i ∈ imports content,
          Specifier.isRelative i.specifier → exposes i.specifier = false := by
        simp only [renamed_renamed_eq_iff, Bool.false_eq_true, false_or]

/-- An `index` behind a directory in lowercase, and one that is a directory itself. -/
theorem mapImports_mapImports_eq_iff_of_index :
    let content := "import '../Upload/Upload'\nexport * from './preview/Index'\nimport './Index/index'\n".toList
    (∀ i ∈ imports content, Specifier.isRelative i.specifier →
      ∀ r, specifier? i.specifier = some r → IsQuiet r) ∧
    (mapImports (mapImports content) = mapImports content ↔ isPreserved content ∨
      ∀ i ∈ imports content, Specifier.isRelative i.specifier → exposes i.specifier = false) ∧
    mapImports content = "import './upload'\nexport * from './preview/index'\nimport './index/index'\n".toList ∧
    mapImports (mapImports content) = mapImports content := by
  intro content
  have hall : ∀ i ∈ imports content, ∀ r ∈ specifier? i.specifier, IsQuiet r := by
    decide +kernel
  have hquiet : ∀ i ∈ imports content, Specifier.isRelative i.specifier →
      ∀ r, specifier? i.specifier = some r → IsQuiet r := fun i hi _ r hr => hall i hi r hr
  have hexposes : ∀ i ∈ imports content, exposes i.specifier = false := by
    decide +kernel
  have hiff := mapImports_mapImports_eq_iff content hquiet
  exact ⟨hquiet, hiff, by decide +kernel, hiff.2 (.inr fun i hi _ => hexposes i hi)⟩

/-- The directory `Foo` is exposed by the first pass, and changed by the second. -/
theorem mapImports_mapImports_ne_of_exposed :
    let content := "import './Foo/Index'\n".toList
    mapImports content = "import './Foo/index'\n".toList ∧
      mapImports (mapImports content) = "import './foo/index'\n".toList ∧
        mapImports (mapImports content) ≠ mapImports content := by
  decide +kernel

-- A name that has become `from` leads a comment to the quote behind it.
example : let content := "import // from './From'./Foo'\n".toList
    mapImports (mapImports content) ≠ mapImports content := by
  decide +kernel

-- A comment may end in a specifier, and what follows it must not become part of a clause.
example : let content := "import /*\nimport './a*/../b//X/X'\nz from './Foo'\n".toList
    mapImports (mapImports content) ≠ mapImports content := by
  decide +kernel

end Transplant.FileCasing
