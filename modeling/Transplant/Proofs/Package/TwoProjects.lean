import Transplant.Proofs.Source.Gaps
import Transplant.Proofs.Transplantation.OnePass

/-! The packages of one source pointed into two projects. What is pointed, below which of a project's
aliases, and by what path, can be seen from the specifier. The settings of a project say no more than
how that alias is written, so that the two results differ in nothing else. -/
namespace Transplant
open Source

/-- An alias that packages are pointed to. -/
inductive Anchor where
  | components
  | lib
deriving DecidableEq, Repr

/-- How a project writes an alias. -/
def Aliases.get (a : Aliases) : Anchor → Text
  | .components => a.components
  | .lib => a.lib

/-- The alias that a subpackage lies below, and its path from there. -/
def Subpackage.anchor : Subpackage → Anchor × Text
  | .library l => (.lib, '/' :: l.name.toList)
  | .uiInterfaces => (.components, [])
  | .uiForm => (.components, "/vform".toList)

theorem Subpackage.base_eq_anchor (a : Aliases) (p : Subpackage) :
    p.base a = a.get p.anchor.1 ++ p.anchor.2 := by
  cases p with
  | library l => rfl
  | uiInterfaces => exact (List.append_nil _).symm
  | uiForm => rfl

namespace Package

/-- The alias that a package import is pointed to, whatever the project, and what is put behind it. -/
def anchored? (specifier : Text) : Option (Anchor × Text) := do
  let (p, rest) ← subpackageAndPath? (← belowScope? specifier)
  return (p.anchor.1, p.anchor.2 ++ if rest = [] then [] else '/' :: rest)

/-- The place of a package is the alias, as the project writes it, and a path that no project has a
say in. -/
theorem resolve?_eq_anchored (a : Aliases) (s : Text) :
    resolve? a s = (anchored? s).map fun (k, path) => a.get k ++ path := by
  cases hb : belowScope? s with
  | none => simp [resolve?, anchored?, hb]
  | some path =>
    cases hp : subpackageAndPath? path with
    | none => simp [resolve?, anchored?, hb, hp]
    | some found =>
      obtain ⟨p, rest⟩ := found
      by_cases hrest : rest = [] <;>
        simp [resolve?, anchored?, hb, hp, hrest, Subpackage.base_eq_anchor]

/-- The specifier that an import has once its package is pointed into a project. -/
def pointed (a : Aliases) (i : Import) : Text := (resolve? a i.specifier).getD i.specifier

theorem pointed_congr {a₁ a₂ : Aliases} {i : Import}
    (h : ∀ e ∈ anchored? i.specifier, a₁.get e.1 = a₂.get e.1) : pointed a₁ i = pointed a₂ i := by
  rw [pointed, pointed, resolve?_eq_anchored, resolve?_eq_anchored]
  cases he : anchored? i.specifier with
  | none => rfl
  | some e => simp [h e he]

/-- A source has the same gaps in every project that its packages are pointed into. In any two, each
specifier is kept in both, or else an alias takes its place in both, the same one of either project,
with the same path behind it. An alias that no import is pointed to makes no difference, and no other
setting does. -/
theorem mapImports_two_projects (content : Text) : ∃ (slots : List Slot) (last : Text),
    slots.map (·.found) = imports content ∧ content = Slot.write (·.specifier) slots ++ last ∧
      ∀ c₁ c₂ : Config,
        mapImports c₁.aliases content = Slot.write (pointed c₁.aliases) slots ++ last ∧
        mapImports c₂.aliases content = Slot.write (pointed c₂.aliases) slots ++ last ∧
        (∀ i ∈ imports content,
          (resolve? c₁.aliases i.specifier = none ∧ resolve? c₂.aliases i.specifier = none ∧
            pointed c₁.aliases i = i.specifier ∧ pointed c₂.aliases i = i.specifier) ∨
          ∃ k path, resolve? c₁.aliases i.specifier = some (pointed c₁.aliases i) ∧
            resolve? c₂.aliases i.specifier = some (pointed c₂.aliases i) ∧
              pointed c₁.aliases i = c₁.aliases.get k ++ path ∧
                pointed c₂.aliases i = c₂.aliases.get k ++ path) ∧
        ((∀ i ∈ imports content, ∀ e ∈ anchored? i.specifier,
            c₁.aliases.get e.1 = c₂.aliases.get e.1) →
          mapImports c₁.aliases content = mapImports c₂.aliases content) := by
  obtain ⟨slots, last, hfound, hself, hmap, -, -⟩ := exists_slots content
  have hwrite (a : Aliases) : mapImports a content = Slot.write (pointed a) slots ++ last := by
    rw [Transplantation.mapImports_packages, hmap]
    rfl
  refine ⟨slots, last, hfound, hself, fun c₁ c₂ => ⟨hwrite _, hwrite _, fun i hi => ?_, fun h => ?_⟩⟩
  · cases he : anchored? i.specifier with
    | none => exact .inl (by simp [pointed, resolve?_eq_anchored, he])
    | some e => exact .inr ⟨e.1, e.2, by simp [pointed, resolve?_eq_anchored, he]⟩
  · rw [Transplantation.mapImports_packages, Transplantation.mapImports_packages]
    exact mapSpecifiers_congr fun i hi => pointed_congr (h i hi)

/-- Two projects that have their libraries at different places, and a source without libraries. -/
theorem mapImports_two_projects_same_components :
    let c₁ : Config := Config.standard.withAliases "~/ui".toList "~/lib".toList
    let c₂ : Config := { Config.standard.withAliases "~/ui".toList "#/shared".toList with tsx := false }
    let content := "import { A } from '@microbuild/ui-form//A'\nexport * from './types'\n".toList
    (∀ i ∈ imports content, ∀ e ∈ anchored? i.specifier,
      c₁.aliases.get e.1 = c₂.aliases.get e.1) ∧
      mapImports c₁.aliases content = mapImports c₂.aliases content ∧
        mapImports c₂.aliases content =
          "import { A } from '~/ui/vform//A'\nexport * from './types'\n".toList := by
  intro c₁ c₂ content
  have hsame : ∀ i ∈ imports content, ∀ e ∈ anchored? i.specifier,
      c₁.aliases.get e.1 = c₂.aliases.get e.1 := by decide +kernel
  obtain ⟨_, _, -, -, h⟩ := mapImports_two_projects content
  exact ⟨hsame, (h c₁ c₂).2.2.2 hsame, by decide +kernel⟩

end Package

end Transplant
