import Transplant.Proofs.Text.Lines
import Transplant.Proofs.Transplantation.OnePass

/-! Packages that have been pointed into a project stay where they are. The path in a package is
taken over as it is, with whatever comments it may open or close, and the imports behind it are
found nevertheless, because the alias in front of the path does as little in a comment as the name
of a package does. -/
namespace Transplant

variable {a : Aliases} {c : Config} {b content place r s : Text}

/-- An alias that packages can be pointed to for good. It is none of them, and in a specifier it does
not end a comment, open one, or end in `from`. -/
structure IsPlace (place : Text) : Prop where
  not_scoped : Specifier.isScoped place = false
  inSpecifier : ∀ c ∈ place, Source.inSpecifier c
  no_star : '*' ∉ place
  ends_none : ¬ "from".toList <:+ Text.dropEndWhile Source.isBlank place

instance (place : Text) : Decidable (IsPlace place) :=
  decidable_of_iff (Specifier.isScoped place = false ∧ (∀ c ∈ place, Source.inSpecifier c) ∧
      '*' ∉ place ∧ ¬ "from".toList <:+ Text.dropEndWhile Source.isBlank place)
    ⟨fun ⟨hscoped, hin, hstar, hend⟩ => ⟨hscoped, hin, hstar, hend⟩,
      fun ⟨hscoped, hin, hstar, hend⟩ => ⟨hscoped, hin, hstar, hend⟩⟩

namespace Source

/-- A name behind a slash leaves nothing to see of what stands in front. -/
theorem inert_append_slash (hs : ∀ c ∈ s, inSpecifier c) (hstar : '*' ∉ s) (hb : Inert b)
    (hstar' : '*' ∉ b) : Inert (s ++ '/' :: b) := by
  apply Inert.of_no_star
  · intro c hc
    rcases List.mem_append.1 hc with hc | hc
    · exact hs c hc
    · rcases List.mem_cons.1 hc with rfl | hc
      · decide
      · exact hb.inSpecifier c hc
  · simp [hstar, hstar']
  · intro d hd hsuffix
    have hslash : '/' ∉ "from".toList ++ d := by
      intro h
      rcases List.mem_append.1 h with h | h
      · exact absurd h (by decide)
      · exact absurd (hd _ h) (by decide)
    exact hb.ends_none d hd (Text.suffix_of_suffix_append_cons hslash hsuffix)

end Source

open Source

theorem IsPlace.inert (h : IsPlace place) : Inert place :=
  .of_no_star h.inSpecifier h.no_star (not_suffix_of_dropEndWhile h.ends_none)

theorem Specifier.isScoped_append_slash (h : isScoped s = false) (b : Text) :
    isScoped (s ++ '/' :: b) = false := by
  rw [← Bool.not_eq_true, isScoped_iff, not_or, not_exists] at h ⊢
  have hscope : '/' ∉ scope := by decide
  refine ⟨fun he => hscope (he ▸ by simp), fun r he => ?_⟩
  rcases List.append_eq_append_iff.1 he with ⟨x, hx, hb⟩ | ⟨x, hx, hb⟩
  · cases x with
    | nil => exact h.1 (by simpa using hx.symm)
    | cons d x =>
      obtain ⟨rfl, -⟩ := List.cons.inj hb
      exact hscope (by simp [hx])
  · cases x with
    | nil => exact h.1 (by simpa using hx)
    | cons d x =>
      obtain ⟨rfl, -⟩ := List.cons.inj hb
      exact h.2 x hx

namespace Package

section
variable (hc : IsPlace a.components) (hl : IsPlace a.lib)
include hc hl

theorem inert_base (p : Subpackage) : Inert (p.base a) ∧ '*' ∉ p.base a := by
  have hname (l : Library) : Clean l.name.toList := by
    cases l <;> decide
  have hform : Clean "vform".toList := by decide
  cases p with
  | library l =>
    exact ⟨inert_append_slash hl.inSpecifier hl.no_star (hname l).inert (hname l).no_star,
      by simp [Subpackage.base, hl.no_star, (hname l).no_star]⟩
  | uiInterfaces => exact ⟨hc.inert, hc.no_star⟩
  | uiForm =>
    exact ⟨inert_append_slash hc.inSpecifier hc.no_star hform.inert hform.no_star,
      by simp [Subpackage.base, hc.no_star]⟩

theorem isScoped_base (p : Subpackage) : Specifier.isScoped (p.base a) = false := by
  cases p with
  | library l => exact Specifier.isScoped_append_slash hl.not_scoped _
  | uiInterfaces => exact hc.not_scoped
  | uiForm => exact Specifier.isScoped_append_slash hc.not_scoped _

/-- Where a package points to is no package. -/
theorem isScoped_of_resolve?_eq_some (h : resolve? a s = some r) : Specifier.isScoped r = false := by
  obtain ⟨path, p, rest, -, -, rfl⟩ := resolve?_eq_some h
  split
  · exact isScoped_base hc hl p
  · exact Specifier.isScoped_append_slash (isScoped_base hc hl p) rest

end

theorem resolve?_eq_none (h : Specifier.isScoped s = false) : resolve? a s = none := by
  cases hr : resolve? a s with
  | none => rfl
  | some r =>
    rw [isScoped_of_resolve? hr] at h
    cases h

/-- The name of a package and the path in it, which may be empty. -/
theorem subpackageAndPath?_eq_some {path rest : Text} {p : Subpackage}
    (h : subpackageAndPath? path = some (p, rest)) : ∃ name, Subpackage.ofName? name = some p ∧
      (path = name ∧ rest = [] ∨ path = name ++ '/' :: rest) := by
  obtain ⟨p', hp, he⟩ := Option.map_eq_some_iff.1 h
  obtain ⟨rfl, rfl⟩ := Prod.mk.inj he
  refine ⟨_, hp, ?_⟩
  cases hsplit : path.splitFirst? '/' with
  | none => exact .inl ⟨rfl, rfl⟩
  | some parts => exact .inr (Text.splitFirst?_eq_some_iff.1 hsplit).1

theorem star_not_mem_of_ofName? {name : Text} {p : Subpackage}
    (h : Subpackage.ofName? name = some p) : '*' ∉ name := by
  obtain ⟨entry, hfind, -⟩ := Option.map_eq_some_iff.1 h
  have hname : entry.1.toList = name := by simpa using List.find?_some hfind
  have hall : ∀ entry ∈ Subpackage.all, '*' ∉ entry.1.toList := by decide
  exact hname ▸ hall entry (List.mem_of_find?_eq_some hfind)

theorem getLast?_base_ne (hc : a.components.getLast? ≠ some '/') (p : Subpackage) :
    (p.base a).getLast? ≠ some '/' := by
  cases p with
  | library l => cases l <;> simp [Subpackage.base, Library.name]
  | uiInterfaces => exact hc
  | uiForm => simp [Subpackage.base]

/-- What has no place though it is imported from the scope: the scope itself, and packages that are not
known. -/
theorem isScoped_and_resolve?_eq_none_iff :
    Specifier.isScoped s ∧ resolve? a s = none ↔ s = Specifier.scope ∨
      ∃ path, s = Specifier.scope ++ '/' :: path ∧ subpackageAndPath? path = none := by
  have hscope : resolve? a Specifier.scope = none := rfl
  have hpath (path : Text) : resolve? a (Specifier.scope ++ '/' :: path) = none ↔
      subpackageAndPath? path = none := by
    have hbelow : belowScope? (Specifier.scope ++ '/' :: path) = some path :=
      belowScope?_eq_some_iff.2 rfl
    cases hp : subpackageAndPath? path <;> simp [resolve?, hbelow, hp]
  rw [Specifier.isScoped_iff]
  constructor
  · rintro ⟨rfl | ⟨path, rfl⟩, hnone⟩
    · exact .inl rfl
    · exact .inr ⟨path, rfl, (hpath path).1 hnone⟩
  · rintro (rfl | ⟨path, rfl, hnone⟩)
    · exact ⟨.inl rfl, hscope⟩
    · exact ⟨.inr ⟨path, rfl⟩, (hpath path).2 hnone⟩

/-- A path begins with the name of its subpackage. -/
theorem map_subpackageAndPath? (path : Text) :
    (subpackageAndPath? path).map (·.1) = (path.split '/').head?.bind Subpackage.ofName? := by
  simp [Text.head?_split, subpackageAndPath?, Function.comp_def]

theorem library?_eq_none (h : resolve? a s = none) : library? s = none := by
  cases hb : belowScope? s with
  | none => simp [library?, hb]
  | some path =>
    have hp : subpackageAndPath? path = none := by
      cases hp : subpackageAndPath? path with
      | none => rfl
      | some found => simp [resolve?, hb, hp] at h
    obtain ⟨name, hname⟩ : ∃ name, (path.split '/').head? = some name := ⟨_, Text.head?_split '/' path⟩
    have hnone : Subpackage.ofName? name = none := by
      have hmap := map_subpackageAndPath? path
      rw [hp, hname] at hmap
      exact hmap.symm
    simp [library?, hb, hname, hnone]

theorem resolve?_getD (hc : IsPlace a.components) (hl : IsPlace a.lib) (s : Text) :
    resolve? a ((resolve? a s).getD s) = none := by
  cases h : resolve? a s with
  | none => exact h
  | some r => exact resolve?_eq_none (isScoped_of_resolve?_eq_some hc hl h)

/-- The place that a package is pointed to can stand where the package stood. -/
theorem substitute_of_resolve? (hvalid : c.validate = .ok c) (hc : IsPlace c.aliases.components)
    (hl : IsPlace c.aliases.lib) (hs : IsSpecifier s) (h : resolve? c.aliases s = some r) :
    IsSpecifier r ∧ Substitute s r := by
  obtain ⟨path, p, rest, rfl, hp, rfl⟩ := resolve?_eq_some h
  obtain ⟨hinert, hstar⟩ := inert_base hc hl p
  have hne : p.base c.aliases ≠ [] := base_ne_nil (Transplantation.components_ne_nil hvalid) p
  split
  · exact ⟨hinert.isSpecifier hne, hinert.substitute hs.2⟩
  · rename_i hrest
    obtain ⟨name, hname, ⟨-, hnil⟩ | rfl⟩ := subpackageAndPath?_eq_some hp
    · exact absurd hnil hrest
    have hsplit : Specifier.scope ++ '/' :: (name ++ '/' :: rest) =
        Specifier.scope ++ '/' :: name ++ '/' :: rest := by simp
    rw [hsplit] at hs ⊢
    have hin : ∀ d ∈ '/' :: rest, Source.inSpecifier d := fun d hd =>
      hs.2 d (List.mem_append_right _ hd)
    have hold : '*' ∉ Specifier.scope ++ '/' :: name := by
      have hscope : '*' ∉ Specifier.scope := by decide
      simp [hscope, star_not_mem_of_ofName? hname]
    have hlast := getLast?_base_ne (Transplantation.usable_of_validate hvalid).1.2 p
    refine ⟨⟨by simp, fun d hd => ?_⟩, ?_⟩
    · rcases List.mem_append.1 hd with hd | hd
      · exact hinert.inSpecifier d hd
      · exact hin d hd
    · exact .append_slash (fun d hd => hs.2 d (List.mem_append_left _ hd)) hinert.inSpecifier
        (fun d hd => hin d (List.mem_cons_of_mem _ hd)) hold hstar hlast

theorem admits_packages (hvalid : c.validate = .ok c) (hc : IsPlace c.aliases.components)
    (hl : IsPlace c.aliases.lib) (content : Text) :
    (document content).Admits (Transplantation.packages c.aliases).onImports 0 :=
  fun _ hi _ hr => substitute_of_resolve? hvalid hc hl (isSpecifier_of_mem_imports hi) hr

/-- Nothing is left to be pointed when no import has a place. -/
theorem mapImports_eq_self (h : ∀ i ∈ imports content, resolve? a i.specifier = none) :
    mapImports a content = content := by
  rw [Transplantation.mapImports_packages]
  conv => rhs; rw [← mapSpecifiers_none content]
  apply mapSpecifiers_congr
  intro i hi
  simp [Import.chosen, KindMapper.onImports, Transplantation.packages, h i hi]

/-- A library is required by the imports that have a place in it. -/
theorem requiredLibs_eq_empty (h : ∀ i ∈ imports content, resolve? a i.specifier = none) :
    requiredLibs content = ∅ := by
  have hlibraries : (imports content).filterMap
      (fun i => (library? i.specifier).map (·.name.toList)) = [] := by
    apply List.filterMap_eq_nil_iff.2
    intro i hi
    rw [library?_eq_none (h i hi)]
    rfl
  rw [requiredLibs, hlibraries]
  rfl

section
variable (hvalid : c.validate = .ok c) (hc : IsPlace c.aliases.components)
  (hl : IsPlace c.aliases.lib)
include hvalid hc hl

/-- The same imports are found, each package in its place. -/
theorem map_imports_mapImports (content : Text) :
    (imports (mapImports c.aliases content)).map (fun i => (i.kind, i.specifier)) =
      (imports content).map (fun i =>
        (i.kind, (resolve? c.aliases i.specifier).getD i.specifier)) := by
  rw [Transplantation.mapImports_packages,
    map_imports_of_admits (admits_packages hvalid hc hl content)]
  rfl

theorem exists_specifier_mapImports_iff (content s : Text) :
    (∃ i ∈ imports (mapImports c.aliases content), i.specifier = s) ↔
      ∃ i ∈ imports content, (resolve? c.aliases i.specifier).getD i.specifier = s := by
  rw [← List.mem_map, Transplantation.mapImports_packages,
    map_specifier_of_admits (admits_packages hvalid hc hl content), List.mem_map]
  rfl

/-- No import of what has been pointed has a place any more. -/
theorem resolve?_of_mem_imports_mapImports {i : Import}
    (hi : i ∈ imports (mapImports c.aliases content)) :
    resolve? c.aliases i.specifier = none := by
  obtain ⟨j, -, hj⟩ :=
    (exists_specifier_mapImports_iff hvalid hc hl content i.specifier).1 ⟨i, hi, rfl⟩
  rw [← hj]
  exact resolve?_getD hc hl j.specifier

/-- What is imported from the scope afterwards had no place before. -/
theorem importsScope_mapImports_iff (content : Text) :
    importsScope (mapImports c.aliases content) ↔
      ∃ i ∈ imports content, Specifier.isScoped i.specifier ∧
        resolve? c.aliases i.specifier = none := by
  have hspecifiers := exists_specifier_mapImports_iff hvalid hc hl content
  rw [importsScope, List.any_eq_true]
  constructor
  · rintro ⟨i, hi, hscoped⟩
    obtain ⟨j, hj, he⟩ := (hspecifiers i.specifier).1 ⟨i, hi, rfl⟩
    refine ⟨j, hj, ?_⟩
    cases hr : resolve? c.aliases j.specifier with
    | none =>
      rw [hr, Option.getD_none] at he
      exact ⟨he ▸ hscoped, rfl⟩
    | some r =>
      rw [hr, Option.getD_some] at he
      rw [← he, isScoped_of_resolve?_eq_some hc hl hr] at hscoped
      cases hscoped
  · rintro ⟨j, hj, hscoped, hr⟩
    obtain ⟨i, hi, he⟩ := (hspecifiers j.specifier).2 ⟨j, hj, by rw [hr, Option.getD_none]⟩
    exact ⟨i, hi, he ▸ hscoped⟩

end

/-- Packages are pointed into a project once and for all. The same imports are found, in order, each
package in its place; none of them points to a package that has a place, nor is a library required
any more; what is still imported from the scope has no place; and nothing is left to be pointed. -/
theorem mapImports_reaches_fixed_point (hvalid : c.validate = .ok c)
    (hc : IsPlace c.aliases.components) (hl : IsPlace c.aliases.lib) (content : Text) :
    let out := mapImports c.aliases content
    (imports out).map (fun i => (i.kind, i.specifier)) =
        (imports content).map (fun i =>
          (i.kind, (resolve? c.aliases i.specifier).getD i.specifier)) ∧
      (∀ i ∈ imports out, resolve? c.aliases i.specifier = none) ∧
      requiredLibs out = ∅ ∧
      (importsScope out ↔ ∃ i ∈ imports content, i.specifier = Specifier.scope ∨
        ∃ path, i.specifier = Specifier.scope ++ '/' :: path ∧ subpackageAndPath? path = none) ∧
      mapImports c.aliases out = out := by
  intro out
  have hnone : ∀ i ∈ imports out, resolve? c.aliases i.specifier = none :=
    fun _ hi => resolve?_of_mem_imports_mapImports hvalid hc hl hi
  have hscope := importsScope_mapImports_iff hvalid hc hl content
  simp only [isScoped_and_resolve?_eq_none_iff] at hscope
  exact ⟨map_imports_mapImports hvalid hc hl content, hnone, requiredLibs_eq_empty hnone, hscope,
    mapImports_eq_self hnone⟩

/-- A path that closes a comment and ends in `from`, a package in a comment, and one without a place. -/
theorem mapImports_reaches_fixed_point_past_comments :
    let c := Config.standard.withAliases "@from/ui".toList "@/lib".toList
    let content := ("import { A } from '@microbuild/types/*/ from'\n" ++
      "import /* '@microbuild/ui-form/*' */ B from '@microbuild/utils/'\n" ++
      "export * from '@microbuild/other'\n").toList
    let out := mapImports c.aliases content
    (c.validate = .ok c ∧ IsPlace c.aliases.components ∧ IsPlace c.aliases.lib) ∧
      ((imports out).map (fun i => (i.kind, i.specifier)) =
          (imports content).map (fun i =>
            (i.kind, (resolve? c.aliases i.specifier).getD i.specifier)) ∧
        (∀ i ∈ imports out, resolve? c.aliases i.specifier = none) ∧
        requiredLibs out = ∅ ∧
        (importsScope out ↔ ∃ i ∈ imports content, i.specifier = Specifier.scope ∨
          ∃ path, i.specifier = Specifier.scope ++ '/' :: path ∧ subpackageAndPath? path = none) ∧
        mapImports c.aliases out = out) ∧
      (imports out).map (·.specifier) =
        ["@/lib/types/*/ from".toList, "@/lib/utils".toList, "@microbuild/other".toList] := by
  intro c content out
  have hvalid : c.validate = .ok c := by rfl
  have hc : IsPlace c.aliases.components := by decide
  have hl : IsPlace c.aliases.lib := by decide
  exact ⟨⟨hvalid, hc, hl⟩, mapImports_reaches_fixed_point hvalid hc hl content, by decide +kernel⟩

end Package

end Transplant
