import Transplant.Proofs.Relocation.SameFile
import Transplant.Proofs.Source.Clean
import Transplant.Transplantation

/-! The stages of a transplantation as one change of the source. Each stage scans what the one
before it has written, and finds the same imports, because the places that packages and moved files
get are clean where the settings and the paths of the move are. -/
namespace Transplant

variable {a : Aliases} {c : Config} {d : Source.Document} {f : Source.Import → Option Text}
  {m : Relocation} {move : Option FileMove} {content s r : Text} {dir names : List Text} {n : Nat}

/-- The paths that a move is given by. -/
def FileMove.paths : FileMove → List Text
  | .components source dest | .vform source dest => [source, dest]

/-! What the stages put into specifiers -/

namespace Package

theorem resolve?_eq_some (h : resolve? a s = some r) :
    ∃ path p rest, s = Specifier.scope ++ '/' :: path ∧ subpackageAndPath? path = some (p, rest) ∧
      r = if rest = [] then p.base a else p.base a ++ '/' :: rest := by
  obtain ⟨path, hpath, hr⟩ := Option.bind_eq_some_iff.1 h
  obtain ⟨⟨p, rest⟩, hp, hr⟩ := Option.bind_eq_some_iff.1 hr
  exact ⟨path, p, rest, belowScope?_eq_some_iff.1 hpath, hp, (Option.some.inj hr).symm⟩

theorem isScoped_of_resolve? (h : resolve? a s = some r) : Specifier.isScoped s := by
  obtain ⟨path, -, -, hs, -⟩ := resolve?_eq_some h
  exact Specifier.isScoped_iff.2 (.inr ⟨path, hs⟩)

theorem base_ne_nil (hc : a.components ≠ []) (p : Subpackage) : p.base a ≠ [] := by
  cases p <;> simp [Subpackage.base, hc]

theorem resolve?_ne_nil (hne : a.components ≠ []) (h : resolve? a s = some r) : r ≠ [] := by
  obtain ⟨path, p, rest, -, -, rfl⟩ := resolve?_eq_some h
  split
  · exact base_ne_nil hne p
  · simp

end Package

namespace Path

theorem specifierOf_ne_nil (n : Nat) (names : List Text) : specifierOf n names ≠ [] := by
  have hjoin (part : Text) (parts : List Text) (hpart : part ≠ []) :
      Text.join '/' (part :: parts) ≠ [] := by
    cases parts <;> simp [Text.join, List.intercalate_cons_cons, hpart]
  cases n with
  | zero => exact hjoin _ _ (by decide)
  | succ n => exact hjoin _ _ (by decide)

theorem relativeSpecifier_ne_nil (dir : List Text) (p : Position) : relativeSpecifier dir p ≠ [] := by
  obtain ⟨k, names, hk, -⟩ := exists_relativeSpecifier dir p
  rw [hk]
  exact specifierOf_ne_nil k names

end Path

/-! What is put into specifiers is made of parts of the specifier, the aliases and the paths. -/

namespace Slashwise
open Transplant.Path
variable {P : Text → Prop} (hP : Slashwise P)
include hP

theorem base (hc : P a.components) (hl : P a.lib) (p : Subpackage) : P (p.base a) := by
  have hname (l : Library) : P l.name.toList :=
    hP.words l.name.toList (by cases l <;> decide)
  cases p with
  | library l => exact hP.append_slash.2 ⟨hl, hname l⟩
  | uiInterfaces => exact hc
  | uiForm => exact hP.append_slash.2 ⟨hc, hP.words "vform".toList (by decide)⟩

theorem of_resolve? (hc : P a.components) (hl : P a.lib) (hs : P s)
    (h : Package.resolve? a s = some r) : P r := by
  obtain ⟨path, p, rest, rfl, hp, rfl⟩ := Package.resolve?_eq_some h
  have hpath : P path := (hP.append_slash.1 hs).2
  have hrest : P rest := by
    obtain ⟨_, -, he⟩ := Option.map_eq_some_iff.1 hp
    cases he
    cases hfirst : Text.splitFirst? '/' path with
    | none => exact hP.nil
    | some parts =>
      obtain ⟨hsplit, -⟩ := Text.splitFirst?_eq_some_iff.1 hfirst
      rw [hsplit] at hpath
      exact (hP.append_slash.1 hpath).2
  split
  · exact hP.base hc hl p
  · exact hP.append_slash.2 ⟨hP.base hc hl p, hrest⟩

theorem specifierOf (h : ∀ a ∈ names, P a) (n : Nat) : P (specifierOf n names) := by
  rw [specifierOf_eq, hP.join_iff]
  intro a ha
  rcases List.mem_append.1 ha with hdots | ha
  · rcases mem_dots hdots with rfl | rfl
    · exact hP.dot
    · exact hP.dots
  · exact h a ha

theorem relativeSpecifier {p : Position} (h : ∀ a ∈ p.segments, P a) :
    P (relativeSpecifier dir p) := by
  obtain ⟨k, names, hk, hnames⟩ := exists_relativeSpecifier dir p
  rw [hk]
  exact hP.specifierOf (fun a ha => h a (hnames.subset ha)) k

theorem of_mem_path {path : Text} (h : P path) : ∀ a ∈ Path.split path, P a :=
  fun a ha => hP.of_mem_split (hP.slashed h) a (List.mem_filter.1 ha).1

theorem of_specifier? (hsource : ∀ a ∈ m.source, P a) (hdest : ∀ a ∈ m.dest, P a)
    (hs : P s) (h : m.specifier? s = some r) : P r := by
  have hbefore : ∀ a ∈ (resolve m.source s).segments, P a := by
    intro a ha
    rcases mem_segments_resolve ha with ha | ⟨ha, -⟩
    · exact hsource a ha
    · exact hP.of_mem_split hs a ha
  have htarget : ∀ a ∈ (m.target (resolve m.source s)).segments, P a := by
    rw [Relocation.target]
    split
    · intro a ha
      rcases List.mem_append.1 ha with ha | ha
      · exact hdest a ha
      · exact hbefore a (List.mem_of_mem_drop ha)
    · exact hbefore
  simp only [Relocation.specifier?] at h
  split at h
  · cases h
  · obtain rfl := Option.some.inj h
    exact hP.relativeSpecifier htarget

theorem ofPaths {source dest : Text} (root : DestinationRoot) (hs : P source) (hd : P dest) :
    (∀ a ∈ (Relocation.ofPaths source dest root).source, P a) ∧
      ∀ a ∈ (Relocation.ofPaths source dest root).dest, P a := by
  constructor <;> intro a ha
  · exact hP.of_mem_path hs a (List.dropLast_subset _ (Relocation.belowSource_subset _ ha))
  · exact hP.of_mem_path hd a (List.dropLast_subset _ (Relocation.belowRoot?_subset _ _ ha))

/-- A specifier that follows the move of a file. -/
theorem of_move {move : FileMove} {components : Text} (hm : ∀ path ∈ move.paths, P path) (hs : P s)
    (h : (move.relocation components).specifier? s = some r) : P r := by
  cases move with
  | components source dest | vform source dest =>
    obtain ⟨hsource, hdest⟩ := hP.ofPaths _
      (hm source (by simp [FileMove.paths])) (hm dest (by simp [FileMove.paths]))
    exact hP.of_specifier? hsource hdest hs h

end Slashwise

namespace Relocation

theorem specifier?_ne_nil (h : m.specifier? s = some r) : r ≠ [] := by
  simp only [specifier?] at h
  split at h
  · cases h
  · obtain rfl := Option.some.inj h
    exact Path.relativeSpecifier_ne_nil _ _

theorem specifier?_self (h : m.source = m.dest) : m.specifier? s = none := by
  simp [specifier?, target_self h, h]

end Relocation

namespace FileCasing
open Source

theorem head_mapSpecifiersFrom (f : Import → Option Text) (n : Nat) (d : Document) :
    head (d.mapSpecifiersFrom f n) = head d := by
  induction d generalizing n with
  | nil => rfl
  | cons x d ih =>
    cases x with
    | char c => simpa [Document.mapSpecifiersFrom, head] using ih _
    | statement st => simp [Document.mapSpecifiersFrom, head]

/-- A directive is found in a source as before when its specifiers have been changed. -/
theorem isPreserved_of_admits (hf : (document content).Admits f 0) :
    isPreserved (mapSpecifiers f content) = isPreserved content := by
  rw [isPreserved, document_of_admits hf, head_mapSpecifiersFrom, isPreserved]

theorem isPreserved_mapSpecifiers (hf : (document content).Settles f 0) :
    isPreserved (mapSpecifiers f content) = isPreserved content :=
  isPreserved_of_admits ((scanned true content).admits hf)

end FileCasing

namespace Transplantation
open Source

/-! The stages as mappers -/

/-- Points packages into a project. -/
def packages (a : Aliases) : KindMapper := fun _ s => Package.resolve? a s

/-- Follows a move, if there is one. -/
def moves (a : Aliases) (move : Option FileMove) : KindMapper := fun _ s =>
  move.bind fun m =>
    if Specifier.isRelative s then (m.relocation a.components).specifier? s else none

/-- Puts file names into kebab case, unless they are to be preserved. -/
def casing (preserved : Bool) : KindMapper := fun _ s =>
  if Specifier.isRelative s ∧ preserved = false then FileCasing.specifier? s else none

/-- A source whose packages and moved files have been given their places. -/
def placed (a : Aliases) (move : Option FileMove) (content : Text) : Text :=
  match move with
  | some m => (m.relocation a.components).mapImports (Package.mapImports a content)
  | none => Package.mapImports a content

theorem adapt_eq (a : Aliases) (move : Option FileMove) (content : Text) :
    adapt a move content = FileCasing.mapImports (placed a move content) := by
  cases move <;> rfl

theorem mapImports_packages (a : Aliases) (content : Text) :
    Package.mapImports a content = mapSpecifiers (packages a).onImports content := by
  apply mapSpecifiers_congr
  intro i _
  rw [Import.chosen, Import.chosen, KindMapper.onImports, packages]
  cases h : Package.resolve? a i.specifier with
  | none => simp
  | some r => simp [Specifier.classify_eq_package_iff, Package.isScoped_of_resolve? h]

theorem mapImports_moves (a : Aliases) (move : Option FileMove) (content : Text) :
    placed a move content =
      mapSpecifiers (moves a move).onImports (Package.mapImports a content) := by
  cases move with
  | none => exact (mapSpecifiers_none _).symm
  | some m =>
    rw [placed, Relocation.mapImports_eq_standing]
    apply mapSpecifiers_congr
    intro i _
    simp only [Import.chosen, KindMapper.onImports, moves, Option.bind_some, Relocation.standing,
      Specifier.classify_eq_relative_iff]
    split
    · split
      · rename_i h
        rw [Relocation.specifier?_self h]
        rfl
      · rfl
    · rfl

theorem mapImports_casing (content : Text) :
    FileCasing.mapImports content =
      mapSpecifiers (casing (FileCasing.isPreserved content)).onImports content := by
  rw [FileCasing.mapImports]
  cases FileCasing.isPreserved content with
  | true =>
    refine (mapSpecifiers_none content).symm.trans (mapSpecifiers_congr fun i _ => ?_)
    simp [Import.chosen, KindMapper.onImports, casing]
  | false =>
    apply mapSpecifiers_congr
    intro i _
    simp [Import.chosen, KindMapper.onImports, casing, Specifier.classify_eq_relative_iff]

/-! The pass -/

/-- All that is done to specifiers, in one step. -/
def pass (a : Aliases) (move : Option FileMove) (preserved : Bool) : KindMapper :=
  ((packages a).andThen (moves a move)).andThen (casing preserved)

section
variable (hc : Clean a.components) (hl : Clean a.lib) (hne : a.components ≠ [])
  (hm : ∀ m, move = some m → ∀ path ∈ m.paths, Clean path)
  (hs : IsSpecifier s) (hplain : Specifier.classify s ≠ .other → Plain s)

omit hc hl hne hm in
include hs hplain in
theorem clean_of_classify (h : Specifier.classify s ≠ .other) : Clean s :=
  ⟨hplain h, hs.2⟩

include hc hl hne hs hplain

theorem clean_of_packages {kind : ImportKind} (h : packages a kind s = some r) :
    r ≠ [] ∧ Clean r := by
  have hpackage := Specifier.classify_eq_package_iff.2 (Package.isScoped_of_resolve? h)
  have hclean := clean_of_classify hs hplain (by simp [hpackage])
  exact ⟨Package.resolve?_ne_nil hne h, slashwise_clean.of_resolve? hc hl hclean h⟩

/-- What a move is applied to is clean: a package in its place, or a relative specifier. -/
theorem clean_of_isRelative {kind : ImportKind}
    (h : Specifier.isRelative ((packages a kind s).getD s)) :
    Clean ((packages a kind s).getD s) := by
  cases hp : packages a kind s with
  | none =>
    rw [hp, Option.getD_none] at h
    have hrelative := Specifier.classify_eq_relative_iff.2 h
    exact clean_of_classify hs hplain (by simp [hrelative])
  | some r => exact (clean_of_packages hc hl hne hs hplain hp).2

include hm in
theorem clean_of_packages_andThen_moves {kind : ImportKind}
    (h : (packages a).andThen (moves a move) kind s = some r) : r ≠ [] ∧ Clean r := by
  rcases Option.or_eq_some_iff.1 h with h | ⟨-, h⟩
  · obtain ⟨m, hmove, h⟩ := Option.bind_eq_some_iff.1 h
    split at h
    · rename_i hrelative
      have hclean := clean_of_isRelative hc hl hne hs hplain hrelative
      exact ⟨Relocation.specifier?_ne_nil h, slashwise_clean.of_move (hm m hmove) hclean h⟩
    · cases h
  · exact clean_of_packages hc hl hne hs hplain h

end

theorem usable_of_validate (hvalid : c.validate = .ok c) :
    Aliases.Usable c.aliases.components ∧ Aliases.Usable c.aliases.lib := by
  apply Aliases.check_eq_ok_iff.1
  cases h : c.aliases.check with
  | error e => simp [Config.validate, h, bind, Except.bind] at hvalid
  | ok u => rfl

theorem components_ne_nil (hvalid : c.validate = .ok c) : c.aliases.components ≠ [] := by
  obtain ⟨⟨htrim, -⟩, -⟩ := usable_of_validate hvalid
  intro he
  exact htrim (by rw [he]; rfl)

/-- A transplantation is one pass over the imports of the source, and then the header. Whether file
names are preserved can be seen before the pass as well as where the stages look for it. -/
theorem run_eq_pass (t : Transplantation) (hvalid : c.validate = .ok c)
    (hc : Clean c.aliases.components) (hl : Clean c.aliases.lib)
    (hm : ∀ m, t.move = some m → ∀ path ∈ m.paths, Clean path)
    (hi : ∀ i ∈ imports content, Specifier.classify i.specifier ≠ .other → Plain i.specifier) :
    let passed := mapSpecifiers
      (pass c.aliases t.move (FileCasing.isPreserved content)).onImports content
    t.run c.aliases content = t.stamp.elim passed (·.addTo passed) ∧
      FileCasing.isPreserved (placed c.aliases t.move content) =
        FileCasing.isPreserved content := by
  intro passed
  have hne := components_ne_nil hvalid
  have hpackages : (document content).Settles (packages c.aliases).onImports 0 := by
    intro i hi' s hs
    obtain ⟨hs, hclean⟩ := clean_of_packages hc hl hne
      (isSpecifier_of_mem_imports hi') (hi i hi') hs
    exact ⟨hs, hclean.inert⟩
  have hplaces : (document content).Settles
      ((packages c.aliases).andThen (moves c.aliases t.move)).onImports 0 := by
    intro i hi' s hs
    obtain ⟨hs, hclean⟩ := clean_of_packages_andThen_moves hc hl hne hm
      (isSpecifier_of_mem_imports hi') (hi i hi') hs
    exact ⟨hs, hclean.inert⟩
  have hplaced : placed c.aliases t.move content =
      mapSpecifiers ((packages c.aliases).andThen (moves c.aliases t.move)).onImports content := by
    rw [mapImports_moves, mapImports_packages, KindMapper.mapSpecifiers_andThen _ _ hpackages]
  have hpreserved : FileCasing.isPreserved (placed c.aliases t.move content) =
      FileCasing.isPreserved content := by
    rw [hplaced, FileCasing.isPreserved_mapSpecifiers hplaces]
  have hpassed : adapt c.aliases t.move content = passed := by
    rw [adapt_eq, mapImports_casing, hpreserved, hplaced,
      KindMapper.mapSpecifiers_andThen _ _ hplaces]
    rfl
  refine ⟨?_, hpreserved⟩
  rw [run, hpassed]
  cases t.stamp <;> rfl

/-- A package that is put among the components and then moves along, and a file in Pascal case. -/
theorem run_eq_pass_of_package_and_file :
    let c : Config := Config.standard.withAliases "./ui".toList "./lib".toList
    let move : FileMove := .components "ui/src/upload/Upload.tsx".toList "ui/upload.tsx".toList
    let content := "import { A } from '@microbuild/ui-form/A'\nexport * from '../FileList'\n".toList
    let passed := mapSpecifiers
      (pass c.aliases (some move) (FileCasing.isPreserved content)).onImports content
    c.validate = .ok c ∧ (Clean c.aliases.components ∧ Clean c.aliases.lib) ∧
      (∀ path ∈ move.paths, Clean path) ∧
        (∀ i ∈ imports content, Specifier.classify i.specifier ≠ .other → Plain i.specifier) ∧
          passed = "import { A } from './ui/vform/a'\nexport * from './file-list'\n".toList ∧
            run ⟨some move, none⟩ c.aliases content = passed := by
  intro c move content passed
  have hvalid : c.validate = .ok c := by rfl
  have hc : Clean c.aliases.components := by decide
  have hl : Clean c.aliases.lib := by decide
  have hm : ∀ path ∈ move.paths, Clean path := by decide
  have hi : ∀ i ∈ imports content, Specifier.classify i.specifier ≠ .other → Plain i.specifier := by
    decide +kernel
  have hrun := (run_eq_pass ⟨some move, none⟩ hvalid hc hl (by rintro _ ⟨⟩; exact hm) hi).1
  exact ⟨hvalid, ⟨hc, hl⟩, hm, hi, by decide +kernel, hrun⟩

end Transplantation

end Transplant
