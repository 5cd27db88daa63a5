import Transplant.Proofs.FileCasing.Specifier
import Transplant.Proofs.Transplantation.OnePass

/-! Whether packages stay where they have been pointed to. The stages that come after look at relative
imports only, and so they leave a place alone unless it is relative itself. That is up to the
project: an alias may be relative, and then the moves and the casing take the places behind it for
files beside the source. -/
namespace Transplant
open Source

variable {a : Aliases} {c : Config} {content p r s t name : Text} {d : Char} {i : Import}
  {f : Import → Option Text} {k : Nat} {kind : ImportKind} {move : Option FileMove} {b : Bool}

/-! Letter case -/

namespace Text

/-- A text with its capital letters in lowercase. -/
def lowered (s : Text) : Text := s.map Char.toLower

theorem mem_lowered_iff (hupper : d.isUpper = false) (hlower : d.isLower = false) :
    d ∈ lowered s ↔ d ∈ s := by
  simp [lowered, Casing.toLower_eq_iff hupper hlower]

theorem lowered_append_slash (a b : Text) : lowered (a ++ '/' :: b) = a.lowered ++ '/' :: b.lowered := by
  rw [lowered, List.map_append]
  rfl

end Text

theorem Slashwise.lowered {P : Text → Prop} (hP : Slashwise P) :
    Slashwise fun s => P s.lowered where
  append_slash := by
    intro a b
    rw [Text.lowered_append_slash, hP.append_slash]
  slashed {s} h := by
    have hcomm : Text.lowered (s.map fun c => if c = '\\' then '/' else c) =
        s.lowered.map fun c => if c = '\\' then '/' else c := by
      rw [Text.lowered, Text.lowered, List.map_map, List.map_map]
      apply List.map_congr_left
      intro c _
      by_cases hc : c = '\\'
      · rw [hc]
        rfl
      · have hne : c.toLower ≠ '\\' := fun he => hc ((Casing.toLower_eq_iff rfl rfl).1 he)
        simp [hc, hne]
    rw [hcomm]
    exact hP.slashed h
  words w hw := by
    have hall : ∀ w ∈ pathWords, w.lowered = w := by decide
    rw [hall w hw]
    exact hP.words w hw

theorem inSpecifier_toLower (d : Char) : inSpecifier d.toLower = inSpecifier d := by
  have hbeq (e : Char) (hupper : e.isUpper = false) (hlower : e.isLower = false) :
      (d.toLower == e) = (d == e) := by
    rw [Bool.eq_iff_iff, beq_iff_eq, beq_iff_eq, Casing.toLower_eq_iff hupper hlower]
  simp only [inSpecifier, isQuote, isLineEnd, hbeq '\'' rfl rfl, hbeq '"' rfl rfl,
    hbeq '\n' rfl rfl, hbeq '\r' rfl rfl]

theorem clean_lowered_iff : Clean s.lowered ↔ Plain s.lowered ∧ ∀ d ∈ s, inSpecifier d := by
  have hin : (∀ d ∈ s.lowered, inSpecifier d) ↔ ∀ d ∈ s, inSpecifier d := by
    simp [Text.lowered, inSpecifier_toLower]
  exact ⟨fun h => ⟨h.toPlain, hin.1 h.inSpecifier⟩, fun h => ⟨h.1, hin.2 h.2⟩⟩

/-- A text that is clean without its capital letters is clean with them. -/
theorem Clean.of_lowered (h : Clean s.lowered) : Clean s where
  no_star hs := h.no_star ((Text.mem_lowered_iff rfl rfl).2 hs)
  no_from hs := h.no_from (hs.map Char.toLower)
  inSpecifier := (clean_lowered_iff.1 h).2

namespace FileCasing

/-- A kebab name spells no word that the name does not spell in some letter case. -/
theorem clean_kebabName (hname : Clean name.lowered) (h : Casing.isPascal (stem name)) :
    Clean (kebabName name) := by
  have hclean := hname.of_lowered
  have hparts : stem name ++ extension name = name := List.takeWhile_append_dropWhile
  have hstem : ¬ "from".toList <:+: Casing.toKebab (stem name) := by
    intro hfrom
    have hlowered := Casing.infix_of_infix_toKebab (by decide) h hfrom
    have hinit : stem name <+: name := ⟨extension name, hparts⟩
    exact hname.no_from (hlowered.trans (hinit.map Char.toLower).isInfix)
  have hext : ¬ "from".toList <:+: extension name := by
    intro hfrom
    have hsuffix : extension name <:+ name := ⟨stem name, hparts⟩
    exact hclean.no_from (hfrom.trans hsuffix.isInfix)
  refine ⟨⟨fun hstar => ?_, fun hfrom => ?_⟩, fun d hd => ?_⟩
  · rcases mem_kebabName h hstar with hkebab | hstar
    · exact absurd hkebab (by decide)
    · exact hclean.no_star hstar
  · rw [kebabName] at hfrom
    rcases head?_extension name with hnil | hpoint
    · rw [hnil, List.append_nil] at hfrom
      exact hstem hfrom
    · obtain ⟨e, he⟩ := List.head?_eq_some_iff.1 hpoint
      rw [he, Text.infix_append_cons (by decide)] at hfrom
      rcases hfrom with hfrom | hfrom
      · exact hstem hfrom
      · exact hext (he ▸ hfrom.trans (List.suffix_cons _ e).isInfix)
  · rcases mem_kebabName h hd with hkebab | hd
    · exact Casing.inSpecifier_of_isKebabChar hkebab
    · exact hclean.inSpecifier d hd

/-- Casing makes a clean specifier of one that is clean in whatever case its letters are. -/
theorem clean_of_specifier? (hs : Clean s.lowered) (h : specifier? s = some r) : Clean r := by
  obtain ⟨dirs, name, suffix, hparts, -, hpascal, hr⟩ := exists_of_specifier? h
  have hold : ∀ p ∈ dirs ++ name :: suffix, Clean p.lowered := by
    rw [← hparts]
    exact slashwise_clean.lowered.of_mem_split hs
  rw [← Text.join_split '/' r, hr, slashwise_clean.join_iff]
  intro p hp
  rcases List.mem_append.1 hp with hp | hp
  · rcases mem_newDirs hp with hp | rfl
    · exact (hold p (by simp [hp])).of_lowered
    · exact slashwise_clean.dot
  · rcases List.mem_cons.1 hp with rfl | hp
    · exact clean_kebabName (hold name (by simp)) hpascal
    · exact (hold p (by simp [hp])).of_lowered

/-- A file in Pascal case gets another name, wherever it lies. -/
theorem specifier?_append_slash_ne_none (h : Casing.isPascal (stem name)) (hslash : '/' ∉ name)
    (s : Text) : specifier? (s ++ '/' :: name) ≠ none := by
  have hparts : (s ++ '/' :: name).split '/' = s.split '/' ++ [name] := by
    rw [Text.split_append_sep, Text.split_of_not_mem hslash]
  have hindex : name ≠ index := by
    rintro rfl
    cases h
  have hsplit : splitIndex ((s ++ '/' :: name).split '/') = (s.split '/' ++ [name], []) := by
    rw [hparts]
    exact splitIndex_concat fun h => hindex h.2
  rw [specifier?_eq hparts hsplit, if_pos h]
  exact Option.some_ne_none _

end FileCasing

namespace Specifier

theorem isRelative_append_slash (s b : Text) : isRelative (s ++ '/' :: b) = isRelative s := by
  obtain ⟨d, parts, hparts⟩ := List.exists_cons_of_ne_nil (@Text.split_ne_nil '/' s)
  rw [Bool.eq_iff_iff, FileCasing.isRelative_iff_head?, FileCasing.isRelative_iff_head?,
    Text.split_append_sep, hparts]
  rfl

end Specifier

/-! What the stages leave behind for the next one -/

namespace Source

theorem getElem?_imports_mapSpecifiers (hf : (document t).Settles f 0) (h : (imports t)[k]? = some i) :
    ∃ offset, (imports (mapSpecifiers f t))[k]? = some ⟨i.kind, i.chosen f, offset⟩ := by
  obtain ⟨offset, hget, -⟩ := importsFrom_mapSpecifiersFrom h 0
  rw [imports, document_mapSpecifiers hf]
  exact ⟨offset, hget⟩

theorem exists_of_mem_imports_mapSpecifiers (hf : (document t).Settles f 0)
    (h : i ∈ imports (mapSpecifiers f t)) : ∃ j ∈ imports t, i.specifier = j.chosen f := by
  have hmap := map_specifier_of_admits ((scanned true t).admits hf)
  have hmem := List.mem_map_of_mem (f := (·.specifier)) h
  rw [hmap] at hmem
  obtain ⟨j, hj, he⟩ := List.mem_map.1 hmem
  exact ⟨j, hj, he.symm⟩

end Source

namespace Transplantation

/-- A source whose relative imports are clean in whatever case their letters are. -/
def IsCalm (content : Text) : Prop :=
  ∀ i ∈ imports content, Specifier.isRelative i.specifier → Clean i.specifier.lowered

theorem settles_of_clean (hnew : ∀ i ∈ imports content, ∀ r, f i = some r → r ≠ [] ∧ Clean r) :
    (document content).Settles f 0 := by
  intro i hi r hr
  obtain ⟨hne, hclean⟩ := hnew i hi r hr
  exact ⟨hne, hclean.inert⟩

/-- A stage that puts in nothing but what is clean in any case leaves a source calm. -/
theorem isCalm_mapSpecifiers
    (hnew : ∀ i ∈ imports content, ∀ r, f i = some r → r ≠ [] ∧ Clean r.lowered)
    (hold : ∀ i ∈ imports content, f i = none → Specifier.isRelative i.specifier →
      Clean i.specifier.lowered) :
    (document content).Settles f 0 ∧ IsCalm (mapSpecifiers f content) := by
  have hsettles : (document content).Settles f 0 := settles_of_clean fun i hi r hr =>
    ⟨(hnew i hi r hr).1, (hnew i hi r hr).2.of_lowered⟩
  refine ⟨hsettles, fun i hi hrelative => ?_⟩
  obtain ⟨j, hj, he⟩ := exists_of_mem_imports_mapSpecifiers hsettles hi
  rw [he, Import.chosen] at hrelative ⊢
  cases hr : f j with
  | none =>
    rw [hr] at hrelative
    exact hold j hj hr hrelative
  | some r => exact (hnew j hj r hr).2

theorem isCalm_packages (hc : Clean a.components.lowered) (hl : Clean a.lib.lowered)
    (hne : a.components ≠ [])
    (hplain : ∀ i ∈ imports content, Specifier.classify i.specifier ≠ .other →
      Plain i.specifier.lowered) :
    (document content).Settles (packages a).onImports 0 ∧ IsCalm (Package.mapImports a content) := by
  have hclean (i : Import) (hi : i ∈ imports content)
      (hclass : Specifier.classify i.specifier ≠ .other) : Clean i.specifier.lowered :=
    clean_lowered_iff.2 ⟨hplain i hi hclass, (isSpecifier_of_mem_imports hi).2⟩
  rw [mapImports_packages]
  apply isCalm_mapSpecifiers
  · intro i hi r hr
    have hpackage := Specifier.classify_eq_package_iff.2 (Package.isScoped_of_resolve? hr)
    exact ⟨Package.resolve?_ne_nil hne hr,
      slashwise_clean.lowered.of_resolve? hc hl (hclean i hi (by simp [hpackage])) hr⟩
  · intro i hi _ hrelative
    have hclass := Specifier.classify_eq_relative_iff.2 hrelative
    exact hclean i hi (by simp [hclass])

theorem isCalm_moves (hm : ∀ m, move = some m → ∀ path ∈ m.paths, Clean path.lowered)
    (hcalm : IsCalm content) :
    (document content).Settles (moves a move).onImports 0 ∧
      IsCalm (mapSpecifiers (moves a move).onImports content) := by
  apply isCalm_mapSpecifiers
  · intro i hi r hr
    obtain ⟨m, hmove, hr⟩ := Option.bind_eq_some_iff.1 hr
    split at hr
    · rename_i hrelative
      exact ⟨Relocation.specifier?_ne_nil hr,
        slashwise_clean.lowered.of_move (hm m hmove) (hcalm i hi hrelative) hr⟩
    · cases hr
  · exact fun i hi _ hrelative => hcalm i hi hrelative

theorem settles_casing (hcalm : IsCalm content) (b : Bool) :
    (document content).Settles (casing b).onImports 0 := by
  apply settles_of_clean
  intro i hi r hr
  simp only [KindMapper.onImports, casing] at hr
  split at hr
  · rename_i h
    have hs := isSpecifier_of_mem_imports hi
    exact ⟨(FileCasing.isSpecifier_of_specifier? hr h.1 hs).1,
      FileCasing.clean_of_specifier? (hcalm i hi h.1) hr⟩
  · cases hr

/-- What becomes of the places of packages. -/
def afterwards (a : Aliases) (move : Option FileMove) (preserved : Bool) : KindMapper :=
  (moves a move).andThen (casing preserved)

section
variable (hc : Clean a.components.lowered) (hl : Clean a.lib.lowered) (hne : a.components ≠ [])
  (hm : ∀ m, move = some m → ∀ path ∈ m.paths, Clean path.lowered)
  (hplain : ∀ i ∈ imports content, Specifier.classify i.specifier ≠ .other →
    Plain i.specifier.lowered)
include hc hl hne hm hplain

/-- The imports of a copied source are those of the source. A package among them has its place, or what
the stages behind have made of the place. -/
theorem getElem?_imports_run (hi : (imports content)[k]? = some i)
    (hp : Package.resolve? a i.specifier = some p) :
    ∃ offset, (imports (run ⟨move, none⟩ a content))[k]? =
      some ⟨i.kind, (afterwards a move (FileCasing.isPreserved content) i.kind p).getD p, offset⟩ := by
  obtain ⟨hpackages, hcalm⟩ := isCalm_packages hc hl hne hplain
  obtain ⟨hmoves, hcalm'⟩ := isCalm_moves (a := a) hm hcalm
  rw [← mapImports_moves] at hcalm'
  have hpreserved : FileCasing.isPreserved (placed a move content) =
      FileCasing.isPreserved content := by
    rw [mapImports_moves, FileCasing.isPreserved_mapSpecifiers hmoves, mapImports_packages,
      FileCasing.isPreserved_mapSpecifiers hpackages]
  have hrun : run ⟨move, none⟩ a content = mapSpecifiers
      (casing (FileCasing.isPreserved content)).onImports (placed a move content) := by
    rw [← hpreserved, ← mapImports_casing, ← adapt_eq]
    rfl
  obtain ⟨_, hfirst⟩ := getElem?_imports_mapSpecifiers hpackages hi
  rw [← mapImports_packages] at hfirst
  obtain ⟨_, hsecond⟩ := getElem?_imports_mapSpecifiers hmoves hfirst
  rw [← mapImports_moves] at hsecond
  obtain ⟨offset, hthird⟩ := getElem?_imports_mapSpecifiers (settles_casing hcalm' _) hsecond
  have hchosen : i.chosen (packages a).onImports = p := by
    rw [Import.chosen, KindMapper.onImports, packages, hp, Option.getD_some]
  rw [hchosen] at hthird
  refine ⟨offset, ?_⟩
  rw [hrun, hthird, afterwards, KindMapper.getD_andThen]
  rfl

end

/-- Whether packages stay where they are pointed to: for every move and every source, the imports that
have a place in the project have it in the copied source. -/
def KeepsPlaces (a : Aliases) : Prop := ∀ (move : Option FileMove) (content : Text),
  (∀ m, move = some m → ∀ path ∈ m.paths, Clean path.lowered) →
    (∀ i ∈ imports content, Specifier.classify i.specifier ≠ .other → Plain i.specifier.lowered) →
      ∀ (k : Nat) (i : Import) (p : Text), (imports content)[k]? = some i →
        Package.resolve? a i.specifier = some p →
          ∃ offset, (imports (run ⟨move, none⟩ a content))[k]? = some ⟨i.kind, p, offset⟩

theorem afterwards_of_not_relative (hp : Specifier.isRelative p = false) :
    (afterwards a move b kind p).getD p = p := by
  have hmoves : moves a move kind p = none := by cases move <;> simp [moves, hp]
  have hcasing : casing b kind p = none := by simp [casing, hp]
  rw [afterwards, KindMapper.getD_andThen, hmoves, Option.getD_none, hcasing, Option.getD_none]

theorem isRelative_base (p : Subpackage) : Specifier.isRelative (p.base a) =
    match p with
    | .library _ => Specifier.isRelative a.lib
    | .uiInterfaces | .uiForm => Specifier.isRelative a.components := by
  cases p with
  | library l => exact Specifier.isRelative_append_slash a.lib l.name.toList
  | uiInterfaces => rfl
  | uiForm => exact Specifier.isRelative_append_slash a.components "vform".toList

theorem isRelative_of_resolve? (hc : Specifier.isRelative a.components = false)
    (hl : Specifier.isRelative a.lib = false) (h : Package.resolve? a s = some p) :
    Specifier.isRelative p = false := by
  obtain ⟨path, q, rest, -, -, rfl⟩ := Package.resolve?_eq_some h
  have hbase : Specifier.isRelative (q.base a) = false := by
    rw [isRelative_base]
    cases q with
    | library l => exact hl
    | uiInterfaces | uiForm => exact hc
  split
  · exact hbase
  · rw [Specifier.isRelative_append_slash]
    exact hbase

section
variable (hc : Clean a.components.lowered) (hl : Clean a.lib.lowered) (hne : a.components ≠ [])
include hc hl hne

theorem keepsPlaces_of_not_relative (hc' : Specifier.isRelative a.components = false)
    (hl' : Specifier.isRelative a.lib = false) : KeepsPlaces a := by
  intro move content hm hplain k i p hi hp
  obtain ⟨offset, hget⟩ := getElem?_imports_run hc hl hne hm hplain hi hp
  rw [afterwards_of_not_relative (isRelative_of_resolve? hc' hl' hp)] at hget
  exact ⟨offset, hget⟩

/-- A place in Pascal case is cased, if it is relative. -/
theorem not_relative_of_keepsPlaces (hkeeps : KeepsPlaces a) (himports : imports content = [i])
    (hplain : Plain i.specifier.lowered) (hpreserved : FileCasing.isPreserved content = false)
    (hp : Package.resolve? a i.specifier = some (s ++ "/A".toList)) :
    Specifier.isRelative s = false := by
  have hget : (imports content)[0]? = some i := by rw [himports]; rfl
  have hall : ∀ i ∈ imports content, Specifier.classify i.specifier ≠ .other →
      Plain i.specifier.lowered := by
    intro j hj _
    rw [himports, List.mem_singleton] at hj
    exact hj ▸ hplain
  have hpaths : ∀ m, (none : Option FileMove) = some m → ∀ path ∈ m.paths, Clean path.lowered :=
    nofun
  obtain ⟨offset, hstays⟩ := hkeeps none content hpaths hall 0 i _ hget hp
  obtain ⟨offset', hbecomes⟩ := getElem?_imports_run hc hl hne hpaths hall hget hp
  rw [hstays, hpreserved] at hbecomes
  have hsame := congrArg Import.specifier (Option.some.inj hbecomes)
  have hmoves : moves a none i.kind (s ++ "/A".toList) = none := rfl
  rw [afterwards, KindMapper.getD_andThen, hmoves, Option.getD_none] at hsame
  by_contra hs
  rw [Bool.not_eq_false, ← Specifier.isRelative_append_slash s "A".toList] at hs
  have hcasing : casing false i.kind (s ++ "/A".toList) =
      FileCasing.specifier? (s ++ '/' :: "A".toList) := if_pos ⟨hs, rfl⟩
  rw [hcasing] at hsame
  cases hr : FileCasing.specifier? (s ++ '/' :: "A".toList) with
  | none => exact FileCasing.specifier?_append_slash_ne_none (by decide) (by decide) s hr
  | some r =>
    rw [hr, Option.getD_some] at hsame
    exact FileCasing.specifier?_ne_self (hr.trans (congrArg some hsame.symm))

end

/-- The places of packages are kept exactly by projects that have no relative alias. -/
theorem keepsPlaces_iff (hvalid : c.validate = .ok c) (hc : Clean c.aliases.components.lowered)
    (hl : Clean c.aliases.lib.lowered) :
    KeepsPlaces c.aliases ↔ Specifier.isRelative c.aliases.components = false ∧
      Specifier.isRelative c.aliases.lib = false := by
  have hne := components_ne_nil hvalid
  constructor
  · intro hkeeps
    constructor
    · have himports : imports "import '@microbuild/ui-interfaces/A'\n".toList =
          [⟨.sideEffect, "@microbuild/ui-interfaces/A".toList, 0⟩] := by decide +kernel
      exact not_relative_of_keepsPlaces hc hl hne hkeeps himports (by decide) (by decide +kernel) rfl
    · have himports : imports "import '@microbuild/types/A'\n".toList =
          [⟨.sideEffect, "@microbuild/types/A".toList, 0⟩] := by decide +kernel
      have hlibrary := not_relative_of_keepsPlaces hc hl hne hkeeps
        (s := Subpackage.base c.aliases (.library .types)) himports (by decide) (by decide +kernel) rfl
      exact (Specifier.isRelative_append_slash _ _).symm.trans hlibrary
  · rintro ⟨hc', hl'⟩
    exact keepsPlaces_of_not_relative hc hl hne hc' hl'

/-- The standard aliases are no relative ones, and a package keeps its place below them though the file
moves and the place is in Pascal case. -/
theorem keepsPlaces_iff_standard :
    let c := Config.standard
    let content := "import { A } from '@microbuild/ui-form/A'\nimport './Upload'\n".toList
    let move : FileMove := .components "ui/src/upload/Upload.tsx".toList
      "src/components/ui/files/upload.tsx".toList
    (c.validate = .ok c ∧ Clean c.aliases.components.lowered ∧ Clean c.aliases.lib.lowered) ∧
      (KeepsPlaces c.aliases ↔ Specifier.isRelative c.aliases.components = false ∧
        Specifier.isRelative c.aliases.lib = false) ∧
      KeepsPlaces c.aliases ∧
      ∃ offset, (imports (run ⟨some move, none⟩ c.aliases content))[0]? =
        some ⟨.value, "@/components/ui/vform/A".toList, offset⟩ := by
  intro c content move
  have hvalid : c.validate = .ok c := by rfl
  have hc : Clean c.aliases.components.lowered := by decide
  have hl : Clean c.aliases.lib.lowered := by decide
  have hiff := keepsPlaces_iff hvalid hc hl
  have hkeeps : KeepsPlaces c.aliases := hiff.2 (by decide)
  have hpaths : ∀ path ∈ move.paths, Clean path.lowered := by decide
  have himports : imports content = [⟨.value, "@microbuild/ui-form/A".toList, 0⟩,
      ⟨.sideEffect, "./Upload".toList, 42⟩] := by
    decide +kernel
  have hplain : ∀ i ∈ imports content, Specifier.classify i.specifier ≠ .other →
      Plain i.specifier.lowered := by
    rw [himports]
    decide
  have hget : (imports content)[0]? = some ⟨.value, "@microbuild/ui-form/A".toList, 0⟩ := by
    rw [himports]
    rfl
  exact ⟨⟨hvalid, hc, hl⟩, hiff, hkeeps,
    hkeeps (some move) content (by rintro _ ⟨⟩; exact hpaths) hplain 0 _ _ hget rfl⟩

/-- Behind a relative alias a place is put into kebab case, and follows the move of the source. -/
theorem not_keepsPlaces_of_relative_alias :
    let c := Config.standard.withAliases "./ui".toList "./lib".toList
    let content := "import { A } from '@microbuild/ui-form/A'\n".toList
    let place := "./ui/vform/A".toList
    let move : FileMove := .components "ui/src/Upload.tsx".toList "ui/files/upload.tsx".toList
    (c.validate = .ok c ∧ Clean c.aliases.components.lowered ∧ Clean c.aliases.lib.lowered ∧
      (∀ path ∈ move.paths, Clean path.lowered) ∧
        ∀ i ∈ imports content, Specifier.classify i.specifier ≠ .other →
          Plain i.specifier.lowered) ∧
      (imports content).map (fun i => Package.resolve? c.aliases i.specifier) = [some place] ∧
      (imports (run ⟨none, none⟩ c.aliases content)).map (·.specifier) = ["./ui/vform/a".toList] ∧
      (imports (run ⟨some move, none⟩ c.aliases content)).map (·.specifier) =
        ["../ui/vform/a".toList] ∧
      ¬ KeepsPlaces c.aliases := by
  intro c content place move
  have himports : imports content = [⟨.value, "@microbuild/ui-form/A".toList, 0⟩] := by
    decide +kernel
  have hplain : ∀ i ∈ imports content, Specifier.classify i.specifier ≠ .other →
      Plain i.specifier.lowered := by
    rw [himports]
    decide
  have hcased : (imports (run ⟨none, none⟩ c.aliases content)).map (·.specifier) =
      ["./ui/vform/a".toList] := by
    decide +kernel
  refine ⟨⟨by rfl, by decide, by decide, by decide, hplain⟩, by rw [himports]; rfl, hcased,
    by decide +kernel, fun hkeeps => ?_⟩
  obtain ⟨offset, hget⟩ := hkeeps none content nofun hplain 0 _ place (by rw [himports]; rfl) rfl
  have hkept : ["./ui/vform/a".toList][0]? = some place := by
    rw [← hcased, List.getElem?_map, hget]
    rfl
  exact absurd hkept (by decide)

end Transplantation

end Transplant
