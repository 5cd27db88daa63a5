import Transplant.Proofs.Package.FixedPoint

/-! What can be asked of a source before its packages are pointed into a project. A source that imports
nothing from the scope stays as it is. The libraries that it requires are those whose directory, below
the alias of whatever project, some import comes to be pointed to or into. -/
namespace Transplant

namespace Text
variable {a place r : Text}

/-- Whether a path is a place or lies below it. -/
def LiesIn (place path : Text) : Prop := path = place ∨ ∃ rest, path = place ++ '/' :: rest

/-- The first part of a path is the one name that the path lies in. -/
theorem head?_split_eq_some_iff : (r.split '/').head? = some place ↔ '/' ∉ place ∧ LiesIn place r := by
  constructor
  · intro h
    rw [head?_split] at h
    cases hfirst : r.splitFirst? '/' with
    | none =>
      obtain rfl : r = place := by simpa [hfirst] using h
      exact ⟨splitFirst?_eq_none_iff.1 hfirst, .inl rfl⟩
    | some parts =>
      obtain ⟨hr, hslash⟩ := splitFirst?_eq_some_iff.1 hfirst
      obtain rfl : parts.1 = place := by simpa [hfirst] using h
      exact ⟨hslash, .inr ⟨parts.2, hr⟩⟩
  · rintro ⟨hslash, rfl | ⟨rest, rfl⟩⟩
    · simp [split_of_not_mem hslash]
    · simp [split_append_sep, split_of_not_mem hslash]

theorem liesIn_slash_iff :
    LiesIn (a ++ '/' :: place) r ↔ ∃ path, r = a ++ '/' :: path ∧ LiesIn place path := by
  constructor
  · rintro (rfl | ⟨rest, rfl⟩)
    · exact ⟨place, rfl, .inl rfl⟩
    · exact ⟨place ++ '/' :: rest, by simp, .inr ⟨rest, rfl⟩⟩
  · rintro ⟨path, rfl, rfl | ⟨rest, rfl⟩⟩
    · exact .inl rfl
    · exact .inr ⟨rest, by simp⟩

theorem LiesIn.begins (h : LiesIn place r) : place <+: r := by
  rcases h with rfl | ⟨rest, rfl⟩
  · exact List.prefix_refl r
  · exact List.prefix_append place _

/-- A path put behind a place, which may be empty, leads into the place. -/
theorem liesIn_ite (place rest : Text) :
    LiesIn place (if rest = [] then place else place ++ '/' :: rest) := by
  split
  · exact .inl rfl
  · exact .inr ⟨rest, rfl⟩

theorem eq_of_liesIn {b : Text} (ha : '/' ∉ a) (hb : '/' ∉ b) (h : LiesIn a r) (h' : LiesIn b r) :
    a = b := by
  have hfirst := head?_split_eq_some_iff.2 ⟨ha, h⟩
  rw [head?_split_eq_some_iff.2 ⟨hb, h'⟩] at hfirst
  exact (Option.some.inj hfirst).symm

end Text

open Text Source

namespace Package
variable {content l path r rest s : Text} {k : Library}

/-- The name of a library is one part of a path. -/
theorem slash_not_mem_name (k : Library) : '/' ∉ k.name.toList := by
  cases k <;> decide

theorem ofName?_eq_library_iff {name : Text} :
    Subpackage.ofName? name = some (.library k) ↔ name = k.name.toList := by
  constructor
  · intro h
    obtain ⟨entry, hfind, hk⟩ := Option.map_eq_some_iff.1 h
    have hname : entry.1.toList = name := by simpa using List.find?_some hfind
    have hall : ∀ entry ∈ Subpackage.all, entry.2 = .library k → entry.1 = k.name := by
      cases k <;> decide
    rw [← hname, hall entry (List.mem_of_find?_eq_some hfind) hk]
  · rintro rfl
    cases k <;> decide

/-- The specifiers that name a library, or lie in it. -/
theorem library?_eq_some_iff :
    library? s = some k ↔ LiesIn (Specifier.scope ++ '/' :: k.name.toList) s := by
  simp only [library?, Option.bind_eq_bind, Option.bind_eq_some_iff, belowScope?_eq_some_iff,
    liesIn_slash_iff]
  constructor
  · rintro ⟨path, rfl, name, hname, p, hp, hk⟩
    cases p with
    | library l =>
      obtain rfl := Option.some.inj hk
      obtain rfl := ofName?_eq_library_iff.1 hp
      exact ⟨path, rfl, (head?_split_eq_some_iff.1 hname).2⟩
    | uiInterfaces | uiForm => cases hk
  · rintro ⟨path, rfl, hpath⟩
    exact ⟨path, rfl, k.name.toList, head?_split_eq_some_iff.2 ⟨slash_not_mem_name k, hpath⟩,
      .library k, ofName?_eq_library_iff.2 rfl, rfl⟩

theorem library?_of_subpackageAndPath? (h : subpackageAndPath? path = some (.library k, rest)) :
    library? (Specifier.scope ++ '/' :: path) = some k := by
  obtain ⟨name, hname, hpath⟩ := subpackageAndPath?_eq_some h
  obtain rfl := ofName?_eq_library_iff.1 hname
  refine library?_eq_some_iff.2 (liesIn_slash_iff.2 ⟨path, rfl, ?_⟩)
  rcases hpath with ⟨rfl, -⟩ | rfl
  · exact .inl rfl
  · exact .inr ⟨rest, rfl⟩

theorem resolve?_of_subpackageAndPath? {p : Subpackage} (h : subpackageAndPath? path = some (p, rest))
    (a : Aliases) : resolve? a (Specifier.scope ++ '/' :: path) =
      some (if rest = [] then p.base a else p.base a ++ '/' :: rest) := by
  have hbelow : belowScope? (Specifier.scope ++ '/' :: path) = some path :=
    belowScope?_eq_some_iff.2 rfl
  simp [resolve?, hbelow, h]

/-- Whatever the project, an import of a library is pointed to the library's directory or into it. -/
theorem resolve?_of_library? (h : library? s = some k) (a : Aliases) :
    ∃ r, resolve? a s = some r ∧ LiesIn (a.lib ++ '/' :: k.name.toList) r := by
  obtain ⟨path, rfl, hpath⟩ := liesIn_slash_iff.1 (library?_eq_some_iff.1 h)
  obtain ⟨⟨p, rest⟩, hp, rfl⟩ : ∃ found, subpackageAndPath? path = some found ∧ found.1 = .library k := by
    have hmap := map_subpackageAndPath? path
    rw [head?_split_eq_some_iff.2 ⟨slash_not_mem_name k, hpath⟩, Option.bind_some,
      ofName?_eq_library_iff.2 rfl] at hmap
    exact Option.map_eq_some_iff.1 hmap
  exact ⟨_, resolve?_of_subpackageAndPath? hp a, liesIn_ite _ rest⟩

/-- In a project whose aliases do not begin alike, only the imports of a library are pointed to its
directory or into it. -/
theorem exists_library?_of_resolve? (hl : '/' ∉ l) (h : resolve? .standard s = some r)
    (hr : LiesIn (Aliases.standard.lib ++ '/' :: l) r) : ∃ k, library? s = some k ∧ k.name.toList = l := by
  obtain ⟨path, p, rest, rfl, hp, he⟩ := resolve?_eq_some h
  have hbase : LiesIn (p.base .standard) r := he ▸ liesIn_ite _ rest
  have hapart {place : Text} (hplace : Aliases.standard.components <+: place) :
      ¬ LiesIn place r := fun hin => by
    have hlib : Aliases.standard.lib <+: r := (List.prefix_append _ _).trans (LiesIn.begins hr)
    rcases List.prefix_or_prefix_of_prefix (hplace.trans (LiesIn.begins hin)) hlib with hfalse | hfalse
    · exact absurd hfalse (by decide)
    · exact absurd hfalse (by decide)
  cases p with
  | library k =>
    obtain ⟨below, rfl, hk⟩ := liesIn_slash_iff.1 hbase
    obtain ⟨below', hsame, hl'⟩ := liesIn_slash_iff.1 hr
    obtain rfl : below = below' := by simpa using hsame
    exact ⟨k, library?_of_subpackageAndPath? hp, eq_of_liesIn (slash_not_mem_name k) hl hk hl'⟩
  | uiInterfaces => exact absurd hbase (hapart (List.prefix_refl _))
  | uiForm => exact absurd hbase (hapart (List.prefix_append _ _))

theorem mem_requiredLibs_iff :
    l ∈ requiredLibs content ↔ ∃ i ∈ imports content, ∃ k, library? i.specifier = some k ∧
      k.name.toList = l := by
  simp [requiredLibs]

/-- What is asked of a source agrees with what is done to it. A source that is said to import nothing
from the scope is left as it is, and requires and lacks no library. It requires a library exactly if
there is an import that every project has pointed to the directory of this name below its alias for
libraries, or into it. It lacks those that it requires and that are not installed. -/
theorem queries_agree (content : Text) (c : Config) :
    (importsScope content = false → mapImports c.aliases content = content ∧
      requiredLibs content = ∅ ∧ missingLibs c.installedLib content = ∅) ∧
    (∀ l : Text, '/' ∉ l → (l ∈ requiredLibs content ↔ ∃ i ∈ imports content, ∀ c' : Config,
      ∃ r, resolve? c'.aliases i.specifier = some r ∧ LiesIn (c'.aliases.lib ++ '/' :: l) r)) ∧
    ∀ l : Text, l ∈ missingLibs c.installedLib content ↔
      l ∈ requiredLibs content ∧ l ∉ c.installedLib := by
  refine ⟨fun h => ?_, fun l hl => ?_, fun l => by simp [missingLibs]⟩
  · have hnone (a : Aliases) : ∀ i ∈ imports content, resolve? a i.specifier = none := by
      intro i hi
      apply resolve?_eq_none
      simpa using List.any_eq_false.1 h i hi
    have hrequired : requiredLibs content = ∅ := requiredLibs_eq_empty (hnone .standard)
    refine ⟨mapImports_eq_self (hnone c.aliases), hrequired, NameSet.ext fun l => ?_⟩
    simp [missingLibs, hrequired]
  · rw [mem_requiredLibs_iff]
    constructor
    · rintro ⟨i, hi, k, hk, rfl⟩
      exact ⟨i, hi, fun c' => resolve?_of_library? hk c'.aliases⟩
    · rintro ⟨i, hi, h⟩
      obtain ⟨r, hr, hin⟩ := h .standard
      exact ⟨i, hi, exists_library?_of_resolve? hl hr hin⟩

/-- A library that is named with a slash behind it, beside a scope that only begins alike. -/
theorem queries_agree_past_slash :
    let other := "import { A } from '@microbuild-extra/hooks'\n".toList
    let content := other ++ "export * from '@microbuild/utils/'\n".toList
    let l : Text := "utils".toList
    importsScope other = false ∧ '/' ∉ l ∧ mapImports Config.standard.aliases other = other ∧
      l ∈ requiredLibs content ∧ ∃ i ∈ imports content, ∀ c' : Config,
        ∃ r, resolve? c'.aliases i.specifier = some r ∧ LiesIn (c'.aliases.lib ++ '/' :: l) r := by
  intro other content l
  have hother : importsScope other = false := by decide +kernel
  have hl : '/' ∉ l := by decide
  have hrequired : l ∈ requiredLibs content := by decide +kernel
  exact ⟨hother, hl, ((queries_agree other .standard).1 hother).1, hrequired,
    ((queries_agree content .standard).2.1 l hl).1 hrequired⟩

end Package

end Transplant
