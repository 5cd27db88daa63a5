import Transplant.Proofs.FileCasing.Written
import Transplant.Proofs.Transplantation.OnePass

/-! The file that a relative import leads to once it has followed the move of its source and got its
name in kebab case. It is the file that lies there after the move, under its new name. Where the file
had the name of its directory the two have become one, and a specifier that climbs then climbs one level
less, so that it is read as from a directory that has been left out as well. -/
namespace Transplant

variable {m : Relocation} {names : List Text} {s : Text} {k : Nat}

/-! Levels -/

namespace Position

theorem parent_ne (p : Position) : p.parent ≠ p := by
  intro h
  rw [parent] at h
  split at h
  · have hups := congrArg ups h
    simp at hups
  · rename_i hne
    have hlength := congrArg (fun p => p.segments.length) h
    have hpos := List.length_pos_iff.2 hne
    simp only [List.length_dropLast] at hlength
    omega

/-- One level less leads to another place. -/
theorem goTo_pred_iff (p : Position) (k : Nat) (names : List Text) :
    p.goTo ⟨k - 1, names⟩ = p.goTo ⟨k, names⟩ ↔ k = 0 := by
  constructor
  · intro h
    cases k with
    | zero => rfl
    | succ k =>
      have hups := congrArg ups h
      have hsegments := List.append_cancel_right (congrArg segments h)
      have hclimb : p.climb k = p.climb (k + 1) := congrArg₂ mk hups hsegments
      rw [← parent_climb] at hclimb
      exact absurd hclimb.symm (parent_ne _)
  · rintro rfl
    rfl

theorem goTo_nil (k : Nat) (names : List Text) : goTo ⟨0, []⟩ ⟨k, names⟩ = ⟨k, names⟩ := by
  cases k with
  | zero => simp [goTo, climb_zero]
  | succ k => simp [goTo, climb_of_lt]

end Position

namespace Relocation
open FileCasing Transplant.Path Position

/-- A canonical specifier is written anew for where its file lies after the move, or is what would be
written. -/
theorem getD_specifier? (hs : s = relativeSpecifier m.source (resolve m.source s)) :
    (m.specifier? s).getD s = relativeSpecifier m.dest (m.target (resolve m.source s)) := by
  rw [specifier?]
  split
  · rename_i h
    exact hs.trans h.symm
  · rfl

/-- How the place that `cased` leads to from a directory differs from the place `t` that `moved` leads to.
Nothing differs but the end: the name of the file is the new one, and the directory in front of it is left
out if it is written and has that name. In this case the place is the right one only if `moved` does not
climb. If it climbs, `cased` climbs one level less. -/
inductive Renamed (dir : List Text) (t : Position) (moved cased : Text) : Prop where
  | kept (same : cased = moved)
      (stays : ∀ dirs name suffix, ¬ EndsInPascal (resolve [] moved).segments dirs name suffix)
  | renamed (above : List Text) {dirs suffix : List Text} {name : Text}
      (ends : EndsInPascal (resolve [] moved).segments dirs name suffix)
      (segments_eq : t.segments = above ++ dirs ++ name :: suffix)
      (differs : ∀ d, dirs.getLast? = some d → Casing.toKebab d ≠ Casing.toKebab (stem name))
      (leads : resolve dir cased = ⟨t.ups, above ++ dirs ++ kebabName name :: suffix⟩)
  | folded (above : List Text) {dirs suffix : List Text} {d name : Text}
      (ends : EndsInPascal (resolve [] moved).segments (dirs ++ [d]) name suffix)
      (segments_eq : t.segments = above ++ dirs ++ d :: name :: suffix)
      (equals : Casing.toKebab d = Casing.toKebab (stem name))
      (leads : resolve dir cased =
        goTo ⟨0, dir⟩ ⟨(resolve [] moved).ups - 1, dirs ++ kebabName name :: suffix⟩)
      (leads_iff : resolve dir cased = ⟨t.ups, above ++ dirs ++ kebabName name :: suffix⟩ ↔
        (resolve [] moved).ups = 0)

/-- A written specifier, once its file name has been put into kebab case. -/
theorem renamed_of_specifierOf {moved : Text} (h : moved = specifierOf k names)
    (hnames : ∀ a ∈ names, IsName a) (dir : List Text) :
    Renamed dir (resolve dir moved) moved ((FileCasing.specifier? moved).getD moved) := by
  subst h
  have hplace := resolve_specifierOf hnames dir k
  have hwritten : resolve [] (specifierOf k names) = ⟨k, names⟩ := by
    rw [resolve_specifierOf hnames, goTo_nil]
  have hsegments : (resolve dir (specifierOf k names)).segments =
      (climb ⟨0, dir⟩ k).segments ++ names :=
    congrArg segments hplace
  rcases cases_specifier? hnames k with ⟨hkept, hends⟩ | ⟨dirs, name, suffix, hends, hnew⟩
  · exact .kept hkept (by rw [hwritten]; exact hends)
  rcases hnew with ⟨hne, hcased⟩ | ⟨front, d, rfl, hsame, hcased⟩
  · have hnew := hends.isName_renamed hnames (List.Subset.refl dirs)
    refine .renamed (climb ⟨0, dir⟩ k).segments (by rw [hwritten]; exact hends) ?_ hne ?_
    · rw [hsegments, hends.eq, List.append_assoc]
    · rw [hcased, resolve_specifierOf hnew, hplace, List.append_assoc]
      rfl
  · have hnew := hends.isName_renamed hnames (List.subset_append_left front [d])
    refine .folded (climb ⟨0, dir⟩ k).segments (by rw [hwritten]; exact hends) ?_ hsame ?_ ?_
    · rw [hsegments, hends.eq]
      simp
    · rw [hcased, resolve_specifierOf hnew, hwritten]
    · rw [hcased, resolve_specifierOf hnew, hwritten, hplace,
        ← goTo_pred_iff ⟨0, dir⟩ k (front ++ kebabName name :: suffix), List.append_assoc]
      rfl

/-- A moved file's relative import first follows the move, to where its file lies then, and gets its file
name in kebab case after that. -/
theorem renamed_of_move (move : FileMove) (components : Text)
    (hpaths : ∀ path ∈ move.paths, ['.', '.'] ∉ Path.split path)
    (hs : s = relativeSpecifier (move.relocation components).source
      (resolve (move.relocation components).source s)) :
    let m := move.relocation components
    let t := m.target (resolve m.source s)
    let moved := (m.specifier? s).getD s
    let cased := (FileCasing.specifier? moved).getD moved
    moved = relativeSpecifier m.dest t ∧ resolve m.dest moved = t ∧ Renamed m.dest t moved cased := by
  intro m t moved cased
  have hm : m.Named := by
    cases move with
    | components source dest | vform source dest =>
      exact named_ofPaths _ (hpaths source (by simp [FileMove.paths]))
        (hpaths dest (by simp [FileMove.paths]))
  have hmoved : moved = relativeSpecifier m.dest t := getD_specifier? hs
  have htarget : ∀ a ∈ t.segments, IsName a := isName_of_mem_target hm s
  have hresolve : resolve m.dest moved = t := hmoved ▸ resolve_relativeSpecifier m.dest htarget
  refine ⟨hmoved, hresolve, ?_⟩
  obtain ⟨k, names, hk, hsuffix⟩ := exists_relativeSpecifier m.dest t
  have hnames : ∀ a ∈ names, IsName a := fun a ha => htarget a (hsuffix.subset ha)
  have hrenamed := renamed_of_specifierOf (hmoved.trans hk) hnames m.dest
  rw [hresolve] at hrenamed
  exact hrenamed

/-- A file with the name of its directory, beside the directory that the moved file leaves. -/
theorem renamed_of_move_into_root :
    let move : FileMove := .components "ui/src/upload/Upload.tsx".toList
      "components/ui/upload.tsx".toList
    let m := move.relocation "@/components/ui".toList
    let s := "../FileList/FileList".toList
    let t := m.target (resolve m.source s)
    let moved := (m.specifier? s).getD s
    let cased := (FileCasing.specifier? moved).getD moved
    (∀ path ∈ move.paths, ['.', '.'] ∉ Path.split path) ∧
      s = relativeSpecifier m.source (resolve m.source s) ∧
      (moved = relativeSpecifier m.dest t ∧ resolve m.dest moved = t ∧
        Renamed m.dest t moved cased) ∧
      t = ⟨0, ["FileList".toList, "FileList".toList]⟩ ∧ cased = "./file-list".toList ∧
        resolve m.dest cased = ⟨0, ["file-list".toList]⟩ := by
  intro move m s t moved cased
  have hpaths : ∀ path ∈ move.paths, ['.', '.'] ∉ Path.split path := by decide
  have hs : s = relativeSpecifier m.source (resolve m.source s) := by decide
  exact ⟨hpaths, hs, renamed_of_move move "@/components/ui".toList hpaths hs, by decide, by decide,
    by decide⟩

/-- From a file that stays in its directory, `../Upload/Upload` becomes `./upload`: a file in that directory
and not the one beside it. And a directory `index` of the sources counts as the file of the directory in
front of it. -/
theorem renamed_elsewhere :
    (let move : FileMove := .components "ui/src/card/Card.tsx".toList
        "components/ui/card/card.tsx".toList
      let m := move.relocation "@/components/ui".toList
      let s := "../Upload/Upload".toList
      let t := m.target (resolve m.source s)
      let moved := (m.specifier? s).getD s
      let cased := (FileCasing.specifier? moved).getD moved
      (∀ path ∈ move.paths, ['.', '.'] ∉ Path.split path) ∧
        s = relativeSpecifier m.source (resolve m.source s) ∧ index ∉ Text.split '/' s ∧
        moved = s ∧ t = ⟨0, ["Upload".toList, "Upload".toList]⟩ ∧ cased = "./upload".toList ∧
        resolve m.dest cased = ⟨0, ["card".toList, "upload".toList]⟩ ∧
        resolve m.dest cased ≠ ⟨0, ["upload".toList]⟩) ∧
    (let move : FileMove := .components "ui/src/Foo/index/a/File.tsx".toList
        "components/ui/b/file.tsx".toList
      let m := move.relocation "@/components/ui".toList
      let s := "..".toList
      let t := m.target (resolve m.source s)
      let moved := (m.specifier? s).getD s
      let cased := (FileCasing.specifier? moved).getD moved
      (∀ path ∈ move.paths, ['.', '.'] ∉ Path.split path) ∧
        s = relativeSpecifier m.source (resolve m.source s) ∧ index ∉ Text.split '/' s ∧
        moved = "../Foo/index".toList ∧ t = ⟨0, ["Foo".toList, "index".toList]⟩ ∧
        cased = "../foo/index".toList ∧
        resolve m.dest cased = ⟨0, ["foo".toList, "index".toList]⟩) := by
  decide

end Relocation

end Transplant
