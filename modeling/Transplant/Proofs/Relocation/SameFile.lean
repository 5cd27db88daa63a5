import Transplant.Proofs.Path.Resolve
import Transplant.Proofs.Source.Rescan
import Transplant.Relocation

/-! What a moved file's relative imports lead to. A specifier that is written anew leads to where
its file lies after the move. One that keeps its spelling need not: it may leave a directory and
enter it again by name, and the name is then not the one of the directory it now leaves. -/
namespace Transplant

variable {m : Relocation} {s : Text} {dir d l names w as bs : List Text} {k n : Nat}

namespace Path
open Position

/-- The last `k` directories, as far as there are so many. -/
def lastDirs (k : Nat) (dirs : List Text) : List Text :=
  if k ≤ dirs.length then dirs.drop (dirs.length - k) else []

/-- What two lists of segments begin with in common. -/
def commonStart : List Text → List Text → List Text
  | a :: as, b :: bs => if a = b then a :: commonStart as bs else []
  | _, _ => []

/-- The directories that a specifier leaves, on its way up from `dir`, and enters again. -/
def detour (dir : List Text) (s : Text) : List Text :=
  commonStart (lastDirs (resolve [] s).ups dir) (resolve [] s).segments

theorem lastDirs_append (h : w.length = k) : lastDirs k (l ++ w) = w := by
  simp [lastDirs, h]

theorem lastDirs_of_lt (h : dir.length < k) : lastDirs k dir = [] := by
  simp [lastDirs, Nat.not_le.2 h]

theorem length_lastDirs_le (k : Nat) (dirs : List Text) : (lastDirs k dirs).length ≤ k := by
  rw [lastDirs]
  split
  · simp
    omega
  · simp

theorem exists_lastDirs (h : k ≤ dir.length) : ∃ l w, dir = l ++ w ∧ w.length = k :=
  ⟨dir.take (dir.length - k), dir.drop (dir.length - k), by simp, by simp; omega⟩

theorem dropCommon_eq (as bs : List Text) :
    dropCommon as bs =
      (as.drop (commonStart as bs).length, bs.drop (commonStart as bs).length) := by
  fun_induction dropCommon as bs with
  | case1 a as bs ih => simpa [commonStart] using ih
  | case2 a as b bs h => simp [commonStart, h]
  | case3 as bs h =>
    rw [commonStart.eq_2 as bs h]
    rfl

theorem commonStart_isPrefix (as bs : List Text) :
    commonStart as bs <+: as ∧ commonStart as bs <+: bs := by
  fun_induction commonStart as bs with
  | case1 a as bs ih => simpa using ih
  | case2 | case3 => simp

/-- The canonical spelling of a specifier is the specifier without its detour. -/
theorem relativeSpecifier_resolve (dir : List Text) (s : Text) :
    relativeSpecifier dir (resolve dir s) =
      specifierOf ((resolve [] s).ups - (detour dir s).length)
        ((resolve [] s).segments.drop (detour dir s).length) := by
  rw [resolve_eq_goTo, detour]
  generalize resolve [] s = q
  obtain ⟨n, names⟩ := q
  by_cases h : n ≤ dir.length
  · obtain ⟨l, w, rfl, rfl⟩ := exists_lastDirs h
    simp only [relativeSpecifier, goTo, climb_append rfl, dropCommon_append, lastDirs_append rfl]
    simp [dropCommon_eq]
  · have h := Nat.not_le.1 h
    have hpos : 0 < n - dir.length := by omega
    have hsum : dir.length + (n - dir.length) = n := by omega
    simp [relativeSpecifier, goTo, climb_of_lt h, lastDirs_of_lt h, commonStart, hpos, hsum]

/-- Going up and down again by a detour or without it leads to the same place where the detour
enters the directories that it left, and nowhere else. -/
theorem goTo_detour_iff (dir names : List Text) (hd : d.length ≤ n) :
    goTo ⟨0, dir⟩ ⟨n, d ++ names⟩ = goTo ⟨0, dir⟩ ⟨n - d.length, names⟩ ↔
      d <+: lastDirs n dir := by
  by_cases h : n ≤ dir.length
  · obtain ⟨l, w, rfl, rfl⟩ := exists_lastDirs h
    have hsplit : l ++ w = (l ++ w.take d.length) ++ w.drop d.length := by simp
    have hclimb : climb ⟨0, l ++ w⟩ (w.length - d.length) = ⟨0, l ++ w.take d.length⟩ := by
      rw [hsplit]
      exact climb_append (by simp)
    simp [goTo, climb_append rfl, lastDirs_append rfl, hclimb, List.prefix_iff_eq_take]
  · have h := Nat.not_le.1 h
    rw [lastDirs_of_lt h, List.prefix_nil]
    constructor
    · intro he
      have hups := congrArg Position.ups he
      by_cases hk : dir.length < n - d.length
      · simp [goTo, climb_of_lt h, climb_of_lt hk] at hups
        exact List.length_eq_zero_iff.1 (by omega)
      · simp [goTo, climb_of_lt h, climb_of_le (Nat.not_lt.1 hk)] at hups
        omega
    · rintro rfl
      simp

theorem detour_isPrefix (dir : List Text) (s : Text) :
    detour dir s <+: lastDirs (resolve [] s).ups dir ∧ detour dir s <+: (resolve [] s).segments :=
  commonStart_isPrefix _ _

theorem length_detour_le (dir : List Text) (s : Text) : (detour dir s).length ≤ (resolve [] s).ups :=
  Nat.le_trans (detour_isPrefix dir s).1.length_le (length_lastDirs_le _ _)

/-- The canonical spelling from one directory is as good in another if the detour that it leaves out
is one there as well. -/
theorem resolve_relativeSpecifier_iff (dir dir' : List Text) (s : Text) :
    resolve dir' (relativeSpecifier dir (resolve dir s)) = resolve dir' s ↔
      detour dir s <+: lastDirs (resolve [] s).ups dir' := by
  have hnames : ∀ a ∈ (resolve [] s).segments, IsName a := isName_of_mem_resolve (by simp) s
  obtain ⟨rest, hrest⟩ := (detour_isPrefix dir s).2
  have hdrop : (resolve [] s).segments.drop (detour dir s).length = rest := by
    rw [← hrest, List.drop_left]
  have hiff := goTo_detour_iff dir' rest (length_detour_le dir s)
  rw [hrest] at hiff
  rw [relativeSpecifier_resolve, resolve_specifierOf fun a ha => hnames a (List.mem_of_mem_drop ha),
    hdrop, resolve_eq_goTo dir' s, eq_comm]
  exact hiff

end Path

namespace Relocation
open Transplant.Path Source

/-- The specifier that a moved file has in place of `s`. -/
def standing (m : Relocation) (s : Text) : Text :=
  if m.source = m.dest then s else (m.specifier? s).getD s

theorem mapImports_eq_standing (m : Relocation) (content : Text) :
    m.mapImports content = mapSpecifiers
      (fun i => if Specifier.classify i.specifier = .relative then some (m.standing i.specifier)
        else none) content := by
  by_cases h : m.source = m.dest
  · rw [mapImports_self h]
    refine (mapSpecifiers_none content).symm.trans (mapSpecifiers_congr fun i _ => ?_)
    simp only [Import.chosen, standing, h, if_true]
    split <;> rfl
  · rw [mapImports, if_neg h]
    apply mapSpecifiers_congr
    intro i _
    simp only [Import.chosen, standing, h, if_false]
    split <;> rfl

theorem target_self (h : m.source = m.dest) (p : Position) : m.target p = p := by
  rw [target]
  split
  · rename_i hp
    obtain ⟨r, hr⟩ := hp.2.2
    have hsegments : m.dest ++ p.segments.drop m.source.length = p.segments := by
      rw [← hr, List.drop_left, h]
    rw [hsegments]
  · rfl

/-- Both directories of a move are made of names. -/
structure Named (m : Relocation) : Prop where
  source : ∀ s ∈ m.source, IsName s
  dest : ∀ s ∈ m.dest, IsName s

theorem isName_of_mem_target (hm : m.Named) (s : Text) :
    ∀ a ∈ (m.target (resolve m.source s)).segments, IsName a := by
  have hbefore := isName_of_mem_resolve hm.source s
  rw [target]
  split
  · intro a ha
    rcases List.mem_append.1 ha with ha | ha
    · exact hm.dest a ha
    · exact hbefore a (List.mem_of_mem_drop ha)
  · exact hbefore

theorem resolve_of_specifier?_eq_some (hm : m.Named) {r : Text} (h : m.specifier? s = some r) :
    resolve m.dest r = m.target (resolve m.source s) := by
  simp only [specifier?] at h
  split at h
  · cases h
  · obtain rfl := Option.some.inj h
    exact resolve_relativeSpecifier _ (isName_of_mem_target hm s)

/-- A spelling that is kept leads to the right file unless its detour leads astray. -/
theorem resolve_of_specifier?_eq_none_iff (hm : m.Named) (h : m.specifier? s = none) :
    resolve m.dest s = m.target (resolve m.source s) ↔
      detour m.source s <+: lastDirs (resolve [] s).ups m.dest := by
  have hkept : relativeSpecifier m.dest (m.target (resolve m.source s)) =
      relativeSpecifier m.source (resolve m.source s) := by
    simpa [specifier?] using h
  rw [← resolve_relativeSpecifier m.dest (isName_of_mem_target hm s), hkept, eq_comm,
    resolve_relativeSpecifier_iff]

/-! Moves of paths -/

theorem belowSource_subset (dirs : List Text) : belowSource dirs ⊆ dirs := by
  rw [belowSource]
  split
  · exact List.Subset.refl dirs
  · rename_i d below h
    have hdrop := List.dropWhile_subset (l := dirs) (· ≠ "src".toList)
    rw [h] at hdrop
    exact fun s hs => hdrop (.tail d hs)

theorem belowRoot?_subset (root dirs : List Text) : (belowRoot? root dirs).getD [] ⊆ dirs := by
  rw [belowRoot?]
  cases lastRun? root dirs with
  | none => exact List.nil_subset dirs
  | some i => exact List.drop_subset _ dirs

theorem ofPaths_source_subset {source dest : Text} (root : DestinationRoot) :
    (ofPaths source dest root).source ⊆ Path.split source := fun _ ha =>
  List.dropLast_subset _ (belowSource_subset _ ha)

theorem ofPaths_dest_subset {source dest : Text} (root : DestinationRoot) :
    (ofPaths source dest root).dest ⊆ Path.split dest := fun _ ha =>
  List.dropLast_subset _ (belowRoot?_subset _ _ ha)

/-- A move between paths is between directories that have names, unless one of them is a `..`. -/
theorem named_of_dirs {source dest : Text} (root : DestinationRoot)
    (hs : ['.', '.'] ∉ (ofPaths source dest root).source)
    (hd : ['.', '.'] ∉ (ofPaths source dest root).dest) : (ofPaths source dest root).Named where
  source _ ha := isName_of_mem_split (ofPaths_source_subset root ha) fun he => hs (he ▸ ha)
  dest _ ha := isName_of_mem_split (ofPaths_dest_subset root ha) fun he => hd (he ▸ ha)

theorem named_ofPaths {source dest : Text} (root : DestinationRoot)
    (hs : ['.', '.'] ∉ Path.split source) (hd : ['.', '.'] ∉ Path.split dest) :
    (ofPaths source dest root).Named :=
  named_of_dirs root (fun h => hs (ofPaths_source_subset root h)) fun h => hd (ofPaths_dest_subset root h)

/-- Exactly when a moved file's relative import goes on naming the same file: the file stays where
it is, or the specifier is written anew, or else its spelling makes no detour but one through
directories that are there after the move as well. -/
theorem resolve_standing_iff {source dest : Text} (root : DestinationRoot)
    (hs : ['.', '.'] ∉ Path.split source) (hd : ['.', '.'] ∉ Path.split dest) :
    let m := ofPaths source dest root
    (∀ content, m.mapImports content = mapSpecifiers
      (fun i => if Specifier.classify i.specifier = .relative then some (m.standing i.specifier)
        else none) content) ∧
      ∀ s, resolve m.dest (m.standing s) = m.target (resolve m.source s) ↔
        m.source = m.dest ∨ m.specifier? s ≠ none ∨
          detour m.source s <+: lastDirs (resolve [] s).ups m.dest := by
  intro m
  have hm : m.Named := named_ofPaths root hs hd
  refine ⟨m.mapImports_eq_standing, fun s => ?_⟩
  by_cases hsame : m.source = m.dest
  · simp [standing, hsame, target_self hsame]
  · cases h : m.specifier? s with
    | none => simpa [standing, hsame, h] using resolve_of_specifier?_eq_none_iff hm h
    | some r => simpa [standing, hsame, h] using resolve_of_specifier?_eq_some hm h

/-- A detour through a directory that the moved file still lies in does no harm. -/
theorem resolve_standing_iff_common_detour :
    let source := "ui/src/forms/upload/Upload.tsx".toList
    let dest := "components/ui/forms/files/upload.tsx".toList
    let m := ofPaths source dest (.alias "@/components/ui".toList)
    let s := "../../forms/types".toList
    (['.', '.'] ∉ Path.split source ∧ ['.', '.'] ∉ Path.split dest) ∧ m.specifier? s = none ∧
      resolve m.dest (m.standing s) = m.target (resolve m.source s) := by
  intro source dest m s
  have hs : ['.', '.'] ∉ Path.split source := by decide
  have hd : ['.', '.'] ∉ Path.split dest := by decide
  have hdetour : detour m.source s <+: lastDirs (resolve [] s).ups m.dest :=
    ⟨["files".toList], by decide⟩
  exact ⟨⟨hs, hd⟩, by decide,
    ((resolve_standing_iff (.alias "@/components/ui".toList) hs hd).2 s).2 (.inr (.inr hdetour))⟩

/-- A detour through the directory that is left behind is kept, and leads back to it. -/
theorem resolve_standing_ne_of_detour :
    let source := "ui/src/upload/Upload.tsx".toList
    let dest := "components/ui/files/upload.tsx".toList
    let m := ofPaths source dest (.alias "components/ui".toList)
    let s := "../upload/types".toList
    let content := "import { T } from '../upload/types'\n".toList
    ['.', '.'] ∉ Path.split source ∧ ['.', '.'] ∉ Path.split dest ∧ Specifier.isRelative s ∧
      m.mapImports content = content ∧ m.standing s = s ∧
        resolve m.dest (m.standing s) = ⟨0, ["upload".toList, "types".toList]⟩ ∧
          m.target (resolve m.source s) = ⟨0, ["files".toList, "types".toList]⟩ ∧
            resolve m.dest (m.standing s) ≠ m.target (resolve m.source s) := by
  decide +kernel

end Relocation

end Transplant
