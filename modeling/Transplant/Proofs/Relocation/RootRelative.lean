import Transplant.Proofs.Path.LastRun
import Transplant.Proofs.Path.Spelling
import Transplant.Proofs.Source.Lines
import Transplant.Relocation

/-! What a move depends on: the directories of its two ends below their roots. Nothing else about the
paths counts, neither what lies above the roots nor how the paths and the alias are written, nor what
the file is called. -/
namespace Transplant

variable {dest dest' mark p place place' q source source' : Text} {dirs dirs' root : List Text}

namespace DestinationRoot

/-- An alias that bears none of the marks that stand for the project's root. -/
def Unmarked (place : Text) : Prop := ∀ mark ∈ aliasMarks, ¬ mark <+: place

theorem withoutMark_of_unmarked (h : Unmarked place) : withoutMark place = place := by
  have hnone : aliasMarks.findSome? place.stripStart? = none :=
    List.findSome?_eq_none_iff.2 fun mark hmark => Source.stripStart?_eq_none_iff.2 (h mark hmark)
  rw [withoutMark, hnone]
  rfl

theorem withoutMark_append (h : mark ∈ aliasMarks) (place : Text) :
    withoutMark (mark ++ place) = place := by
  simp only [aliasMarks, List.map_cons, List.map_nil, List.mem_cons, List.not_mem_nil, or_false] at h
  -- No mark begins another, so that the mark in front is the one that is found.
  rcases h with rfl | rfl | rfl | rfl | rfl <;> simp [withoutMark, aliasMarks, Text.stripStart?]

end DestinationRoot

namespace Relocation
open Transplant.Path DestinationRoot

/-- One change of a source path that leaves alone what lies below the first `src`. Directories can be
put in front of it unless one is called so. -/
inductive SourceChange : Text → Text → Prop where
  | written {p q : Text} (h : Variation p q) : SourceChange p q
  | below {a : Text} (h : "src".toList ∉ Path.split a) (p : Text) : SourceChange p (a ++ '/' :: p)

/-- One change of a destination path that leaves alone what lies below the last root. Any directories
can be put in front of it. -/
inductive DestChange : Text → Text → Prop where
  | written {p q : Text} (h : Relation.EqvGen Variation p q) : DestChange p q
  | below (a p : Text) : DestChange p (a ++ '/' :: p)

/-- An alias is given one of the marks. -/
inductive AliasChange : Text → Text → Prop where
  | marked {place mark : Text} (h : Unmarked place) (hmark : mark ∈ aliasMarks) :
      AliasChange place (mark ++ place)

/-- A path from the first `src` on. -/
def fromSource (path : Text) : List Text := (parentDirs path).dropWhile (· ≠ "src".toList)

theorem SourceChange.fromSource_eq (h : SourceChange p q) : fromSource p = fromSource q := by
  cases h with
  | written h => rw [fromSource, fromSource, h.parentDirs_eq]
  | @below a h p =>
    have hfront : ∀ d ∈ Path.split a, (decide (d ≠ "src".toList)) = true := by
      intro d hd
      have hne : d ≠ "src".toList := fun he => h (he ▸ hd)
      simpa using hne
    rw [fromSource, fromSource]
    by_cases hp : Path.split p = []
    · have hpnil : parentDirs p = [] := by rw [parentDirs, hp]; rfl
      rw [hpnil, parentDirs_append_slash_of_nil a hp]
      refine (List.dropWhile_eq_nil_iff.2 fun d hd => ?_).symm
      exact hfront d (List.dropLast_subset _ hd)
    · rw [parentDirs_append_slash a hp, List.dropWhile_append_of_pos hfront]

theorem belowSource_congr (hmem : "src".toList ∈ dirs)
    (h : dirs.dropWhile (· ≠ "src".toList) = dirs'.dropWhile (· ≠ "src".toList)) :
    belowSource dirs = belowSource dirs' := by
  rw [belowSource, belowSource, ← h]
  cases hdrop : dirs.dropWhile (· ≠ "src".toList) with
  | nil => simpa using List.dropWhile_eq_nil_iff.1 hdrop _ hmem
  | cons d below => rfl

/-- The directories below the last root do not depend on what is in front of a path that contains the
root. -/
theorem belowRoot?_append (h : root <:+: dirs) (front : List Text) :
    belowRoot? root (front ++ dirs) = belowRoot? root dirs := by
  by_cases hne : root = []
  · simp [belowRoot?, hne, lastRun?_nil]
  · obtain ⟨i, hi⟩ := exists_lastRun? hne h
    have hdrop : (front ++ dirs).drop (front.length + i + root.length) = dirs.drop (i + root.length) := by
      rw [Nat.add_assoc, List.drop_length_add_append]
    simp [belowRoot?, hi, lastRun?_append hi front, hdrop]

theorem DestChange.belowRoot?_eq (h : DestChange p q) (hroot : root <:+: parentDirs p) :
    root <:+: parentDirs q ∧ belowRoot? root (parentDirs q) = belowRoot? root (parentDirs p) := by
  cases h with
  | written h =>
    rw [← parentDirs_eq_of_variations h]
    exact ⟨hroot, rfl⟩
  | below a p =>
    by_cases hp : Path.split p = []
    · have hpnil : parentDirs p = [] := by rw [parentDirs, hp]; rfl
      rw [hpnil, List.infix_nil] at hroot
      subst hroot
      simp [belowRoot?, lastRun?_nil]
    · rw [parentDirs_append_slash a hp]
      exact ⟨hroot.trans (List.suffix_append _ _).isInfix, belowRoot?_append hroot _⟩

theorem belowRoot?_eq_of_changes (h : Relation.ReflTransGen DestChange p q)
    (hroot : root <:+: parentDirs p) :
    root <:+: parentDirs q ∧ belowRoot? root (parentDirs q) = belowRoot? root (parentDirs p) := by
  induction h with
  | refl => exact ⟨hroot, rfl⟩
  | tail _ hstep ih =>
    obtain ⟨hstill, hsame⟩ := hstep.belowRoot?_eq ih.1
    exact ⟨hstill, hsame.trans ih.2⟩

theorem AliasChange.segments_eq (h : AliasChange place place') :
    (DestinationRoot.alias place).segments = (DestinationRoot.alias place').segments := by
  cases h with
  | marked h hmark =>
    rw [DestinationRoot.segments, DestinationRoot.segments, withoutMark_append hmark,
      withoutMark_of_unmarked h]

/-- A move is the same for all paths that lie at the same places below the roots. -/
theorem ofPaths_congr {r r' : DestinationRoot} (hsource : "src".toList ∈ parentDirs source)
    (hdest : r.segments <:+: parentDirs dest) (hs : Relation.EqvGen SourceChange source source')
    (hd : Relation.ReflTransGen DestChange dest dest') (hr : r.segments = r'.segments) :
    ofPaths source dest r = ofPaths source' dest' r' := by
  have hfrom : fromSource source = fromSource source' :=
    Setoid.eqvGen_le (s := Setoid.ker fromSource) (fun _ _ h => h.fromSource_eq) hs
  rw [ofPaths, ofPaths, belowSource_congr hsource hfrom, ← (belowRoot?_eq_of_changes hd hdest).2, hr]

/-- The text of a moved file depends on where its ends lie below their roots, and on nothing else about
the paths and the alias. The source path has a directory `src`, and the destination path has the
root. Directories may be put in front of the source, or taken away, unless one is called `src`, and
any may be put in front of the destination; either path may be spelled otherwise, or be that of
another file in the same directory; and an alias may do with or without a mark. -/
theorem mapImports_ofPaths_congr (content : Text) (hsource : "src".toList ∈ parentDirs source)
    (hdest : (DestinationRoot.alias place).segments <:+: parentDirs dest)
    (hs : Relation.EqvGen SourceChange source source')
    (hd : Relation.ReflTransGen DestChange dest dest')
    (ha : Relation.EqvGen AliasChange place place') :
    (ofPaths source dest (.alias place)).mapImports content =
      (ofPaths source' dest' (.alias place')).mapImports content := by
  have hroot : (DestinationRoot.alias place).segments = (DestinationRoot.alias place').segments :=
    Setoid.eqvGen_le (s := Setoid.ker fun a => (DestinationRoot.alias a).segments)
      (fun _ _ h => h.segments_eq) ha
  rw [ofPaths_congr hsource hdest hs hd hroot]

/-- A source that other directories are in front of, and a destination with a second root in front. -/
theorem mapImports_ofPaths_congr_second_root :
    let below := "src/upload/".toList
    let source := "ui".toList ++ '/' :: (below ++ "Upload.tsx".toList)
    let source' := "pkg/./lib".toList ++ '/' :: (below ++ "file.ts".toList)
    let dest := "components/ui/upload.tsx".toList
    let dest' := "components/ui/src".toList ++ '\\' :: dest
    let place := "components/ui".toList
    let place' := "@/".toList ++ place
    let content := "import { T } from '../types'\n".toList
    ("src".toList ∈ parentDirs source ∧ (DestinationRoot.alias place).segments <:+: parentDirs dest) ∧
      Relation.EqvGen SourceChange source source' ∧ Relation.ReflTransGen DestChange dest dest' ∧
        Relation.EqvGen AliasChange place place' ∧
          (ofPaths source dest (.alias place)).mapImports content = "import { T } from './types'\n".toList ∧
            (ofPaths source' dest' (.alias place')).mapImports content =
              "import { T } from './types'\n".toList := by
  intro below source source' dest dest' place place' content
  have hsource : "src".toList ∈ parentDirs source := by decide
  have hdest : (DestinationRoot.alias place).segments <:+: parentDirs dest := ⟨[], [], by decide⟩
  have hs : Relation.EqvGen SourceChange source source' := by
    have hfrom : SourceChange (below ++ "Upload.tsx".toList) source := .below (by decide) _
    have hfile : SourceChange (below ++ "Upload.tsx".toList) (below ++ "file.ts".toList) := by
      have hbelow : Opens below := .inr ⟨"src/upload".toList, by decide⟩
      have hname : IsFileName "Upload.tsx".toList := ⟨by decide, by decide, by decide, by decide⟩
      have hname' : IsFileName "file.ts".toList := ⟨by decide, by decide, by decide, by decide⟩
      exact .written (.file hbelow hname hname')
    have hto : SourceChange (below ++ "file.ts".toList) source' := .below (by decide) _
    exact .trans _ _ _ (.symm _ _ (.rel _ _ hfrom)) (.trans _ _ _ (.rel _ _ hfile) (.rel _ _ hto))
  have hd : Relation.ReflTransGen DestChange dest dest' := by
    have hbelow : DestChange dest ("components/ui/src".toList ++ '/' :: dest) := .below _ dest
    have hslash : Variation ("components/ui/src".toList ++ '/' :: dest) dest' := .backslash _ dest
    exact .tail (.single hbelow) (.written (.rel _ _ hslash))
  have ha : Relation.EqvGen AliasChange place place' := by
    have hmark : "@/".toList ∈ aliasMarks := by decide
    have hplace : Unmarked place := by
      unfold Unmarked
      decide
    exact .rel _ _ (.marked hplace hmark)
  have hbefore : (ofPaths source dest (.alias place)).mapImports content =
      "import { T } from './types'\n".toList := by decide +kernel
  exact ⟨⟨hsource, hdest⟩, hs, hd, ha, hbefore,
    (mapImports_ofPaths_congr content hsource hdest hs hd ha).symm.trans hbefore⟩

end Relocation

end Transplant
