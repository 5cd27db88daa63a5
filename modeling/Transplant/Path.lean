import Transplant.Text

/-!
Slash-separated paths as lists of segments, computed with on their own: no file system is asked.
A position is a place in a tree of directories, `resolve` goes from a directory to the position a
specifier names, and `relativeSpecifier` writes a specifier that goes from a directory to a position.
-/

namespace Transplant

/-- A place in a tree as seen from its root: `ups` levels above it, then down along `segments`. -/
structure Position where
  ups : Nat
  segments : List Text
deriving DecidableEq, Repr

namespace Position
variable {p : Position} {part : Text}

/-- One level up. Above the root there is no segment left to drop, so the level is counted. -/
def parent (p : Position) : Position :=
  if p.segments = [] then { p with ups := p.ups + 1 }
  else { p with segments := p.segments.dropLast }

/-- The position that one part of a specifier leads to: an empty part and `.` stay, `..` goes up,
and a name goes down. -/
def enter (p : Position) (part : Text) : Position :=
  if part = [] ∨ part = ['.'] then p
  else if part = ['.', '.'] then p.parent
  else { p with segments := p.segments ++ [part] }

@[simp] theorem parent_nil (n : Nat) : parent ⟨n, []⟩ = ⟨n + 1, []⟩ := rfl

@[simp] theorem parent_concat (n : Nat) (l : List Text) (s : Text) :
    parent ⟨n, l ++ [s]⟩ = ⟨n, l⟩ := by
  simp [parent]

theorem enter_up : p.enter ['.', '.'] = p.parent := by
  simp [enter]

theorem enter_name (h : part ≠ []) (h₁ : part ≠ ['.']) (h₂ : part ≠ ['.', '.']) :
    p.enter part = ⟨p.ups, p.segments ++ [part]⟩ := by
  simp [enter, h, h₁, h₂]

end Position

namespace Path

/-- The segments of a path. A backslash separates like a slash; empty segments and `.` are
dropped. -/
def split (path : Text) : List Text :=
  (Text.split '/' (path.map fun c => if c = '\\' then '/' else c)).filter fun s =>
    s ≠ [] ∧ s ≠ ['.']

/-- The directories that lead to a file. -/
def parentDirs (path : Text) : List Text := (split path).dropLast

/-- The position a specifier names, read from a directory. -/
def resolve (dir : List Text) (specifier : Text) : Position :=
  (specifier.split '/').foldl Position.enter ⟨0, dir⟩

/-- What is left of two lists after the segments they begin with in common. -/
def dropCommon : List Text → List Text → List Text × List Text
  | a :: as, b :: bs => if a = b then dropCommon as bs else (a :: as, b :: bs)
  | as, bs => (as, bs)

/-- The specifier that climbs `ups` levels and then goes down along `names`. -/
def specifierOf (ups : Nat) (names : List Text) : Text :=
  Text.join '/' ((if ups = 0 then [['.']] else List.replicate ups ['.', '.']) ++ names)

/-- The specifier that leads from a directory to a position. It climbs no further than to the last
directory that both have in common; a position above the root has none. -/
def relativeSpecifier (dir : List Text) (target : Position) : Text :=
  if 0 < target.ups then specifierOf (dir.length + target.ups) target.segments
  else
    let (up, down) := dropCommon dir target.segments
    specifierOf up.length down

/-- The last index at which `run`, which must not be empty, occurs in a list of segments. -/
def lastRun? (run : List Text) : List Text → Option Nat
  | [] => none
  | s :: rest =>
    match lastRun? run rest with
    | some i => some (i + 1)
    | none => if run ≠ [] ∧ run.isPrefixOf (s :: rest) then some 0 else none

theorem resolve_append (dir : List Text) (a b : Text) :
    resolve dir (a ++ '/' :: b) = (b.split '/').foldl Position.enter (resolve dir a) := by
  simp [resolve, Text.split_append_sep]

theorem dropCommon_append (c as bs : List Text) :
    dropCommon (c ++ as) (c ++ bs) = dropCommon as bs := by
  induction c with
  | nil => rfl
  | cons s c ih => simp [dropCommon, ih]

theorem exists_dropCommon (as bs : List Text) :
    ∃ c, as = c ++ (dropCommon as bs).1 ∧ bs = c ++ (dropCommon as bs).2 := by
  fun_induction dropCommon as bs with
  | case1 as s bs ih =>
    obtain ⟨c, ha, hb⟩ := ih
    exact ⟨s :: c, by simp [← ha], by simp [← hb]⟩
  | case2 | case3 => exact ⟨[], rfl, rfl⟩

end Path

end Transplant
