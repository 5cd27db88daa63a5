import Mathlib.Data.Setoid.Basic
import Transplant.Path

/-! Spellings of a path. A path can be written with backslashes or with slashes, with several of them
in a row, and with a `.` among its segments, and it can be the path of another file in the same
directory. The directories that lead to the file are the same. -/
namespace Transplant.Path

variable {a b name p q : Text}

/-- What a name in a path may come behind: nothing, or a slash. -/
def Opens (front : Text) : Prop := front = [] ∨ ∃ d, front = d ++ ['/']

/-- A name that a file can have: one segment of a path. -/
structure IsFileName (name : Text) : Prop where
  ne_nil : name ≠ []
  ne_dot : name ≠ ['.']
  no_slash : '/' ∉ name
  no_backslash : '\\' ∉ name

/-- One change of a path that stays in its directories. -/
inductive Variation : Text → Text → Prop where
  | backslash (a b : Text) : Variation (a ++ '/' :: b) (a ++ '\\' :: b)
  | doubled (a b : Text) : Variation (a ++ '/' :: b) (a ++ '/' :: '/' :: b)
  | dot {front : Text} (h : Opens front) (b : Text) : Variation (front ++ b) (front ++ '.' :: '/' :: b)
  | lastDot (a : Text) : Variation a (a ++ ['/', '.'])
  /-- Another file in the same directory. -/
  | file {front name name' : Text} (h : Opens front) (hname : IsFileName name)
      (hname' : IsFileName name') : Variation (front ++ name) (front ++ name')

@[simp] theorem split_nil : split [] = [] := rfl

@[simp] theorem split_dot : split ['.'] = [] := rfl

@[simp] theorem split_append_slash (a b : Text) : split (a ++ '/' :: b) = split a ++ split b := by
  simp [split, Text.split_append_sep]

@[simp] theorem split_append_backslash (a b : Text) : split (a ++ '\\' :: b) = split a ++ split b := by
  simp [split, Text.split_append_sep]

theorem Opens.split_append (h : Opens a) (b : Text) : split (a ++ b) = split a ++ split b := by
  rcases h with rfl | ⟨d, rfl⟩
  · rfl
  · simp

theorem IsFileName.split_eq (h : IsFileName name) : split name = [name] := by
  have hsame : name.map (fun c => if c = '\\' then '/' else c) = name := by
    conv => rhs; rw [← List.map_id name]
    apply List.map_congr_left
    intro c hc
    have hne : c ≠ '\\' := fun he => h.no_backslash (he ▸ hc)
    simp [hne]
  rw [split, hsame, Text.split_of_not_mem h.no_slash]
  simp [h.ne_nil, h.ne_dot]

/-- The directories of a path that is put below others. -/
theorem parentDirs_append_slash (a : Text) (h : split p ≠ []) :
    parentDirs (a ++ '/' :: p) = split a ++ parentDirs p := by
  rw [parentDirs, split_append_slash, List.dropLast_append_of_ne_nil h, parentDirs]

theorem parentDirs_append_slash_of_nil (a : Text) (h : split p = []) :
    parentDirs (a ++ '/' :: p) = parentDirs a := by
  rw [parentDirs, split_append_slash, h, List.append_nil, parentDirs]

theorem Variation.parentDirs_eq (h : Variation p q) : parentDirs p = parentDirs q := by
  cases h with
  | backslash a b => simp [parentDirs]
  | doubled a b =>
    have hb : split ('/' :: b) = split b := split_append_slash [] b
    simp [parentDirs, hb]
  | dot h b =>
    have hb : split ('.' :: '/' :: b) = split b := split_append_slash ['.'] b
    simp [parentDirs, h.split_append, hb]
  | lastDot a => simp [parentDirs]
  | file h hname hname' => simp [parentDirs, h.split_append, hname.split_eq, hname'.split_eq]

/-- Any number of such changes, made or undone, lead from a path to one in the same directories. -/
theorem parentDirs_eq_of_variations (h : Relation.EqvGen Variation p q) :
    parentDirs p = parentDirs q :=
  Setoid.eqvGen_le (s := Setoid.ker parentDirs) (fun _ _ h => h.parentDirs_eq) h

end Transplant.Path
