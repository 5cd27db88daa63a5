import Transplant.Proofs.FileCasing.Specifier
import Transplant.Proofs.Path.Resolve

/-! What becomes of a written specifier, which climbs some levels and goes down along names. Its last name,
or the one in front of an `index`, is put into kebab case. All else stays, unless the directory in front
of it has that name too: then the two become one, and the specifier climbs one level less. -/
namespace Transplant

variable {names ns dirs suffix : List Text} {d name : Text} {k : Nat}

namespace FileCasing
open Casing Transplant.Path

/-- Names that end in the name of a file in Pascal case. Where the file is a directory, an `index` may
stand behind it. -/
structure EndsInPascal (names dirs : List Text) (name : Text) (suffix : List Text) : Prop where
  eq : names = dirs ++ name :: suffix
  suffix_eq : suffix = [] ∨ suffix = [index]
  isPascal : isPascal (stem name)

theorem isDots_eq_false_of_isName (h : IsName d) : isDots d = false := by
  simp [isDots, h.ne_dot, h.ne_dots]

theorem isDots_of_mem_dots (h : d ∈ dots k) : isDots d := by
  rcases mem_dots h with rfl | rfl <;> rfl

theorem isDots_eq_false_of_isPascal (h : isPascal (stem name)) : isDots name = false := by
  cases hdots : isDots name with
  | false => rfl
  | true =>
    have hor : name = ['.'] ∨ name = ['.', '.'] := by simpa [isDots] using hdots
    rcases hor with rfl | rfl <;> cases h

theorem isName_kebabName (hname : IsName name) (h : isPascal (stem name)) :
    IsName (kebabName name) := by
  obtain ⟨c, l, hk, hc, -⟩ := exists_toKebab_eq h
  have hcons : kebabName name = c :: (l ++ extension name) := by rw [kebabName, hk]; rfl
  have hpoint : c ≠ '.' := by
    rintro rfl
    cases hc
  refine ⟨by simp [hcons], by simp [hcons, hpoint], by simp [hcons, hpoint], fun hslash => ?_⟩
  rcases mem_kebabName h hslash with hkebab | hslash
  · exact absurd hkebab (by decide)
  · exact hname.no_slash hslash

/-- There are names in a specifier whose file has got its new name, and perhaps lost a directory. -/
theorem EndsInPascal.isName_renamed (h : EndsInPascal names dirs name suffix)
    (hnames : ∀ a ∈ names, IsName a) (hsubset : ns ⊆ dirs) :
    ∀ a ∈ ns ++ kebabName name :: suffix, IsName a := by
  rw [h.eq] at hnames
  intro a ha
  rcases List.mem_append.1 ha with ha | ha
  · exact hnames a (List.mem_append_left _ (hsubset ha))
  · rcases List.mem_cons.1 ha with rfl | ha
    · exact isName_kebabName (hnames name (by simp)) h.isPascal
    · exact hnames a (by simp [ha])

theorem ne_index_of_isPascal (h : isPascal (stem name)) : name ≠ index := by
  rintro rfl
  cases h

/-- Where the name of the file is looked for. -/
theorem splitIndex_append (hsuffix : suffix = [] ∨ suffix = [index]) (hindex : name ≠ index)
    (hdirs : dirs ≠ []) : splitIndex (dirs ++ name :: suffix) = (dirs ++ [name], suffix) := by
  rcases hsuffix with rfl | rfl
  · apply splitIndex_concat
    rintro ⟨-, hname⟩
    exact hindex hname
  · have hlength := List.length_pos_iff.2 hdirs
    have hassoc : dirs ++ name :: [index] = (dirs ++ [name]) ++ [index] := by simp
    rw [hassoc]
    apply splitIndex_concat_index
    rw [List.length_append, List.length_singleton]
    omega

/-- The file name of a written specifier is put into kebab case, if it is in Pascal case. -/
theorem specifier?_specifierOf (hnames : ∀ a ∈ dirs ++ name :: suffix, IsName a)
    (hsuffix : suffix = [] ∨ suffix = [index]) (hindex : name ≠ index) (k : Nat) :
    specifier? (specifierOf k (dirs ++ name :: suffix)) = if isPascal (stem name) then
      some (Text.join '/' (newDirs (dots k ++ dirs) name ++ kebabName name :: suffix)) else none := by
  have hparts : (specifierOf k (dirs ++ name :: suffix)).split '/' =
      (dots k ++ dirs) ++ name :: suffix := by
    rw [split_specifierOf hnames, List.append_assoc]
  have hne : dots k ++ dirs ≠ [] := by simp [dots_ne_nil]
  have hsplit := splitIndex_append hsuffix hindex hne
  exact specifier?_eq hparts (hparts ▸ hsplit)

/-- A specifier whose file name is not in Pascal case stays. -/
theorem specifier?_specifierOf_eq_none (hnames : ∀ a ∈ names, IsName a)
    (h : ∀ dirs name suffix, ¬ EndsInPascal names dirs name suffix) (k : Nat) :
    specifier? (specifierOf k names) = none := by
  obtain ⟨dirs, name, suffix, hs, hsplit, hsuffix⟩ := exists_parts (specifierOf k names)
  rw [specifier?_eq hs hsplit]
  apply if_neg
  intro hpascal
  rw [split_specifierOf hnames] at hs
  have hnot (ns : List Text) : names ≠ ns ++ name :: suffix := fun he =>
    h ns name suffix ⟨he, hsuffix.imp id And.left, hpascal⟩
  rcases List.append_eq_append_iff.1 hs with ⟨x, -, hx⟩ | ⟨x, hx, hnames'⟩
  · exact hnot x hx
  · cases x with
    | nil => exact hnot [] hnames'.symm
    | cons d x =>
      obtain ⟨rfl, -⟩ := List.cons.inj hnames'
      have hdots : isDots name := isDots_of_mem_dots (k := k) (by simp [hx])
      rw [isDots_eq_false_of_isPascal hpascal] at hdots
      cases hdots

/-! Directories of the same name as the file in them -/

theorem newDirs_of_ne (h : ∀ d, ns.getLast? = some d → toKebab d ≠ toKebab (stem name)) (k : Nat) :
    newDirs (dots k ++ ns) name = dots k ++ ns := by
  apply if_neg
  rw [Option.any_eq_true]
  rintro ⟨d, hlast, hsame⟩
  simp only [Bool.and_eq_true, Bool.not_eq_true', beq_iff_eq] at hsame
  rw [List.getLast?_append, Option.or_eq_some_iff] at hlast
  rcases hlast with hlast | ⟨-, hlast⟩
  · exact h d hlast hsame.2
  · rw [isDots_of_mem_dots (List.mem_of_getLast? hlast)] at hsame
    exact absurd hsame.1 (by decide)

/-- The directory gives way to the file, and a level that is climbed goes with it. -/
theorem newDirs_of_eq (hdirs : ∀ a ∈ dirs, IsName a) (hd : IsName d)
    (h : toKebab d = toKebab (stem name)) (k : Nat) :
    newDirs (dots k ++ (dirs ++ [d])) name = dots (k - 1) ++ dirs := by
  have hdots := isDots_eq_false_of_isName hd
  rw [newDirs, ← List.append_assoc, List.getLast?_concat, if_pos (by simp [hdots, h]), dropDuplicate,
    List.dropLast_concat]
  cases k with
  | zero =>
    have hnot : ['.', '.'] ∉ ['.'] :: dirs := by
      intro hmem
      rcases List.mem_cons.1 hmem with he | hmem
      · cases he
      · exact (hdirs _ hmem).ne_dots rfl
    have herase : (dots 0 ++ dirs).erase ['.', '.'] = dots 0 ++ dirs := List.erase_of_not_mem hnot
    rw [herase]
    rfl
  | succ k =>
    have herase : (dots (k + 1) ++ dirs).erase ['.', '.'] = List.replicate k ['.', '.'] ++ dirs := by
      rw [dots, if_neg (Nat.succ_ne_zero k), List.replicate_succ, List.cons_append,
        List.erase_cons_head]
    rw [herase, Nat.add_sub_cancel]
    cases k with
    | zero =>
      have hhead : dirs.head?.any isDots = false := by
        cases dirs with
        | nil => rfl
        | cons a dirs => exact isDots_eq_false_of_isName (hdirs a List.mem_cons_self)
      simp [hhead, dots]
    | succ k => rfl

section
variable (hsuffix : suffix = [] ∨ suffix = [index]) (hpascal : isPascal (stem name))
include hsuffix hpascal

theorem specifier?_of_ne (hnames : ∀ a ∈ dirs ++ name :: suffix, IsName a)
    (hne : ∀ d, dirs.getLast? = some d → toKebab d ≠ toKebab (stem name)) (k : Nat) :
    specifier? (specifierOf k (dirs ++ name :: suffix)) =
      some (specifierOf k (dirs ++ kebabName name :: suffix)) := by
  rw [specifier?_specifierOf hnames hsuffix (ne_index_of_isPascal hpascal), if_pos hpascal,
    newDirs_of_ne hne, specifierOf_eq, List.append_assoc]

theorem specifier?_of_eq (hnames : ∀ a ∈ (dirs ++ [d]) ++ name :: suffix, IsName a)
    (hsame : toKebab d = toKebab (stem name)) (k : Nat) :
    specifier? (specifierOf k ((dirs ++ [d]) ++ name :: suffix)) =
      some (specifierOf (k - 1) (dirs ++ kebabName name :: suffix)) := by
  have hdirs : ∀ a ∈ dirs, IsName a := fun a ha => hnames a (by simp [ha])
  have hd : IsName d := hnames d (by simp)
  rw [specifier?_specifierOf hnames hsuffix (ne_index_of_isPascal hpascal), if_pos hpascal,
    newDirs_of_eq hdirs hd hsame, specifierOf_eq, List.append_assoc]

end

/-- What a written specifier becomes: it stays, or its file gets its new name, or the file takes the
place of the last directory, and a level is lost. -/
theorem cases_specifier? (hnames : ∀ a ∈ names, IsName a) (k : Nat) :
    let cased := (specifier? (specifierOf k names)).getD (specifierOf k names)
    (cased = specifierOf k names ∧ ∀ dirs name suffix, ¬ EndsInPascal names dirs name suffix) ∨
      ∃ dirs name suffix, EndsInPascal names dirs name suffix ∧
        (((∀ d, dirs.getLast? = some d → toKebab d ≠ toKebab (stem name)) ∧
            cased = specifierOf k (dirs ++ kebabName name :: suffix)) ∨
          ∃ front d, dirs = front ++ [d] ∧ toKebab d = toKebab (stem name) ∧
            cased = specifierOf (k - 1) (front ++ kebabName name :: suffix)) := by
  intro cased
  by_cases h : ∃ dirs name suffix, EndsInPascal names dirs name suffix
  · obtain ⟨dirs, name, suffix, h⟩ := h
    obtain ⟨rfl, hsuffix, hpascal⟩ := h
    refine .inr ⟨dirs, name, suffix, ⟨rfl, hsuffix, hpascal⟩, ?_⟩
    by_cases hne : ∀ d, dirs.getLast? = some d → toKebab d ≠ toKebab (stem name)
    · left
      exact ⟨hne, by simp only [cased, specifier?_of_ne hsuffix hpascal hnames hne, Option.getD_some]⟩
    · right
      push Not at hne
      obtain ⟨d, hlast, hsame⟩ := hne
      obtain ⟨front, rfl⟩ := List.getLast?_eq_some_iff.1 hlast
      refine ⟨front, d, rfl, hsame, ?_⟩
      simp only [cased, specifier?_of_eq hsuffix hpascal hnames hsame, Option.getD_some]
  · left
    push Not at h
    refine ⟨?_, h⟩
    simp only [cased, specifier?_specifierOf_eq_none hnames h, Option.getD_none]

/-- The exact result for a written specifier. One whose last name is not in Pascal case, up to its first
point, is left alone. If it is, only this part of the name changes, and so the specifier leads to the
same place but for the name, from every directory. But where the directory in front has the same
name in kebab case, it is dropped together with one of the levels that the specifier climbs. -/
theorem specifier?_written (hdirs : ∀ a ∈ dirs, IsName a) (hname : IsName name)
    (hindex : name ≠ index) (hsuffix : suffix = [] ∨ suffix = [index]) (k : Nat) :
    let s := specifierOf k (dirs ++ name :: suffix)
    (isPascal (stem name) = false → specifier? s = none) ∧
      (isPascal (stem name) →
        ((∀ d, dirs.getLast? = some d → toKebab d ≠ toKebab (stem name)) →
          let r := specifierOf k (dirs ++ kebabName name :: suffix)
          specifier? s = some r ∧ ∀ dir, ∃ ups above,
            resolve dir s = ⟨ups, above ++ name :: suffix⟩ ∧
              resolve dir r = ⟨ups, above ++ kebabName name :: suffix⟩) ∧
        ∀ front d, dirs = front ++ [d] → toKebab d = toKebab (stem name) →
          specifier? s = some (specifierOf (k - 1) (front ++ kebabName name :: suffix))) := by
  intro s
  have hsuffix' : ∀ a ∈ suffix, IsName a := by
    rcases hsuffix with rfl | rfl
    · simp
    · decide
  have hnames (n : Text) (hn : IsName n) : ∀ a ∈ dirs ++ n :: suffix, IsName a := by
    intro a ha
    rcases List.mem_append.1 ha with ha | ha
    · exact hdirs a ha
    · rcases List.mem_cons.1 ha with rfl | ha
      · exact hn
      · exact hsuffix' a ha
  have hold := hnames name hname
  refine ⟨?_, fun hpascal => ⟨fun hne => ⟨?_, ?_⟩, ?_⟩⟩
  · intro hnot
    have heq := specifier?_specifierOf hold hsuffix hindex k
    rwa [hnot] at heq
  · exact specifier?_of_ne hsuffix hpascal hold hne k
  · intro dir
    have hnew := hnames (kebabName name) (isName_kebabName hname hpascal)
    let p := Position.climb ⟨0, dir⟩ k
    refine ⟨p.ups, p.segments ++ dirs, ?_, ?_⟩
    · rw [resolve_specifierOf hold, List.append_assoc]
      rfl
    · rw [resolve_specifierOf hnew, List.append_assoc]
      rfl
  · rintro front d rfl hsame
    exact specifier?_of_eq hsuffix hpascal hold hsame k

/-- A file in a directory of its own name, one level up. -/
theorem specifier?_written_own_directory :
    let dirs := ["forms".toList, "FileList".toList]
    let name := "FileList.module.css".toList
    (∀ a ∈ dirs, IsName a) ∧ IsName name ∧ name ≠ index ∧ isPascal (stem name) ∧
      specifierOf 1 (dirs ++ [name]) = "../forms/FileList/FileList.module.css".toList ∧
        specifier? (specifierOf 1 (dirs ++ [name])) =
          some "./forms/file-list.module.css".toList := by
  intro dirs name
  have hdirs : ∀ a ∈ dirs, IsName a := by decide
  have hname : IsName name := by decide
  have hindex : name ≠ index := by decide
  have hpascal : isPascal (stem name) := by decide
  have hwritten := specifier?_written hdirs hname hindex (.inl rfl) 1
  exact ⟨hdirs, hname, hindex, hpascal, by decide,
    (hwritten.2 hpascal).2 ["forms".toList] "FileList".toList rfl (by decide)⟩

end FileCasing

end Transplant
