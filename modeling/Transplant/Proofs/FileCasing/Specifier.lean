import Transplant.Proofs.FileCasing.KebabName
import Transplant.Proofs.Text.Parts

/-! What becomes of a specifier whose file name is put into kebab case. The new name stays as it is,
unless it is `index`: then the directory in front of it counts as the file. -/
namespace Transplant

variable {a b p r s t name : Text} {dirs parts suffix : List Text} {c : Char}

namespace FileCasing
open Casing

/-! Names -/

/-- A file name up to its first point. -/
def stem (name : Text) : Text := name.takeWhile (· != '.')

/-- The rest of a file name, from its first point on. -/
def extension (name : Text) : Text := name.dropWhile (· != '.')

/-- A file name with its stem in kebab case. -/
def kebabName (name : Text) : Text := toKebab (stem name) ++ extension name

/-- The directories in front of a name that has been put into kebab case: the last one is dropped if
it has the same name. -/
def newDirs (dirs : List Text) (name : Text) : List Text :=
  if dirs.getLast?.any fun dir => !isDots dir && toKebab dir == toKebab (stem name) then
    dropDuplicate dirs else dirs

theorem stem_append (ha : '.' ∉ a) (hb : b = [] ∨ b.head? = some '.') :
    stem (a ++ b) = a ∧ extension (a ++ b) = b := by
  have hall : ∀ c ∈ a, (c != '.') = true := by
    intro c hc
    rw [bne_iff_ne]
    rintro rfl
    exact ha hc
  have hrest : b.takeWhile (· != '.') = [] ∧ b.dropWhile (· != '.') = b := by
    rcases hb with rfl | hb
    · exact ⟨rfl, rfl⟩
    · obtain ⟨b, rfl⟩ := List.head?_eq_some_iff.1 hb
      simp
  rw [stem, extension, List.takeWhile_append_of_pos hall, List.dropWhile_append_of_pos hall,
    hrest.1, hrest.2, List.append_nil]
  exact ⟨rfl, rfl⟩

theorem kebabParts?_eq (dirs : List Text) (name : Text) : kebabParts? dirs name =
    if isPascal (stem name) then some (newDirs dirs name ++ [kebabName name]) else none := by
  rw [kebabParts?]
  cases h : name.splitFirst? '.' with
  | none =>
    obtain ⟨hstem, hext⟩ := stem_append (Text.splitFirst?_eq_none_iff.1 h) (.inl rfl)
    rw [List.append_nil] at hstem hext
    simp only [newDirs, kebabName, hstem, hext]
  | some found =>
    obtain ⟨a, b⟩ := found
    obtain ⟨rfl, ha⟩ := Text.splitFirst?_eq_some_iff.1 h
    obtain ⟨hstem, hext⟩ := stem_append (b := '.' :: b) ha (.inr rfl)
    simp only [newDirs, kebabName, hstem, hext]

theorem point_not_mem_toKebab (h : isPascal s) : '.' ∉ toKebab s := by
  obtain ⟨c, k, hk, -, hall⟩ := exists_toKebab_eq h
  rw [hk]
  intro hpoint
  exact absurd (hall '.' hpoint) (by decide)

theorem head?_extension (name : Text) : extension name = [] ∨ (extension name).head? = some '.' := by
  cases hext : extension name with
  | nil => exact .inl rfl
  | cons c e =>
    right
    have hhead := List.head?_dropWhile_not (· != '.') name
    rw [← extension, hext] at hhead
    simpa using hhead

theorem stem_kebabName (h : isPascal (stem name)) : stem (kebabName name) = toKebab (stem name) :=
  (stem_append (point_not_mem_toKebab h) (head?_extension name)).1

theorem isPascal_stem_kebabName (h : isPascal (stem name)) :
    isPascal (stem (kebabName name)) = false := by
  rw [stem_kebabName h]
  exact isPascal_toKebab h

theorem kebabName_ne (h : isPascal (stem name)) : kebabName name ≠ name := by
  intro he
  have hnot := isPascal_stem_kebabName h
  rw [he, h] at hnot
  cases hnot

theorem mem_kebabName (h : isPascal (stem name)) (hc : c ∈ kebabName name) :
    isKebabChar c ∨ c ∈ name := by
  rcases List.mem_append.1 hc with hc | hc
  · obtain ⟨d, k, hk, -, hall⟩ := exists_toKebab_eq h
    rw [hk] at hc
    exact .inl (hall c hc)
  · exact .inr ((List.dropWhile_suffix _).subset hc)

/-! Directories -/

theorem mem_dropDuplicate (h : p ∈ dropDuplicate dirs) : p ∈ dirs ∨ p = ['.'] := by
  have hup (h : p ∈ dirs.dropLast.erase ['.', '.']) : p ∈ dirs :=
    List.dropLast_subset dirs (List.mem_of_mem_erase h)
  simp only [dropDuplicate] at h
  split at h
  · exact .inl (hup h)
  · rcases List.mem_cons.1 h with rfl | h
    · exact .inr rfl
    · exact .inl (hup h)

theorem mem_newDirs (h : p ∈ newDirs dirs name) : p ∈ dirs ∨ p = ['.'] := by
  rw [newDirs] at h
  split at h
  · exact mem_dropDuplicate h
  · exact .inl h

/-- Dots stay in front. -/
theorem head?_newDirs (h : dirs.head?.any isDots) (name : Text) :
    (newDirs dirs name).head?.any isDots := by
  rw [newDirs]
  split
  · simp only [dropDuplicate]
    split
    · assumption
    · rfl
  · exact h

theorem newDirs_ne_nil (h : dirs ≠ []) : newDirs dirs name ≠ [] := by
  rw [newDirs]
  split
  · simp only [dropDuplicate]
    split
    · rename_i hup
      intro he
      simp [he] at hup
    · exact List.cons_ne_nil _ _
  · exact h

/-! Specifiers -/

theorem splitIndex_concat_index (h : 1 < parts.length) :
    splitIndex (parts ++ [index]) = (parts, [index]) := by
  simp [splitIndex, h]

theorem splitIndex_concat (h : ¬ (1 < parts.length ∧ name = index)) :
    splitIndex (parts ++ [name]) = (parts ++ [name], []) := by
  apply if_neg
  rintro ⟨hlen, hlast⟩
  rw [List.getLast?_concat] at hlast
  rw [List.length_append, List.length_singleton] at hlen
  exact h ⟨by omega, Option.some.inj hlast⟩

/-- The directories of a specifier and the name that is looked at, behind which `index` may stand. -/
theorem exists_parts (s : Text) : ∃ dirs name suffix, s.split '/' = dirs ++ name :: suffix ∧
    splitIndex (s.split '/') = (dirs ++ [name], suffix) ∧
      (suffix = [] ∨ suffix = [index] ∧ dirs ≠ []) := by
  obtain ⟨parts, last, hparts⟩ := Text.exists_split_concat '/' s
  rw [hparts]
  by_cases hindex : 1 < parts.length ∧ last = index
  · obtain ⟨hlen, rfl⟩ := hindex
    rcases List.eq_nil_or_concat parts with rfl | ⟨dirs, name, rfl⟩
    · simp at hlen
    · rw [List.concat_eq_append] at hlen ⊢
      refine ⟨dirs, name, [index], by simp, splitIndex_concat_index hlen, .inr ⟨rfl, ?_⟩⟩
      rintro rfl
      simp at hlen
  · exact ⟨parts, last, [], rfl, splitIndex_concat hindex, .inl rfl⟩

theorem split_join_new {dirs suffix : List Text} (hs : s.split '/' = dirs ++ name :: suffix)
    (h : isPascal (stem name)) :
    (Text.join '/' (newDirs dirs name ++ kebabName name :: suffix)).split '/' =
      newDirs dirs name ++ kebabName name :: suffix := by
  have hold : ∀ p ∈ dirs ++ name :: suffix, '/' ∉ p := by
    rw [← hs]
    exact fun p => Text.not_mem_of_mem_split
  apply Text.split_join (by simp)
  intro p hp hslash
  rcases List.mem_append.1 hp with hp | hp
  · rcases mem_newDirs hp with hp | rfl
    · exact hold p (by simp [hp]) hslash
    · exact absurd hslash (by decide)
  · rcases List.mem_cons.1 hp with rfl | hp
    · rcases mem_kebabName h hslash with hkebab | hname
      · exact absurd hkebab (by decide)
      · exact hold name (by simp) hname
    · exact hold p (by simp [hp]) hslash

/-- A specifier is changed when its file name is in Pascal case, and then into another one. -/
theorem specifier?_eq {dirs suffix : List Text} (hs : s.split '/' = dirs ++ name :: suffix)
    (hsplit : splitIndex (s.split '/') = (dirs ++ [name], suffix)) : specifier? s =
      if isPascal (stem name) then
        some (Text.join '/' (newDirs dirs name ++ kebabName name :: suffix)) else none := by
  have hlast : (dirs ++ [name]).getLast? = some name := List.getLast?_concat
  simp only [specifier?, hsplit, hlast, List.dropLast_concat, kebabParts?_eq, Option.bind_eq_bind,
    Option.bind_some]
  by_cases h : isPascal (stem name)
  · have hne : Text.join '/' (newDirs dirs name ++ kebabName name :: suffix) ≠ s := by
      intro he
      have hparts := split_join_new hs h
      rw [he, hs] at hparts
      have hcancel : dirs ++ [name] ++ suffix = newDirs dirs name ++ [kebabName name] ++ suffix := by
        simpa using hparts
      have hlast := congrArg List.getLast? (List.append_cancel_right hcancel)
      rw [List.getLast?_concat, List.getLast?_concat] at hlast
      exact kebabName_ne h (Option.some.inj hlast).symm
    simp [h, hne]
  · simp [h]

theorem specifier?_ne_self : specifier? s ≠ some s := by
  intro h
  obtain ⟨name, -, h⟩ := Option.bind_eq_some_iff.1 h
  obtain ⟨parts, -, h⟩ := Option.bind_eq_some_iff.1 h
  dsimp only at h
  split at h
  · cases h
  · rename_i hne
    exact hne (Option.some.inj h)

/-- What a specifier is changed into, part by part. -/
theorem exists_of_specifier? (h : specifier? s = some r) : ∃ dirs name suffix,
    s.split '/' = dirs ++ name :: suffix ∧ (suffix = [] ∨ suffix = [index] ∧ dirs ≠ []) ∧
      isPascal (stem name) ∧ r.split '/' = newDirs dirs name ++ kebabName name :: suffix := by
  obtain ⟨dirs, name, suffix, hs, hsplit, hsuffix⟩ := exists_parts s
  rw [specifier?_eq hs hsplit] at h
  split at h
  · rename_i hpascal
    obtain rfl := Option.some.inj h
    exact ⟨dirs, name, suffix, hs, hsuffix, hpascal, split_join_new hs hpascal⟩
  · cases h

/-! What can be changed again -/

/-- Whether the change of a specifier lets its file name become an `index` that names the file of the
directory in front of it, which is in Pascal case. -/
def exposes (s : Text) : Bool :=
  let parts := s.split '/'
  let name := parts.getLastD []
  let dirs := newDirs parts.dropLast name
  isPascal (stem name) && kebabName name == index && decide (1 < dirs.length) &&
    isPascal (stem (dirs.getLastD []))

theorem exposes_eq (hs : s.split '/' = dirs ++ [name]) : exposes s = (isPascal (stem name) &&
    kebabName name == index && decide (1 < (newDirs dirs name).length) &&
      isPascal (stem ((newDirs dirs name).getLastD []))) := by
  simp [exposes, hs]

theorem exposes_of_index (hs : s.split '/' = dirs ++ [index]) : exposes s = false := by
  rw [exposes_eq hs]
  rfl

theorem exposes_eq_false_of_specifier?_eq_none (h : specifier? s = none) : exposes s = false := by
  obtain ⟨dirs, name, suffix, hs, hsplit, hsuffix⟩ := exists_parts s
  have hpascal : isPascal (stem name) = false := by
    rw [specifier?_eq hs hsplit] at h
    split at h
    · cases h
    · rename_i hnot
      simpa using hnot
  rcases hsuffix with rfl | ⟨rfl, -⟩
  · rw [exposes_eq hs, hpascal]
    rfl
  · have hparts : s.split '/' = (dirs ++ [name]) ++ [index] := by simp [hs]
    exact exposes_of_index hparts

/-- A changed specifier is changed again only if its directory has been exposed. -/
theorem specifier?_eq_none_iff_of_specifier? (h : specifier? s = some r) :
    specifier? r = none ↔ exposes s = false := by
  obtain ⟨dirs, name, suffix, hs, hsuffix, hpascal, hr⟩ := exists_of_specifier? h
  have hnot := isPascal_stem_kebabName hpascal
  generalize hD : newDirs dirs name = newdirs at hr
  rcases hsuffix with rfl | ⟨rfl, hdirs⟩
  · have hexposes := exposes_eq hs
    rw [hpascal, hD] at hexposes
    by_cases hindex : 1 < newdirs.length ∧ kebabName name = index
    · obtain ⟨hlen, hindex⟩ := hindex
      rcases List.eq_nil_or_concat newdirs with rfl | ⟨ups, dir, rfl⟩
      · simp at hlen
      · rw [List.concat_eq_append] at hlen hr hexposes
        have hsplit : splitIndex (r.split '/') = (ups ++ [dir], [index]) := by
          rw [hr, hindex]
          exact splitIndex_concat_index hlen
        rw [specifier?_eq (by rw [hr, hindex]; simp) hsplit, hexposes, hindex]
        have hlen' : 1 < ups.length + 1 := by simpa using hlen
        simp [hlen']
    · have hsplit : splitIndex (r.split '/') = (newdirs ++ [kebabName name], []) := by
        rw [hr]
        exact splitIndex_concat hindex
      rw [specifier?_eq hr hsplit, hnot, hexposes]
      simp only [Bool.false_eq_true, if_false, Bool.true_and, Bool.and_eq_false_iff, true_iff]
      left
      rw [beq_eq_false_iff_ne, decide_eq_false_iff_not]
      by_contra hboth
      obtain ⟨hname, hlen⟩ := not_or.1 hboth
      exact hindex ⟨not_not.1 hlen, not_not.1 hname⟩
  · have hparts : s.split '/' = (dirs ++ [name]) ++ [index] := by simp [hs]
    have hlen : 1 < (newdirs ++ [kebabName name]).length := by
      have hne : newdirs ≠ [] := hD ▸ newDirs_ne_nil hdirs
      have hpos := List.length_pos_iff.2 hne
      rw [List.length_append, List.length_singleton]
      omega
    have hsplit : splitIndex (r.split '/') = (newdirs ++ [kebabName name], [index]) := by
      have hassoc : newdirs ++ kebabName name :: [index] = newdirs ++ [kebabName name] ++ [index] := by
        simp
      rw [hr, hassoc]
      exact splitIndex_concat_index hlen
    rw [specifier?_eq hr hsplit, hnot, exposes_of_index hparts]
    simp

/-! Relative specifiers -/

theorem isRelative_iff_head? : Specifier.isRelative s ↔ (s.split '/').head?.any isDots := by
  constructor
  · intro h
    unfold Specifier.isRelative at h
    split at h
    · decide
    · decide
    · rfl
    · rfl
    · cases h
  · intro h
    obtain ⟨d, parts, hparts⟩ := List.exists_cons_of_ne_nil (@Text.split_ne_nil '/' s)
    have hdots : d = ['.'] ∨ d = ['.', '.'] := by simpa [hparts, isDots] using h
    rw [← Text.join_split '/' s, hparts]
    cases parts with
    | nil => rcases hdots with rfl | rfl <;> decide
    | cons p parts =>
      rw [Text.join_cons_cons]
      rcases hdots with rfl | rfl <;> rfl

section
variable (h : specifier? s = some r) (hrelative : Specifier.isRelative s)
include h hrelative

/-- There are dots in front of the name that is changed, and they stay. -/
theorem exists_of_relative : ∃ dirs name suffix,
    s.split '/' = dirs ++ name :: suffix ∧ (suffix = [] ∨ suffix = [index]) ∧
      isPascal (stem name) ∧ r.split '/' = newDirs dirs name ++ kebabName name :: suffix ∧
        dirs.head?.any isDots := by
  obtain ⟨dirs, name, suffix, hs, hsuffix, hpascal, hr⟩ := exists_of_specifier? h
  refine ⟨dirs, name, suffix, hs, hsuffix.imp id And.left, hpascal, hr, ?_⟩
  rw [isRelative_iff_head?, hs] at hrelative
  cases dirs with
  | cons d dirs => exact hrelative
  | nil =>
    have hdots : name = ['.'] ∨ name = ['.', '.'] := by simpa [isDots] using hrelative
    rcases hdots with rfl | rfl <;> cases hpascal

theorem isRelative_of_specifier? : Specifier.isRelative r := by
  obtain ⟨dirs, name, suffix, -, -, -, hr, hdots⟩ := exists_of_relative h hrelative
  have hnew := head?_newDirs hdots name
  rw [isRelative_iff_head?, hr]
  cases hD : newDirs dirs name with
  | nil => simp [hD] at hnew
  | cons d dirs => simpa [hD] using hnew

theorem isSpecifier_of_specifier? (hs : Source.IsSpecifier s) : Source.IsSpecifier r := by
  have hnew := isRelative_of_specifier? h hrelative
  obtain ⟨dirs, name, suffix, hparts, -, hpascal, hr, -⟩ := exists_of_relative h hrelative
  have hold : ∀ p ∈ dirs ++ name :: suffix, ∀ c ∈ p, Source.inSpecifier c := by
    rw [← hparts]
    exact fun p hp c hc => hs.2 c (Text.mem_of_mem_split hp hc)
  constructor
  · rintro rfl
    cases hnew
  · intro c hc
    rw [← Text.join_split '/' r, hr] at hc
    rcases Text.mem_join hc with rfl | ⟨p, hp, hc⟩
    · decide
    · rcases List.mem_append.1 hp with hp | hp
      · rcases mem_newDirs hp with hp | rfl
        · exact hold p (by simp [hp]) c hc
        · obtain rfl := List.mem_singleton.1 hc
          decide
      · rcases List.mem_cons.1 hp with rfl | hp
        · rcases mem_kebabName hpascal hc with hkebab | hname
          · exact inSpecifier_of_isKebabChar hkebab
          · exact hold name (by simp) c hname
        · exact hold p (by simp [hp]) c hc

/-- A block comment is opened only where one was. -/
theorem opens_of_specifier? (hopen : "/*".toList <:+: r) : "/*".toList <:+: s := by
  obtain ⟨dirs, name, suffix, hparts, hsuffix, hpascal, hr, hdots⟩ := exists_of_relative h hrelative
  have hiff (t : Text) : "/*".toList <:+: t ↔ ∃ p ∈ (t.split '/').tail, p.head? = some '*' :=
    Text.infix_pair_iff (by decide)
  obtain ⟨p, hp, hstar⟩ := (hiff r).1 hopen
  refine (hiff s).2 ⟨p, ?_, hstar⟩
  rw [hr] at hp
  rw [hparts]
  have hdirs : p ∈ dirs := by
    rcases List.mem_append.1 (List.mem_of_mem_tail hp) with hp | hp
    · rcases mem_newDirs hp with hp | rfl
      · exact hp
      · cases hstar
    · rcases List.mem_cons.1 hp with rfl | hp
      · obtain ⟨c, k, hk, hlower, -⟩ := exists_toKebab_eq hpascal
        rw [kebabName, hk] at hstar
        obtain rfl : c = '*' := by simpa using hstar
        exact absurd hlower (by decide)
      · rcases hsuffix with rfl | rfl
        · cases hp
        · rw [List.mem_singleton.1 hp] at hstar
          exact absurd hstar (by decide)
  cases dirs with
  | nil => cases hdirs
  | cons d dirs =>
    rcases List.mem_cons.1 hdirs with rfl | hdirs
    · have hd : p = ['.'] ∨ p = ['.', '.'] := by simpa [isDots] using hdots
      rcases hd with rfl | rfl <;> cases hstar
    · exact List.mem_append_left _ hdirs

end

end FileCasing

end Transplant
