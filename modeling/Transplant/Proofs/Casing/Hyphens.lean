import Transplant.Proofs.Casing.RoundTrip

/-! The hyphens in the kebab name of a name in Pascal case. Each stands in front of a letter, since it is
put there for a capital, and nothing else is changed but the case of the letters. So where the hyphens
stand says all about the kebab name. -/
namespace Transplant.Casing

variable {a b k s t u v : Text} {c d p : Char}

/-- A kebab name as a file may have it: words that begin with a letter, and one hyphen between each two. -/
structure WellFormed (k : Text) : Prop where
  ne_nil : k ≠ []
  begins : k.head?.any Char.isLower
  chars : ∀ c ∈ k, isKebabChar c
  ends : k.getLast? ≠ some '-'
  single : ¬ ['-', '-'] <:+: k
  followed : ∀ a b, k = a ++ '-' :: b → b.head?.any Char.isLower

/-- What is left of a kebab name without its hyphens. -/
def withoutHyphens (k : Text) : Text := k.filter (· ≠ '-')

/-- Whether a hyphen stands behind certain letters and digits with which a kebab name begins. -/
def HyphenBehind (letters k : Text) : Prop :=
  ∃ u v, k = u ++ '-' :: v ∧ withoutHyphens u = letters

/-- Where each hyphen is followed by a letter none is the last, and no two are neighbours. -/
theorem WellFormed.of_followed (hne : k ≠ []) (hbegins : k.head?.any Char.isLower)
    (hchars : ∀ c ∈ k, isKebabChar c)
    (h : ∀ a b, k = a ++ '-' :: b → b.head?.any Char.isLower) : WellFormed k where
  ne_nil := hne
  begins := hbegins
  chars := hchars
  ends hlast := by
    obtain ⟨a, rfl⟩ := List.getLast?_eq_some_iff.1 hlast
    exact absurd (h a [] rfl) (by decide)
  single hpair := by
    obtain ⟨a, b, rfl⟩ := hpair
    have hhead := h a ('-' :: b) (by simp)
    exact absurd hhead (by simp)
  followed := h

/-! One character -/

theorem toLower_ne_hyphen (hc : c.isAlphanum) : c.toLower ≠ '-' := by
  intro he
  have hhyphen : c = '-' := (toLower_eq_iff (by decide) (by decide)).1 he
  exact absurd (hhyphen ▸ hc) (by decide)

theorem isUpper_of_isKebabChar (h : isKebabChar c) :
    Unicode.isUpper c = false ∧ Unicode.toLower c = [c] := by
  simp only [isKebabChar, Bool.or_eq_true, beq_iff_eq] at h
  rcases h with h | rfl
  · obtain ⟨hupper, -, hsame⟩ := isUpper_eq_false h
    exact ⟨hupper, hsame⟩
  · decide

/-- A word begins at a capital behind a small letter, and also between a capital and a small letter
unless it is the second character. -/
theorem beginsWord_iff (atSecond : Bool) (hp : p.isAlphanum) (hc : c.isAlphanum)
    (hs : ∀ d ∈ s, d.isAlphanum) : beginsWord atSecond p c s.head? ↔
      c.isUpper ∧ (p.isLower ∨ atSecond = false ∧ p.isUpper ∧ s.head?.any Char.isLower) := by
  have hnext : s.head?.any Unicode.isLower = s.head?.any Char.isLower := by
    cases s with
    | nil => rfl
    | cons d s => exact Unicode.isLower_ascii (toNat_lt_of_isAlphanum (hs d List.mem_cons_self))
  rw [beginsWord, hnext, Unicode.isUpper_ascii (toNat_lt_of_isAlphanum hc),
    Unicode.isUpper_ascii (toNat_lt_of_isAlphanum hp), Unicode.isLower_ascii (toNat_lt_of_isAlphanum hp)]
  simp [and_assoc]

/-! What a hyphen is followed by -/

/-- The induction is on the name, with the letter or digit `c` that has been written last: a hyphen
behind it is put there for a capital. -/
theorem head?_of_kebabAfter (hc : c ≠ '-') (hs : ∀ e ∈ s, e.isAlphanum) {atSecond : Bool}
    (h : c :: kebabAfter atSecond d s = a ++ '-' :: b) : b.head?.any Char.isLower := by
  induction s generalizing atSecond a c d with
  | nil =>
    have hmem : '-' ∈ [c] := h ▸ List.mem_append_right a List.mem_cons_self
    exact absurd (List.mem_singleton.1 hmem).symm hc
  | cons e s ih =>
    have he : e.isAlphanum := hs e List.mem_cons_self
    have hs : ∀ c ∈ s, c.isAlphanum := fun c hc => hs c (List.mem_cons_of_mem e hc)
    cases a with
    | nil => exact absurd (List.cons.inj h).1 hc
    | cons x a =>
      have hrest := (List.cons.inj h).2
      rw [kebabAfter_cons he] at hrest
      split at hrest
      · rename_i hword
        cases a with
        | nil =>
          have hupper : e.isUpper := by
            rw [beginsWord, Unicode.isUpper_ascii (toNat_lt_of_isAlphanum he), Bool.and_eq_true] at hword
            exact hword.1
          obtain rfl := (List.cons.inj hrest).2
          exact (toLower_of_isAlphanum he).2 hupper
        | cons y a => exact ih (toLower_ne_hyphen he) hs (List.cons.inj hrest).2
      · exact ih (toLower_ne_hyphen he) hs hrest

theorem head?_of_toKebab (hs : isPascal s) (h : toKebab s = a ++ '-' :: b) :
    b.head?.any Char.isLower := by
  cases s with
  | nil => cases hs
  | cons c s =>
    have hc : c.isAlphanum := isAlphanum_of_isPascal hs List.mem_cons_self
    rw [toKebab_cons hc] at h
    exact head?_of_kebabAfter (toLower_ne_hyphen hc) (isPascal_cons.1 hs).2 h

/-! What stands between the hyphens -/

@[simp] theorem withoutHyphens_append (a b : Text) :
    withoutHyphens (a ++ b) = withoutHyphens a ++ withoutHyphens b := by
  simp [withoutHyphens]

theorem withoutHyphens_cons_of_ne (h : c ≠ '-') (k : Text) :
    withoutHyphens (c :: k) = c :: withoutHyphens k := by
  simp [withoutHyphens, h]

/-- Up to any character there is what the name has up to it. The induction is on what the name has. -/
theorem exists_kebabAfter_append (ha : ∀ c ∈ a, c.isAlphanum) (hp : p.isAlphanum) (atSecond : Bool)
    (d : Char) (b : Text) : ∃ u,
      kebabAfter atSecond d (a ++ p :: b) = u ++ p.toLower :: kebabAfter false p b ∧
        withoutHyphens u = a.map Char.toLower := by
  have hhyphen : ∀ word : Bool, withoutHyphens (if word then ['-'] else []) = [] := by decide
  induction a generalizing atSecond d with
  | nil => exact ⟨_, kebabAfter_cons hp atSecond d b, hhyphen _⟩
  | cons e a ih =>
    have he : e.isAlphanum := ha e List.mem_cons_self
    obtain ⟨u, hu, hletters⟩ := ih (fun c hc => ha c (List.mem_cons_of_mem e hc)) false e
    refine ⟨(if beginsWord atSecond d e (a ++ p :: b).head? then ['-'] else []) ++ e.toLower :: u,
      ?_, ?_⟩
    · rw [List.cons_append, kebabAfter_cons he, hu, List.append_assoc, List.cons_append]
    · rw [withoutHyphens_append, hhyphen, withoutHyphens_cons_of_ne (toLower_ne_hyphen he), hletters]
      rfl

/-- The same in a whole name, where what goes on behind the first character goes on with the second. -/
theorem exists_toKebab_append (ha : ∀ c ∈ a, c.isAlphanum) (hp : p.isAlphanum) (b : Text) : ∃ u,
    toKebab (a ++ p :: b) = u ++ p.toLower :: kebabAfter a.isEmpty p b ∧
      withoutHyphens (u ++ [p.toLower]) = (a ++ [p]).map Char.toLower := by
  have hlast : withoutHyphens [p.toLower] = [p.toLower] :=
    withoutHyphens_cons_of_ne (toLower_ne_hyphen hp) []
  cases a with
  | nil =>
    refine ⟨[], ?_, hlast⟩
    exact toKebab_cons hp b
  | cons e a =>
    have he : e.isAlphanum := ha e List.mem_cons_self
    obtain ⟨u, hu, hletters⟩ :=
      exists_kebabAfter_append (fun c hc => ha c (List.mem_cons_of_mem e hc)) hp true e b
    refine ⟨e.toLower :: u, ?_, ?_⟩
    · rw [List.cons_append, toKebab_cons he, hu]
      rfl
    · rw [withoutHyphens_append, withoutHyphens_cons_of_ne (toLower_ne_hyphen he), hletters, hlast]
      simp

theorem withoutHyphens_toKebab (hs : ∀ c ∈ s, c.isAlphanum) :
    withoutHyphens (toKebab s) = s.map Char.toLower := by
  rcases List.eq_nil_or_concat s with rfl | ⟨a, p, rfl⟩
  · rfl
  · rw [List.concat_eq_append] at hs ⊢
    have ha : ∀ c ∈ a, c.isAlphanum := fun c hc => hs c (List.mem_append_left _ hc)
    obtain ⟨u, hu, hletters⟩ := exists_toKebab_append ha (hs p (by simp)) []
    rwa [hu]

/-! Where the hyphens stand -/

/-- Two letters side by side leave no room for a hyphen: nothing in front of one has all the letters up to
the first of the two and no more. -/
theorem withoutHyphens_ne (hp : p ≠ '-') (hc : c ≠ '-') (h : u ++ [p] ++ c :: t = a ++ '-' :: b) :
    withoutHyphens a ≠ withoutHyphens (u ++ [p]) := by
  intro heq
  rcases List.append_eq_append_iff.1 h with ⟨x, rfl, hx⟩ | ⟨x, hx, hb⟩
  · cases x with
    | nil => exact hc (List.cons.inj hx).1
    | cons e x =>
      obtain rfl := (List.cons.inj hx).1
      rw [withoutHyphens_append _ (c :: x), withoutHyphens_cons_of_ne hc, List.append_right_eq_self] at heq
      cases heq
  · rcases List.eq_nil_or_concat x with rfl | ⟨x, e, rfl⟩
    · exact hc (List.cons.inj hb).1.symm
    · rw [List.concat_eq_append, ← List.append_assoc] at hx
      obtain ⟨rfl, he⟩ := List.append_inj' hx rfl
      simp [withoutHyphens_cons_of_ne hp] at heq

/-- A hyphen stands between two neighbours just if a word begins at the second. -/
theorem hyphenBehind_iff (hs : ∀ d ∈ a ++ p :: c :: b, d.isAlphanum) :
    HyphenBehind ((a ++ [p]).map Char.toLower) (toKebab (a ++ p :: c :: b)) ↔
      beginsWord a.isEmpty p c b.head? := by
  have ha : ∀ d ∈ a, d.isAlphanum := fun d hd => hs d (List.mem_append_left _ hd)
  have hp : p.isAlphanum := hs p (by simp)
  have hc : c.isAlphanum := hs c (by simp)
  obtain ⟨u, hu, hletters⟩ := exists_toKebab_append ha hp (c :: b)
  rw [hu, kebabAfter_cons hc]
  cases beginsWord a.isEmpty p c b.head? with
  | true =>
    refine iff_of_true ⟨u ++ [p.toLower], c.toLower :: kebabAfter false c b, ?_, hletters⟩ rfl
    simp
  | false =>
    refine iff_of_false ?_ (by simp)
    rintro ⟨x, y, hxy, hx⟩
    have hsame : u ++ [p.toLower] ++ c.toLower :: kebabAfter false c b = x ++ '-' :: y := by
      simpa using hxy
    exact withoutHyphens_ne (toLower_ne_hyphen hp) (toLower_ne_hyphen hc) hsame (hx.trans hletters.symm)

/-! The whole name -/

theorem toKebab_eq_self (hne : k ≠ []) (h : ∀ c ∈ k, isKebabChar c) : toKebab k = k := by
  have hkebab : isKebab k := by
    simpa [isKebab, hne] using fun c hc => (isUpper_of_isKebabChar (h c hc)).1
  rw [toKebab_of_isKebab hkebab]
  calc k.flatMap Unicode.toLower
    _ = k.flatMap fun c => [c] := List.flatMap_congr fun c hc => (isUpper_of_isKebabChar (h c hc)).2
    _ = k := by simp

/-- The kebab name of a name in Pascal case is well formed. It has the letters and digits of the name, and
a hyphen between two of them just if the second is a capital that begins a word: one behind a small
letter, or one between a capital and a small letter, of which the first capital is not the name's first
character. -/
theorem toKebab_wellFormed (h : isPascal s) :
    WellFormed (toKebab s) ∧ withoutHyphens (toKebab s) = s.map Char.toLower ∧
      isPascal (toKebab s) = false ∧ toKebab (toKebab s) = toKebab s ∧
        ∀ a p c b, s = a ++ p :: c :: b →
          (HyphenBehind ((a ++ [p]).map Char.toLower) (toKebab s) ↔
            c.isUpper ∧ (p.isLower ∨ a ≠ [] ∧ p.isUpper ∧ b.head?.any Char.isLower)) := by
  have hall : ∀ c ∈ s, c.isAlphanum := fun c => isAlphanum_of_isPascal h
  obtain ⟨d, k, hk, hd, hchars⟩ := exists_toKebab_eq h
  rw [← hk] at hchars
  have hne : toKebab s ≠ [] := by simp [hk]
  have hbegins : (toKebab s).head?.any Char.isLower := by simpa [hk] using hd
  refine ⟨.of_followed hne hbegins hchars fun a b => head?_of_toKebab h, withoutHyphens_toKebab hall,
    isPascal_toKebab h, toKebab_eq_self hne hchars, ?_⟩
  rintro a p c b rfl
  rw [hyphenBehind_iff hall, beginsWord_iff _ (hall p (by simp)) (hall c (by simp))
    fun d hd => hall d (by simp [hd])]
  simp

/-- A name that begins with a single capital, and has a digit in front of a run of capitals. -/
theorem toKebab_wellFormed_of_acronyms :
    let name : Text := "VForm2HTMLInput".toList
    let kebab : Text := "vform2html-input".toList
    isPascal name ∧ toKebab name = kebab ∧ WellFormed kebab ∧
      withoutHyphens kebab = "vform2htmlinput".toList ∧ toKebab kebab = kebab ∧
        HyphenBehind "vform2html".toList kebab := by
  intro name kebab
  have hname : isPascal name := by decide
  have hkebab : toKebab name = kebab := by decide
  obtain ⟨hform, hletters, -, hsame, hhyphens⟩ := toKebab_wellFormed hname
  rw [hkebab] at hform hletters hsame hhyphens
  have hinput := (hhyphens "VForm2HTM".toList 'L' 'I' "nput".toList (by decide)).2 (by decide)
  exact ⟨hname, hkebab, hform, hletters, hsame, hinput⟩

end Transplant.Casing
