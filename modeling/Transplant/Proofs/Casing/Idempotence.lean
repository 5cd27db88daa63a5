import Transplant.Proofs.Casing.Lowercase

/-! Names that are put into kebab case twice. In the first result no character has another lowercase, so
the second differs from it only by hyphens. There are more of them if a capital that has no lowercase
is seen to begin a word only when its neighbours are in lowercase. -/
namespace Transplant.Casing

open Unicode

variable {P : Bool → Char → Char → Text → Bool} {b b' : Bool} {c d d' : Char} {s t : Text}

/-! Neighbours in a text -/

/-- Whether something holds of two neighbours in the rest of a text and of what follows them, given the
character before the rest. It is said whether the second neighbour is the second character of all. -/
def somewhereAfter (P : Bool → Char → Char → Text → Bool) (atSecond : Bool) (prev : Char) : Text → Bool
  | [] => false
  | c :: cs => P atSecond prev c cs || somewhereAfter P false c cs

/-- The same in a whole text. -/
def somewhere (P : Bool → Char → Char → Text → Bool) : Text → Bool
  | [] => false
  | c :: cs => somewhereAfter P true c cs

theorem somewhereAfter_eq_false_iff : somewhereAfter P b d s = false ↔
    ∀ a p c r, d :: s = a ++ p :: c :: r → P (b && a.isEmpty) p c r = false := by
  induction s generalizing b d with
  | nil =>
    refine ⟨fun _ a p c r h => ?_, fun _ => rfl⟩
    have hlen := congrArg List.length h
    simp at hlen
    omega
  | cons e s ih =>
    rw [somewhereAfter, Bool.or_eq_false_iff, ih]
    constructor
    · rintro ⟨hfirst, hlater⟩ a p c r h
      cases a with
      | nil =>
        obtain ⟨rfl, rfl, rfl⟩ : d = p ∧ e = c ∧ s = r := by simpa using h
        simpa using hfirst
      | cons x a =>
        have hrest := hlater a p c r (List.cons.inj h).2
        simpa using hrest
    · intro h
      refine ⟨by simpa using h [] d e s rfl, fun a p c r hs => ?_⟩
      have hrest := h (d :: a) p c r (by rw [hs]; rfl)
      simpa using hrest

theorem somewhere_eq_false_iff : somewhere P s = false ↔
    ∀ a p c r, s = a ++ p :: c :: r → P a.isEmpty p c r = false := by
  cases s with
  | nil => simp [somewhere]
  | cons d s =>
    rw [somewhere, somewhereAfter_eq_false_iff]
    simp only [Bool.true_and]

/-! Texts that are in kebab case -/

/-- Whether a word begins at `c`, behind `prev`. -/
def wordAt (atSecond : Bool) (prev c : Char) (rest : Text) : Bool :=
  beginsWord atSecond prev c rest.head?

/-- Whether a word begins at `c` when the characters around it are in kebab case, but not before: then
`c` is a capital that has no lowercase itself. -/
def beginsLate (atSecond : Bool) (prev c : Char) (rest : Text) : Bool :=
  toLower c == [c] && !beginsWord atSecond prev c rest.head? &&
    (toLower prev).getLast?.any fun p => beginsWord atSecond p c (kebabAfter false c rest).head?

theorem beginsWord_of_isUpper_eq_false (h : isUpper c = false) (b : Bool) (d : Char)
    (next? : Option Char) : beginsWord b d c next? = false := by
  simp [beginsWord, h]

theorem length_le_kebabAfter (b : Bool) (d : Char) (s : Text) :
    s.length ≤ (kebabAfter b d s).length := by
  induction s generalizing b d with
  | nil => exact Nat.zero_le _
  | cons c s ih =>
    have hpos : 0 < (toLower c).length := List.length_pos_of_ne_nil (toLower_ne_nil c)
    have hrest := ih false c
    simp only [kebabAfter, List.length_append, List.length_cons]
    omega

theorem kebabAfter_eq_self_iff (b : Bool) (d : Char) (s : Text) : kebabAfter b d s = s ↔
    (∀ c ∈ s, toLower c = [c]) ∧ somewhereAfter wordAt b d s = false := by
  induction s generalizing b d with
  | nil => simp [kebabAfter, somewhereAfter]
  | cons c s ih =>
    rw [kebabAfter, somewhereAfter, List.forall_mem_cons, wordAt]
    cases hword : beginsWord b d c s.head? with
    | true =>
      have hpos : 0 < (toLower c).length := List.length_pos_of_ne_nil (toLower_ne_nil c)
      have hrest := length_le_kebabAfter false c s
      refine iff_of_false (fun h => ?_) (by simp)
      have hlen := congrArg List.length h
      simp at hlen
      omega
    | false =>
      rcases toLower_cases c with rfl | ⟨e, he, -⟩
      · simp [toLower_dotted]
      · simp only [he, Bool.false_eq_true, if_false, List.nil_append, List.singleton_append,
          List.cons.injEq, and_true, Bool.false_or, ih false c]
        tauto

/-- A text is its own kebab case if there is nothing to put into lowercase and nowhere to put a hyphen. -/
theorem toKebab_eq_self_iff (s : Text) : toKebab s = s ↔
    (∀ c ∈ s, toLower c = [c]) ∧ somewhere wordAt s = false := by
  cases s with
  | nil => simp [toKebab, somewhere]
  | cons c s =>
    rw [toKebab, somewhere, List.forall_mem_cons]
    rcases toLower_cases c with rfl | ⟨e, he, -⟩
    · simp [toLower_dotted]
    · simp only [he, List.singleton_append, List.cons.injEq, and_true, kebabAfter_eq_self_iff]
      tauto

/-! The second time -/

theorem toLower_of_mem_kebabAfter (h : c ∈ kebabAfter b d s) : toLower c = [c] := by
  induction s generalizing b d with
  | nil => cases h
  | cons e s ih =>
    rw [kebabAfter, List.mem_append, List.mem_append] at h
    rcases h with (h | h) | h
    · split at h
      · rw [List.mem_singleton.1 h]
        decide +kernel
      · cases h
    · exact toLower_of_mem_toLower h
    · exact ih h

theorem toLower_of_mem_toKebab (h : c ∈ toKebab s) : toLower c = [c] := by
  cases s with
  | nil => cases h
  | cons d s =>
    rw [toKebab, List.mem_append] at h
    rcases h with h | h
    · exact toLower_of_mem_toLower h
    · exact toLower_of_mem_kebabAfter h

theorem somewhereAfter_wordAt_cons (h : isUpper c = false) (b : Bool) (d : Char) (t : Text) :
    somewhereAfter wordAt b d (c :: t) = somewhereAfter wordAt false c t := by
  simp [somewhereAfter, wordAt, beginsWord, h]

/-- No word begins behind a hyphen, nor at it. -/
theorem somewhereAfter_wordAt_hyphen (b : Bool) (d c : Char) (t : Text) :
    somewhereAfter wordAt b d ('-' :: c :: t) = somewhereAfter wordAt false c t := by
  have hupper : isUpper '-' = false := by decide
  have hlower : isLower '-' = false := by decide
  simp [somewhereAfter, wordAt, beginsWord, hupper, hlower]

/-- Whether a character is the second does not count behind the one letter whose lowercase is two. -/
theorem beginsWord_congr (hd : d' ∈ (toLower d).getLast?) (hb : b' = b ∨ d = 'İ') (c : Char)
    (next? : Option Char) : beginsWord b' d' c next? = beginsWord b d' c next? := by
  rcases hb with rfl | rfl
  · rfl
  · obtain rfl : '\u0307' = d' := by simpa [toLower_dotted] using hd
    have hupper : isUpper '\u0307' = false := by decide +kernel
    simp [beginsWord, hupper]

/-- The words that begin in a kebab name begin late in the name itself. The induction is on the name,
with the character `d'` that the first run has put in place of `d`. Only one letter is put in place of
another by two, so that a second character may become a third, and no word begins behind it. -/
theorem somewhereAfter_kebabAfter (hd : d' ∈ (toLower d).getLast?) (hb : b' = b ∨ d = 'İ') :
    somewhereAfter wordAt b' d' (kebabAfter b d s) = somewhereAfter beginsLate b d s := by
  induction s generalizing b b' d d' with
  | nil => rfl
  | cons c s ih =>
    rw [somewhereAfter, beginsLate, kebabAfter]
    rcases toLower_cases c with rfl | ⟨e, he, hcase⟩
    · have hi : isUpper 'i' = false := by decide
      have hdot : isUpper '\u0307' = false := by decide +kernel
      have hrest : somewhereAfter wordAt false '\u0307' (kebabAfter false 'İ' s) =
          somewhereAfter beginsLate false 'İ' s := ih (by rw [toLower_dotted]; rfl) (.inr rfl)
      rw [toLower_dotted, ← hrest]
      split
      · simp [somewhereAfter_wordAt_hyphen, somewhereAfter_wordAt_cons hdot]
      · simp [somewhereAfter_wordAt_cons hi, somewhereAfter_wordAt_cons hdot]
    · have hrest : somewhereAfter wordAt false e (kebabAfter false c s) =
          somewhereAfter beginsLate false c s := ih (by rw [he]; rfl) (.inl rfl)
      rw [he, ← hrest]
      cases hword : beginsWord b d c s.head? with
      | true => simp [somewhereAfter_wordAt_hyphen]
      | false =>
        by_cases hsame : e = c
        · subst e
          simp [somewhereAfter, wordAt, Option.mem_def.1 hd, beginsWord_congr hd hb]
        · obtain ⟨hupper, -⟩ := hcase.resolve_left hsame
          simp [somewhereAfter_wordAt_cons hupper, hsame]

theorem somewhere_toKebab (s : Text) : somewhere wordAt (toKebab s) = somewhere beginsLate s := by
  cases s with
  | nil => rfl
  | cons c s =>
    rcases toLower_cases c with rfl | ⟨d, hd, -⟩
    · have hdot : isUpper '\u0307' = false := by decide +kernel
      rw [toKebab, toLower_dotted, somewhere]
      exact (somewhereAfter_wordAt_cons hdot true 'i' _).trans
        (somewhereAfter_kebabAfter (by rw [toLower_dotted]; rfl) (.inr rfl))
    · rw [toKebab, hd, somewhere]
      exact somewhereAfter_kebabAfter (by rw [hd]; rfl) (.inl rfl)

/-- A name that is in kebab case already stays as it is just if it has no titlecase letter, which is not
uppercase but has a lowercase. A name that has been put into kebab case stays as it is just if no word
began late in it: at a capital without a lowercase, behind or in front of a letter that has one. -/
theorem toKebab_toKebab_eq_iff (s : Text) :
    (isKebab s → (toKebab s = s ↔ ∀ c ∈ s, isTitle c = false)) ∧
      (toKebab (toKebab s) = toKebab s ↔
        ∀ a p c b, s = a ++ p :: c :: b → beginsLate a.isEmpty p c b = false) := by
  constructor
  · intro h
    have hupper : ∀ c ∈ s, isUpper c = false := by
      simpa [isKebab] using (Bool.and_eq_true_iff.1 h).2
    have hword : somewhere wordAt s = false := by
      rw [somewhere_eq_false_iff]
      rintro a p c r rfl
      exact beginsWord_of_isUpper_eq_false (hupper c (by simp)) _ _ _
    rw [toKebab_eq_self_iff, hword]
    simp only [and_true]
    exact forall₂_congr fun c hc => toLower_eq_self_iff (hupper c hc)
  · rw [toKebab_eq_self_iff, somewhere_toKebab, somewhere_eq_false_iff]
    exact and_iff_right fun c hc => toLower_of_mem_toKebab hc

/-- A kebab name with a digit, and a capital without a lowercase behind a letter that is lowercase from
the beginning. -/
theorem toKebab_toKebab_eq_iff_of_kebab :
    let kebab : Text := "input-block2".toList
    let camel : Text := "setOfℝ".toList
    isKebab kebab ∧ toKebab kebab = kebab ∧ toKebab camel = "set-of-ℝ".toList ∧
      toKebab (toKebab camel) = toKebab camel := by
  intro kebab camel
  have hkebab : isKebab kebab := by decide +kernel
  have htitle : ∀ c ∈ kebab, isTitle c = false := by decide +kernel
  have hlate : somewhere beginsLate camel = false := by decide +kernel
  exact ⟨hkebab, ((toKebab_toKebab_eq_iff kebab).1 hkebab).2 htitle, by decide +kernel,
    (toKebab_toKebab_eq_iff camel).2.2 (somewhere_eq_false_iff.1 hlate)⟩

/-- A titlecase letter, which is no uppercase character, is put into lowercase all the same, and a
capital without a lowercase is seen to begin a word only behind the lowercase of another. -/
theorem toKebab_toKebab_ne_of_capital :
    let title : Text := "ǅep".toList
    let capital : Text := "Aℝ".toList
    isKebab title ∧ toKebab title = "ǆep".toList ∧ toKebab title ≠ title ∧
      toKebab capital = "aℝ".toList ∧ toKebab (toKebab capital) = "a-ℝ".toList ∧
        toKebab (toKebab capital) ≠ toKebab capital := by
  decide +kernel

end Transplant.Casing
