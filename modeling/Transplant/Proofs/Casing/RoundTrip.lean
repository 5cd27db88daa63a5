import Transplant.Proofs.FileCasing.KebabName

/-! Kebab names that are put into Pascal case and back. On the way there the hyphens go, and on the way
back one is put in wherever a word is seen to begin: at a capital behind a lowercase letter, or between
a capital and a lowercase letter. A digit in front of a word hides it, and so does a word of one letter,
unless this is not the first word and the hidden one goes on with a letter. -/
namespace Transplant.Casing

variable {b : Bool} {c d : Char} {k : Nat} {rest t v w : Text} {words : List Text}

/-- A word of a kebab name: lowercase letters and digits, a letter first. -/
def isWord : Text → Bool
  | [] => false
  | c :: t => c.isLower && t.all fun d => d.isLower || d.isDigit

/-- Whether the hyphen between two words comes back, the first of which is the `k`-th from 0. -/
def isRecovered (k : Nat) (w next : Text) : Bool :=
  (1 < w.length && w.getLast?.any Char.isAlpha) ||
    (w.length == 1 && 0 < k && next[1]?.any Char.isAlpha)

theorem isWord_cons : isWord (c :: t) ↔ c.isLower ∧ ∀ d ∈ t, d.isLower ∨ d.isDigit := by
  simp [isWord]

theorem exists_cons_of_isWord (h : isWord w) :
    ∃ c t, w = c :: t ∧ c.isLower ∧ ∀ d ∈ t, d.isLower ∨ d.isDigit := by
  cases w with
  | nil => cases h
  | cons c t => exact ⟨c, t, rfl, isWord_cons.1 h⟩

theorem hyphen_not_mem_of_isWord (h : isWord w) : '-' ∉ w := by
  obtain ⟨c, t, rfl, hc, ht⟩ := exists_cons_of_isWord h
  intro hmem
  rcases List.mem_cons.1 hmem with rfl | hmem
  · cases hc
  · exact absurd (ht '-' hmem) (by decide)

/-! Characters of a word -/

/-- A capital by its Unicode properties. -/
theorem isUpper_toUpper (h : c.isLower) :
    Unicode.isUpper c.toUpper ∧ Unicode.isLower c.toUpper = false ∧
      Unicode.toLower c.toUpper = [c] := by
  have hlt : c.toNat < 128 := by
    rw [isLower_iff] at h
    omega
  have hc : c.isLower → Unicode.isUpper c.toUpper ∧ Unicode.isLower c.toUpper = false ∧
      Unicode.toLower c.toUpper = [c] := of_forall_ascii hlt (by decide +kernel)
  exact hc h

/-- Any other character of a word by its Unicode properties. -/
theorem isUpper_eq_false (h : c.isLower ∨ c.isDigit) :
    Unicode.isUpper c = false ∧ Unicode.isLower c = c.isAlpha ∧ Unicode.toLower c = [c] := by
  have hlt : c.toNat < 128 := by
    rw [isLower_iff, isDigit_iff] at h
    omega
  have hc : c.isLower ∨ c.isDigit → Unicode.isUpper c = false ∧
      Unicode.isLower c = c.isAlpha ∧ Unicode.toLower c = [c] := of_forall_ascii hlt (by decide +kernel)
  exact hc h

theorem capitalize_cons (h : c.isLower) (t : Text) : capitalize (c :: t) = c.toUpper :: t := by
  have hrange := isLower_iff.1 h
  rw [capitalize, Unicode.toUpper_ascii (by omega)]
  rfl

theorem getLast?_capitalize (h : c.isLower) (t : Text) :
    (capitalize (c :: t)).getLast? = some (t.getLast?.getD c.toUpper) := by
  rw [capitalize_cons h, List.getLast?_cons]

/-! Pascal case -/

theorem toPascal_join (h : ∀ w ∈ words, isWord w) :
    toPascal (Text.join '-' words) = words.flatMap capitalize := by
  by_cases hnil : words = []
  · subst words
    rfl
  · have hfilter : words.filter (· ≠ []) = words := by
      apply List.filter_eq_self.2
      intro w hw
      obtain ⟨c, t, rfl, -⟩ := exists_cons_of_isWord (h w hw)
      rfl
    rw [toPascal, Text.split_join hnil fun w hw => hyphen_not_mem_of_isWord (h w hw), hfilter]

/-- The next word begins with its capital. -/
theorem head?_flatMap_capitalize (h : ∀ w ∈ words, isWord w) :
    (words.flatMap capitalize).head?.any Unicode.isLower = false := by
  cases words with
  | nil => rfl
  | cons w words =>
    obtain ⟨c, t, rfl, hc, -⟩ := exists_cons_of_isWord (h w List.mem_cons_self)
    rw [List.flatMap_cons, capitalize_cons hc]
    exact (isUpper_toUpper hc).2.1

/-! Back to kebab case -/

/-- Within a word no other begins. -/
theorem kebabAfter_append (ht : ∀ c ∈ t, c.isLower ∨ c.isDigit) (b : Bool) (d : Char) (rest : Text) :
    kebabAfter b d (t ++ rest) = t ++ kebabAfter (b && t.isEmpty) (t.getLast?.getD d) rest := by
  induction t generalizing b d with
  | nil => simp
  | cons c t ih =>
    obtain ⟨hupper, -, hsame⟩ := isUpper_eq_false (ht c List.mem_cons_self)
    have hrest := ih (fun d hd => ht d (List.mem_cons_of_mem c hd)) false c
    simp [kebabAfter, beginsWord, hupper, hsame, hrest, List.getLast?_cons]

theorem toKebab_capitalize_append (hw : isWord w) (hd : d ∈ (capitalize w).getLast?) (rest : Text) :
    toKebab (capitalize w ++ rest) = w ++ kebabAfter (w.length == 1) d rest := by
  obtain ⟨c, t, rfl, hc, ht⟩ := exists_cons_of_isWord hw
  rw [getLast?_capitalize hc, Option.mem_some_iff] at hd
  have hone : ((c :: t).length == 1) = t.isEmpty := by cases t <;> rfl
  rw [capitalize_cons hc, List.cons_append, toKebab, (isUpper_toUpper hc).2.2,
    kebabAfter_append ht, hd, hone]
  rfl

theorem kebabAfter_capitalize_append (hw : isWord (c :: t)) (hd : d ∈ (capitalize (c :: t)).getLast?)
    (b : Bool) (prev : Char) (rest : Text) :
    kebabAfter b prev (capitalize (c :: t) ++ rest) =
      (if beginsWord b prev c.toUpper (t ++ rest).head? then ['-'] else []) ++
        (c :: t) ++ kebabAfter false d rest := by
  obtain ⟨hc, ht⟩ := isWord_cons.1 hw
  rw [getLast?_capitalize hc, Option.mem_some_iff] at hd
  rw [capitalize_cons hc, List.cons_append, kebabAfter, (isUpper_toUpper hc).2.2,
    kebabAfter_append ht, hd]
  simp

/-- A capital is the beginning of a word just if the hyphen in front of it is to come back. Only
behind a first word of one letter it is the second character. -/
theorem beginsWord_eq_isRecovered (hv : isWord v) (hw : isWord (c :: t))
    (hd : d ∈ (capitalize v).getLast?) (hrest : rest.head?.any Unicode.isLower = false)
    (hb : v.length = 1 → (b ↔ k = 0)) :
    beginsWord b d c.toUpper (t ++ rest).head? = isRecovered k v (c :: t) := by
  obtain ⟨hc, ht⟩ := isWord_cons.1 hw
  obtain ⟨a, u, rfl, ha, hu⟩ := exists_cons_of_isWord hv
  rw [getLast?_capitalize ha, Option.mem_some_iff] at hd
  subst hd
  have hupper := (isUpper_toUpper hc).1
  rcases List.eq_nil_or_concat u with rfl | ⟨u, e, rfl⟩
  · rw [List.getLast?_nil, Option.getD_none]
    obtain ⟨hdu, hdl, -⟩ := isUpper_toUpper ha
    have hnext : (t ++ rest).head?.any Unicode.isLower = t[0]?.any Char.isAlpha := by
      cases t with
      | nil => exact hrest
      | cons e t => exact (isUpper_eq_false (ht e List.mem_cons_self)).2.1
    have hk : (!b) = decide (0 < k) := by
      have hiff := hb rfl
      cases b <;> simp_all [Nat.pos_iff_ne_zero]
    simp only [beginsWord, hupper, hdu, hdl, hnext, hk]
    simp [isRecovered]
  · rw [List.concat_eq_append] at hu ⊢
    rw [List.getLast?_concat, Option.getD_some]
    obtain ⟨hdu, hdl, -⟩ := isUpper_eq_false (hu e (by simp))
    have hlast : (a :: (u ++ [e])).getLast? = some e := by
      rw [← List.cons_append, List.getLast?_concat]
    simp [beginsWord, isRecovered, hupper, hdu, hdl, hlast]

/-- What holds at each border between two neighbours holds at the first one and at those behind it. -/
theorem forall_border_cons {P : Nat → Text → Text → Prop} :
    (∀ i u next, (v :: w :: words)[i]? = some u → (w :: words)[i]? = some next → P i u next) ↔
      P 0 v w ∧ ∀ i u next, (w :: words)[i]? = some u → words[i]? = some next → P (i + 1) u next := by
  constructor
  · intro h
    exact ⟨h 0 v w rfl rfl, fun i u next hu hn => h (i + 1) u next hu hn⟩
  · rintro ⟨hfirst, hlater⟩ i u next hu hn
    cases i with
    | zero =>
      obtain rfl : v = u := Option.some.inj hu
      obtain rfl : w = next := Option.some.inj hn
      exact hfirst
    | succ i => exact hlater i u next hu hn

/-- The words behind `v` come back with all their hyphens, or not. The induction is on the words, with
`v` for the word that has just been read: its last character and its number are what counts. -/
theorem kebabAfter_flatMap_iff (hv : isWord v) (hwords : ∀ w ∈ words, isWord w)
    (hd : d ∈ (capitalize v).getLast?) (hb : v.length = 1 → (b ↔ k = 0)) :
    kebabAfter b d (words.flatMap capitalize) = words.flatMap ('-' :: ·) ↔
      ∀ i w next, (v :: words)[i]? = some w → words[i]? = some next → isRecovered (k + i) w next := by
  induction words generalizing v b d k with
  | nil => simp [kebabAfter]
  | cons w words ih =>
    have hw := hwords w List.mem_cons_self
    have hall : ∀ w ∈ words, isWord w := fun u hu => hwords u (List.mem_cons_of_mem w hu)
    obtain ⟨c, t, rfl, hc, ht⟩ := exists_cons_of_isWord hw
    have he := getLast?_capitalize hc t
    have hnext := ih hw hall he (k := k + 1) (b := false) (by simp)
    simp only [Nat.add_assoc, Nat.add_comm 1] at hnext
    have hborder := beginsWord_eq_isRecovered hv hw hd (head?_flatMap_capitalize hall) hb
    rw [forall_border_cons, ← hnext, List.flatMap_cons, List.flatMap_cons,
      kebabAfter_capitalize_append hw he, hborder, Nat.add_zero]
    cases isRecovered k v (c :: t) with
    | true => simp
    | false =>
      have hne : c ≠ '-' := by
        rintro rfl
        cases hc
      simp [hne]

/-- A kebab name comes back from Pascal case exactly if each hyphen does: the word in front of it has at
least two characters and ends in a letter, or it is a single letter, not the first word, and
the next word has a letter for its second character. -/
theorem toKebab_toPascal_eq_iff (h : ∀ w ∈ words, isWord w) :
    toKebab (toPascal (Text.join '-' words)) = Text.join '-' words ↔
      ∀ k w next, words[k]? = some w → words[k + 1]? = some next → isRecovered k w next := by
  rw [toPascal_join h]
  cases words with
  | nil => simp [Text.join, toKebab]
  | cons v words =>
    have hv := h v List.mem_cons_self
    have hwords : ∀ w ∈ words, isWord w := fun w hw => h w (List.mem_cons_of_mem v hw)
    obtain ⟨c, t, rfl, hc, -⟩ := exists_cons_of_isWord hv
    have hd := getLast?_capitalize hc t
    have hrun := kebabAfter_flatMap_iff hv hwords hd (k := 0) (b := (c :: t).length == 1) (by simp)
    rw [List.flatMap_cons, toKebab_capitalize_append hv hd, Text.join_cons, List.append_cancel_left_eq,
      hrun]
    simp

/-- A single letter in the middle, in front of a word that spells itself out. -/
theorem toKebab_toPascal_eq_iff_single_letter :
    let words := ["use".toList, "x".toList, "axis2".toList]
    (∀ w ∈ words, isWord w) ∧
      (∀ k w next, words[k]? = some w → words[k + 1]? = some next → isRecovered k w next) ∧
        toPascal "use-x-axis2".toList = "UseXAxis2".toList ∧
          toKebab (toPascal "use-x-axis2".toList) = "use-x-axis2".toList := by
  intro words
  have hwords : ∀ w ∈ words, isWord w := by decide
  have hborders : ∀ k w next, words[k]? = some w → words[k + 1]? = some next →
      isRecovered k w next := by
    intro k w next hw hn
    match k with
    | 0 | 1 =>
      obtain rfl := Option.some.inj hw
      obtain rfl := Option.some.inj hn
      decide
    | k + 2 => cases hn
  exact ⟨hwords, hborders, by decide, (toKebab_toPascal_eq_iff hwords).2 hborders⟩

-- In front it is taken for the capital of the next word.
example : toKebab (toPascal "v-form".toList) = "vform".toList := by
  decide

end Transplant.Casing
