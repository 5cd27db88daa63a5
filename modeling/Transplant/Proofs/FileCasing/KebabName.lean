import Transplant.FileCasing
import Transplant.Proofs.Text.Parts

/-! Kebab names of names in Pascal case. They are of lowercase letters, digits and hyphens, with a
letter in front, and so never in Pascal case themselves. -/
namespace Transplant.Casing

variable {c d : Char} {s w : Text}

/-- A character of a kebab name. -/
def isKebabChar (c : Char) : Bool := c.isLower || c.isDigit || c == '-'

theorem inSpecifier_of_isKebabChar (h : isKebabChar c) : Source.inSpecifier c := by
  cases hin : Source.inSpecifier c with
  | true => rfl
  | false =>
    simp only [Source.inSpecifier, Source.isQuote, Source.isLineEnd, Bool.and_eq_false_iff,
      Bool.not_eq_false', Bool.or_eq_true, beq_iff_eq] at hin
    rcases hin with (rfl | rfl) | rfl | rfl <;> exact absurd h (by decide)

/-! ASCII letters and digits by their code points -/

theorem isUpper_iff : c.isUpper ↔ 65 ≤ c.toNat ∧ c.toNat ≤ 90 := decide_eq_true_iff

theorem isLower_iff : c.isLower ↔ 97 ≤ c.toNat ∧ c.toNat ≤ 122 :=
  Bool.and_eq_true_iff.trans (and_congr decide_eq_true_iff decide_eq_true_iff)

theorem isDigit_iff : c.isDigit ↔ 48 ≤ c.toNat ∧ c.toNat ≤ 57 :=
  Bool.and_eq_true_iff.trans (and_congr decide_eq_true_iff decide_eq_true_iff)

theorem isAlphanum_iff : c.isAlphanum ↔ (c.isUpper ∨ c.isLower) ∨ c.isDigit :=
  Bool.or_eq_true_iff.trans (or_congr_left Bool.or_eq_true_iff)

theorem toNat_lt_of_isAlphanum (h : c.isAlphanum) : c.toNat < 128 := by
  rw [isAlphanum_iff, isUpper_iff, isLower_iff, isDigit_iff] at h
  omega

theorem isAlphanum_of_isPascal (h : isPascal s) (hc : c ∈ s) : c.isAlphanum := by
  cases s with
  | nil => cases h
  | cons d s =>
    obtain ⟨hd, hs⟩ := isPascal_cons.1 h
    rcases List.mem_cons.1 hc with rfl | hc
    · exact isAlphanum_iff.2 (.inl (.inl hd))
    · exact hs c hc

/-- What holds at all code points of ASCII holds of each of its characters. -/
@[elab_as_elim]
theorem of_forall_ascii {P : Char → Prop} (hc : c.toNat < 128) (h : ∀ n < 128, P (Char.ofNat n)) :
    P c := by
  rw [← Char.ofNat_toNat c]
  exact h c.toNat hc

theorem toLower_of_isAlphanum (h : c.isAlphanum) :
    isKebabChar c.toLower ∧ (c.isUpper → c.toLower.isLower) := by
  have hc : c.isAlphanum → isKebabChar c.toLower ∧ (c.isUpper → c.toLower.isLower) :=
    of_forall_ascii (toNat_lt_of_isAlphanum h) (by decide)
  exact hc h

theorem toLower_eq_self (h : c.isUpper = false) : c.toLower = c := dif_neg (of_decide_eq_false h)

/-- Only capital letters are changed, and into letters. -/
theorem toLower_eq_iff (hupper : d.isUpper = false) (hlower : d.isLower = false) :
    c.toLower = d ↔ c = d := by
  constructor
  · intro h
    cases hc : c.isUpper with
    | false => rw [← h, toLower_eq_self hc]
    | true =>
      have hletter := (toLower_of_isAlphanum (isAlphanum_iff.2 (.inl (.inl hc)))).2 hc
      rw [h, hlower] at hletter
      cases hletter
  · rintro rfl
    exact toLower_eq_self hupper

theorem toKebab_cons (hc : c.isAlphanum) (s : Text) :
    toKebab (c :: s) = c.toLower :: kebabAfter true c s := by
  rw [toKebab, Unicode.toLower_ascii (toNat_lt_of_isAlphanum hc)]
  rfl

theorem kebabAfter_cons (hc : c.isAlphanum) (b : Bool) (d : Char) (s : Text) :
    kebabAfter b d (c :: s) =
      (if beginsWord b d c s.head? then ['-'] else []) ++ c.toLower :: kebabAfter false c s := by
  rw [kebabAfter, Unicode.toLower_ascii (toNat_lt_of_isAlphanum hc), List.append_assoc]
  rfl

theorem isKebabChar_of_mem_kebabAfter {b : Bool} (hs : ∀ c ∈ s, c.isAlphanum)
    (h : c ∈ kebabAfter b d s) : isKebabChar c := by
  induction s generalizing b d with
  | nil => cases h
  | cons e s ih =>
    have he := hs e List.mem_cons_self
    rw [kebabAfter_cons he] at h
    rcases List.mem_append.1 h with h | h
    · split at h
      · rw [List.mem_singleton.1 h]
        decide
      · cases h
    · rcases List.mem_cons.1 h with rfl | h
      · exact (toLower_of_isAlphanum he).1
      · exact ih (fun c hc => hs c (List.mem_cons_of_mem e hc)) h

/-- The kebab name of a name in Pascal case. -/
theorem exists_toKebab_eq (h : isPascal s) :
    ∃ c k, toKebab s = c :: k ∧ c.isLower ∧ ∀ d ∈ c :: k, isKebabChar d := by
  cases s with
  | nil => cases h
  | cons c s =>
    obtain ⟨hc, hs⟩ := isPascal_cons.1 h
    have halpha : c.isAlphanum := isAlphanum_of_isPascal h List.mem_cons_self
    obtain ⟨hkebab, hlower⟩ := toLower_of_isAlphanum halpha
    refine ⟨c.toLower, kebabAfter true c s, toKebab_cons halpha s, hlower hc, ?_⟩
    intro d hd
    rcases List.mem_cons.1 hd with rfl | hd
    · exact hkebab
    · exact isKebabChar_of_mem_kebabAfter hs hd

theorem isPascal_toKebab (h : isPascal s) : isPascal (toKebab s) = false := by
  obtain ⟨c, k, hk, hc, -⟩ := exists_toKebab_eq h
  have hupper : c.isUpper = false := by
    rw [isLower_iff] at hc
    rw [← Bool.not_eq_true, isUpper_iff]
    omega
  rw [hk, isPascal, hupper]
  rfl

/-! Words in a kebab name. Hyphens are all that is put between the letters of the name. -/

theorem prefix_of_prefix_kebabAfter {b : Bool} (hw : '-' ∉ w) (hs : ∀ c ∈ s, c.isAlphanum)
    (h : w <+: c :: kebabAfter b d s) : w <+: c :: s.map Char.toLower := by
  induction s generalizing b c d w with
  | nil => exact h
  | cons e s ih =>
    rcases List.prefix_cons_iff.1 h with rfl | ⟨v, rfl, hv⟩
    · exact List.nil_prefix
    have hnot : '-' ∉ v := fun h => hw (List.mem_cons_of_mem c h)
    rw [kebabAfter_cons (hs e List.mem_cons_self)] at hv
    rw [List.prefix_cons_inj]
    split at hv
    · rcases List.prefix_cons_iff.1 hv with rfl | ⟨u, rfl, -⟩
      · exact List.nil_prefix
      · exact absurd List.mem_cons_self hnot
    · exact ih hnot (fun d hd => hs d (List.mem_cons_of_mem e hd)) hv

theorem infix_of_infix_kebabAfter {b : Bool} (hw : '-' ∉ w) (hs : ∀ c ∈ s, c.isAlphanum)
    (h : w <:+: c :: kebabAfter b d s) : w <:+: c :: s.map Char.toLower := by
  induction s generalizing b c d with
  | nil => exact h
  | cons e s ih =>
    rcases List.infix_cons_iff.1 h with h | h
    · exact (prefix_of_prefix_kebabAfter hw hs h).isInfix
    rw [kebabAfter_cons (hs e List.mem_cons_self)] at h
    have hrest : w <:+: e.toLower :: kebabAfter false e s := by
      split at h
      · rcases (Text.infix_append_cons (a := []) hw).1 h with hnil | hrest
        · rw [List.infix_nil.1 hnil]
          exact List.nil_infix
        · exact hrest
      · exact h
    exact List.infix_cons (ih (fun d hd => hs d (List.mem_cons_of_mem e hd)) hrest)

/-- A word without hyphens is found in a kebab name only where the letters of the name spell it. -/
theorem infix_of_infix_toKebab (hw : '-' ∉ w) (hs : isPascal s) (h : w <:+: toKebab s) :
    w <:+: s.map Char.toLower := by
  cases s with
  | nil => cases hs
  | cons c s =>
    rw [toKebab_cons (isAlphanum_of_isPascal hs List.mem_cons_self)] at h
    exact infix_of_infix_kebabAfter hw (isPascal_cons.1 hs).2 h

end Transplant.Casing
