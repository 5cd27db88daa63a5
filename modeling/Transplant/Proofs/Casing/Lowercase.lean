import Transplant.Proofs.FileCasing.KebabName

/-! Which characters have a lowercase of their own, and what it is. A lowercase is never uppercase and
has no further lowercase, but neither is it only the uppercase characters that have one, nor have all
of them. The tables are compared as sets of code points, each the bits of one number. -/
namespace Transplant.Unicode

variable {c d : Char} {n : Nat} {ns : List Nat} {r : CodeRun} {rs : List CodeRun}

/-! Sets of code points -/

/-- The code points of a run, one after the other. -/
def CodeRun.points (r : CodeRun) : List Nat :=
  List.range' r.first ((r.last + r.step - r.first) / r.step) r.step

theorem CodeRun.mem_points (h : 0 < r.step) : n ∈ r.points ↔ r.contains n := by
  simp only [points, contains, List.mem_range', Nat.lt_iff_add_one_le, Nat.le_div_iff_mul_le h,
    Nat.succ_mul, Bool.and_eq_true, decide_eq_true_eq, beq_iff_eq]
  constructor
  · rintro ⟨i, hi, rfl⟩
    have hcomm : i * r.step = r.step * i := Nat.mul_comm i r.step
    refine ⟨⟨by omega, by omega⟩, ?_⟩
    rw [Nat.add_sub_cancel_left, Nat.mul_mod_right]
  · rintro ⟨⟨hfirst, hlast⟩, hmod⟩
    have hdvd : r.step ∣ n - r.first := Nat.dvd_of_mod_eq_zero hmod
    have hmul : (n - r.first) / r.step * r.step = n - r.first := Nat.div_mul_cancel hdvd
    refine ⟨(n - r.first) / r.step, by omega, ?_⟩
    rw [Nat.mul_comm, hmul]
    omega

/-- The number whose bits are these. -/
def ofBits (ns : List Nat) : Nat := ns.foldr (fun n m => (1 <<< n) ||| m) 0

theorem testBit_ofBits : (ofBits ns).testBit n ↔ n ∈ ns := by
  induction ns with
  | nil => simp [ofBits]
  | cons k ns ih =>
    have hbit : (1 <<< k : Nat).testBit n ↔ n = k := by
      rw [Nat.one_shiftLeft, Nat.testBit_two_pow, decide_eq_true_eq, eq_comm]
    rw [List.mem_cons, ← ih, ← hbit, ofBits, List.foldr_cons, Nat.testBit_or, Bool.or_eq_true]
    rfl

/-- The code points of all runs in a list, as the bits of a number. -/
def codeSet (rs : List CodeRun) : Nat := rs.foldr (fun r m => ofBits r.points ||| m) 0

theorem testBit_codeSet (h : ∀ r ∈ rs, 0 < r.step) :
    (codeSet rs).testBit n = rs.any (·.contains n) := by
  induction rs with
  | nil => simp [codeSet]
  | cons r rs ih =>
    have hr : (ofBits r.points).testBit n = r.contains n :=
      Bool.eq_iff_iff.2 (testBit_ofBits.trans (r.mem_points (h r List.mem_cons_self)))
    have hrest := ih fun u hu => h u (List.mem_cons_of_mem r hu)
    rw [List.any_cons, ← hr, ← hrest, codeSet, List.foldr_cons, Nat.testBit_or]
    rfl

theorem testBit_codeSet_of_mem (h : ∀ r ∈ rs, 0 < r.step) (hr : r ∈ rs) (hn : r.contains n) :
    (codeSet rs).testBit n := by
  rw [testBit_codeSet h]
  exact List.any_eq_true.2 ⟨r, hr, hn⟩

/-! Lowercase -/

/-- The code points that a run sends its own to. -/
def CaseRun.images (r : CaseRun) : CodeRun := ⟨r.target, r.target + (r.last - r.first), r.step⟩

theorem CaseRun.contains_images {r : CaseRun} {m : Nat} (h : r.image? n = some m) :
    r.contains n ∧ r.images.contains m := by
  rw [image?] at h
  split at h
  · rename_i hn
    obtain rfl := Option.some.inj h
    have hrun := hn
    simp only [CodeRun.contains, Bool.and_eq_true, decide_eq_true_eq, beq_iff_eq] at hrun
    obtain ⟨⟨hfirst, hlast⟩, hmod⟩ := hrun
    have hlow : r.target ≤ r.target + (n - r.first) := by omega
    have hhigh : r.target + (n - r.first) ≤ r.target + (r.last - r.first) := by omega
    exact ⟨hn, by simp [CodeRun.contains, images, hlow, hhigh, hmod]⟩
  · cases h

/-- The code points that are uppercase or have another lowercase than themselves. -/
def casedRuns : List CodeRun :=
  ⟨0x0041, 0x005A, 1⟩ :: ⟨0x0130, 0x0130, 1⟩ :: (upperRuns ++ lowerMapRuns.map CaseRun.toCodeRun)

/-- The titlecase letters: one character each, but of an uppercase letter and a lowercase one. -/
def titleRuns : List CodeRun :=
  [⟨0x01C5, 0x01CB, 3⟩, ⟨0x01F2, 0x01F2, 1⟩, ⟨0x1F88, 0x1F8F, 1⟩, ⟨0x1F98, 0x1F9F, 1⟩,
    ⟨0x1FA8, 0x1FAF, 1⟩, ⟨0x1FBC, 0x1FBC, 1⟩, ⟨0x1FCC, 0x1FCC, 1⟩, ⟨0x1FFC, 0x1FFC, 1⟩]

/-- Whether a character is a titlecase letter. -/
def isTitle (c : Char) : Bool := titleRuns.any (·.contains c.toNat)

/-- No lowercase is cased, whatever run it is from. -/
theorem any_casedRuns_of_image? {r : CaseRun} {m : Nat} (hr : r ∈ lowerMapRuns)
    (h : r.image? n = some m) : casedRuns.any (·.contains m) = false := by
  have hapart : codeSet (lowerMapRuns.map CaseRun.images) &&& codeSet casedRuns = 0 := by
    decide +kernel
  have himages : (codeSet (lowerMapRuns.map CaseRun.images)).testBit m :=
    testBit_codeSet_of_mem (by decide +kernel) (List.mem_map_of_mem hr) (CaseRun.contains_images h).2
  have hcased : (codeSet casedRuns).testBit m = casedRuns.any (·.contains m) :=
    testBit_codeSet (by decide +kernel)
  have hbit := congrArg (Nat.testBit · m) hapart
  simpa only [Nat.testBit_and, Nat.zero_testBit, himages, hcased, Bool.true_and] using hbit

/-- What has a lowercase is an uppercase character or a titlecase letter. -/
theorem any_upperRuns_or_title {r : CaseRun} (hr : r ∈ lowerMapRuns) (h : r.contains n) :
    upperRuns.any (·.contains n) || titleRuns.any (·.contains n) := by
  have hwithin : codeSet (lowerMapRuns.map CaseRun.toCodeRun) &&& codeSet (upperRuns ++ titleRuns) =
      codeSet (lowerMapRuns.map CaseRun.toCodeRun) := by
    decide +kernel
  have hdomain : (codeSet (lowerMapRuns.map CaseRun.toCodeRun)).testBit n :=
    testBit_codeSet_of_mem (by decide +kernel) (List.mem_map_of_mem hr) h
  have hunion : (codeSet (upperRuns ++ titleRuns)).testBit n =
      (upperRuns ++ titleRuns).any (·.contains n) := testBit_codeSet (by decide +kernel)
  have hbit := congrArg (Nat.testBit · n) hwithin
  simpa only [Nat.testBit_and, hdomain, hunion, Bool.true_and, List.any_append] using hbit

/-- There is only one letter whose lowercase is longer. -/
theorem lookup_lowerMapLong (h : n ≠ 0x0130) : lowerMapLong.lookup n = none := by
  simp [lowerMapLong, List.lookup_cons, beq_eq_false_iff_ne.2 h]

/-- A character that is not cased is left alone by the lowercase mapping. -/
theorem of_not_cased (h : casedRuns.any (·.contains c.toNat) = false) :
    isUpper c = false ∧ toLower c = [c] := by
  simp only [casedRuns, List.any_cons, List.any_append, Bool.or_eq_false_iff] at h
  obtain ⟨hletter, hdotted, hupper, hruns⟩ := h
  by_cases hlt : c.toNat < 128
  · have hascii : c.isUpper = false := by
      rw [← Bool.not_eq_true, Casing.isUpper_iff]
      rintro ⟨hfirst, hlast⟩
      simp [CodeRun.contains, hfirst, hlast, Nat.mod_one] at hletter
    rw [isUpper_ascii hlt, toLower_ascii hlt, Casing.toLower_eq_self hascii]
    exact ⟨hascii, rfl⟩
  · have hnone : lowerMapRuns.findSome? (·.image? c.toNat) = none := by
      rw [List.findSome?_eq_none_iff]
      intro r hr
      have hrun := List.any_eq_false.1 hruns r.toCodeRun (List.mem_map_of_mem hr)
      simp [CaseRun.image?, hrun]
    have hne : c.toNat ≠ 0x0130 := by
      intro he
      simp [CodeRun.contains, he] at hdotted
    simp [isUpper, toLower, caseImage, hlt, hupper, hnone, lookup_lowerMapLong hne]

/-- A character that has a lowercase other than itself: a letter of ASCII, the one letter whose lowercase
is of two characters, or one from the runs. -/
theorem cases_of_toLower_ne (h : toLower c ≠ [c]) : c.toNat < 128 ∧ c.isUpper ∨ c = 'İ' ∨
    ¬ c.toNat < 128 ∧ ∃ r ∈ lowerMapRuns, ∃ m, r.image? c.toNat = some m ∧
      toLower c = [Char.ofNat m] := by
  by_cases hlt : c.toNat < 128
  · refine .inl ⟨hlt, ?_⟩
    by_contra hupper
    rw [toLower_ascii hlt, Casing.toLower_eq_self (eq_false_of_ne_true hupper)] at h
    exact h rfl
  · right
    rw [toLower, if_neg hlt, caseImage] at h ⊢
    split at h
    · rename_i codes hcodes
      left
      rw [← Char.ofNat_toNat c]
      by_cases he : c.toNat = 0x0130
      · rw [he]
      · simp [lookup_lowerMapLong he] at hcodes
    · rename_i hnone
      right
      cases hm : lowerMapRuns.findSome? (·.image? c.toNat) with
      | none => simp [hm] at h
      | some m =>
        obtain ⟨r, hr, hrm⟩ := List.exists_of_findSome?_eq_some hm
        exact ⟨hlt, r, hr, m, hrm, by simp⟩

/-- A lowercase is one character, for all letters but one, and has no case to lose. -/
theorem toLower_cases (c : Char) : c = 'İ' ∨
    ∃ d, toLower c = [d] ∧ (d = c ∨ isUpper d = false ∧ toLower d = [d]) := by
  by_cases hsame : toLower c = [c]
  · exact .inr ⟨c, hsame, .inl rfl⟩
  rcases cases_of_toLower_ne hsame with ⟨hlt, hupper⟩ | rfl | ⟨-, r, hr, m, hm, hlower⟩
  · right
    refine ⟨c.toLower, toLower_ascii hlt, .inr ?_⟩
    have hc : c.isUpper → isUpper c.toLower = false ∧ toLower c.toLower = [c.toLower] :=
      Casing.of_forall_ascii hlt (by decide +kernel)
    exact hc hupper
  · exact .inl rfl
  · right
    refine ⟨Char.ofNat m, hlower, .inr ?_⟩
    by_cases hvalid : m.isValidChar
    · have hcode : (Char.ofNat m).toNat = m := by
        rw [Char.ofNat, dif_pos hvalid]
        rfl
      apply of_not_cased
      rw [hcode]
      exact any_casedRuns_of_image? hr hm
    · have hnull : Char.ofNat m = Char.ofNat 0 := by
        rw [Char.ofNat, dif_neg hvalid]
        rfl
      rw [hnull]
      decide +kernel

/-- The one letter whose lowercase is two characters. -/
theorem toLower_dotted : toLower 'İ' = ['i', '\u0307'] := by decide +kernel

theorem toLower_ne_nil (c : Char) : toLower c ≠ [] := by
  rcases toLower_cases c with rfl | ⟨d, hd, -⟩
  · decide +kernel
  · simp [hd]

/-- What has been put into lowercase stays as it is. -/
theorem toLower_of_mem_toLower (h : d ∈ toLower c) : toLower d = [d] := by
  rcases toLower_cases c with rfl | ⟨e, he, rfl | ⟨-, hsame⟩⟩
  · rw [toLower_dotted] at h
    revert d
    decide +kernel
  · obtain rfl : d = e := by simpa [he] using h
    exact he
  · obtain rfl : d = e := by simpa [he] using h
    exact hsame

/-- Among the characters that are not uppercase those with another lowercase are the titlecase letters. -/
theorem toLower_eq_self_iff (h : isUpper c = false) : toLower c = [c] ↔ isTitle c = false := by
  constructor
  · intro hsame
    rw [← Bool.not_eq_true]
    intro htitle
    have hall : ∀ r ∈ titleRuns, ∀ n ∈ r.points, toLower (Char.ofNat n) ≠ [Char.ofNat n] := by
      decide +kernel
    obtain ⟨r, hr, hrc⟩ := List.any_eq_true.1 htitle
    have hstep : ∀ r ∈ titleRuns, 0 < r.step := by decide
    have hc := hall r hr c.toNat ((r.mem_points (hstep r hr)).2 hrc)
    rw [Char.ofNat_toNat] at hc
    exact hc hsame
  · intro htitle
    by_contra hne
    rcases cases_of_toLower_ne hne with ⟨hlt, hupper⟩ | rfl | ⟨hlt, r, hr, m, hm, -⟩
    · rw [isUpper_ascii hlt, hupper] at h
      cases h
    · exact absurd h (by decide +kernel)
    · have hin := any_upperRuns_or_title hr (CaseRun.contains_images hm).1
      rw [isUpper, if_neg hlt] at h
      rw [isTitle] at htitle
      simp [h, htitle] at hin

end Transplant.Unicode
