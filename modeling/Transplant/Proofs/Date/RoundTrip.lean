import Mathlib.Data.Nat.Digits.Defs
import Transplant.Date

/-! Dates that are written and read again. The reader takes as many digits as it may, so that each
number must end where its digits do: at a hyphen, or with the text. -/
namespace Transplant

variable {c : Char} {n width most : Nat} {year : Int} {r t : Text}

theorem Unicode.isWhiteSpace_eq_false_of_isDigit (h : c.isDigit) : isWhiteSpace c = false := by
  have hrange : 48 ≤ c.toNat ∧ c.toNat ≤ 57 := by
    simpa [Char.isDigit, UInt32.le_iff_toNat_le] using h
  simp only [isWhiteSpace, Bool.or_eq_false_iff, decide_eq_false_iff_not, beq_eq_false_iff_ne]
  omega

namespace Date

theorem isDigit_of_mem_padded (h : c ∈ padded width n) : c.isDigit := by
  rcases List.mem_append.1 h with h | h
  · obtain rfl := List.eq_of_mem_replicate h
    decide
  · exact Nat.isDigit_of_mem_toDigits (by decide) (by decide) h

theorem padded_ne_nil (width n : Nat) : padded width n ≠ [] := by
  simp [padded]

theorem length_padded (hw : 0 < width) (h : n < 10 ^ width) : (padded width n).length = width := by
  have hle : (Nat.toDigits 10 n).length ≤ width := (Nat.length_toDigits_le_iff (by decide) hw).2 h
  simp only [padded, List.length_append, List.length_replicate]
  omega

/-- The zeros in front do not count. -/
theorem ofDigitChars_padded (width n : Nat) : Nat.ofDigitChars 10 (padded width n) 0 = n := by
  simp [padded, Nat.ofDigitChars_append]

/-- A number is read as far as its digits go. -/
theorem number?_padded (hlen : (padded width n).length ≤ most)
    (hr : ∀ c ∈ r.head?, c.isDigit = false) :
    number? most (padded width n ++ r) = some (n, r) := by
  have hdigits : ((padded width n ++ r).take most).takeWhile Char.isDigit = padded width n := by
    rw [List.take_append, List.take_of_length_le hlen,
      List.takeWhile_append_of_pos fun c hc => isDigit_of_mem_padded hc]
    have hnone : (r.take (most - (padded width n).length)).takeWhile Char.isDigit = [] := by
      cases r with
      | nil => simp
      | cons d r =>
        have hd : d.isDigit = false := hr d (by simp)
        cases most - (padded width n).length <;> simp [hd]
    simp [hnone]
  simp [number?, hdigits, padded_ne_nil, ofDigitChars_padded]

theorem trimStart_padded (width n : Nat) (r : Text) :
    Text.trimStart (padded width n ++ r) = padded width n ++ r := by
  obtain ⟨c, cs, hcs⟩ := List.exists_cons_of_ne_nil (padded_ne_nil width n)
  have hmem : c ∈ padded width n := by simp [hcs]
  have hdigit := isDigit_of_mem_padded hmem
  simp [Text.trimStart, hcs, Unicode.isWhiteSpace_eq_false_of_isDigit hdigit]

/-! Years -/

/-- The characters of a written date. -/
def isDateChar (c : Char) : Bool := c.isDigit || c == '-' || c == '+'

theorem isWhiteSpace_eq_false_of_isDateChar (h : isDateChar c) :
    Unicode.isWhiteSpace c = false := by
  simp only [isDateChar, Bool.or_eq_true, beq_iff_eq] at h
  rcases h with (h | rfl) | rfl
  · exact Unicode.isWhiteSpace_eq_false_of_isDigit h
  · decide
  · decide

theorem isDateChar_of_mem_yearText (h : c ∈ yearText year) : isDateChar c := by
  have hdigit (hc : c ∈ padded 4 year.natAbs) : isDateChar c := by
    simp [isDateChar, isDigit_of_mem_padded hc]
  simp only [yearText] at h
  split at h
  · rcases List.mem_cons.1 h with rfl | h
    · decide
    · exact hdigit h
  · split at h
    · rcases List.mem_cons.1 h with rfl | h
      · decide
      · exact hdigit h
    · exact hdigit h

theorem year?_padded (hr : ∀ c ∈ r.head?, c.isDigit = false) (hn : n < 10000) :
    year? (padded 4 n ++ r) = some ((n : Int), r) := by
  have hread : number? 4 (padded 4 n ++ r) = some (n, r) :=
    number?_padded (Nat.le_of_eq (length_padded (by decide) hn)) hr
  obtain ⟨c, cs, hcs⟩ := List.exists_cons_of_ne_nil (padded_ne_nil 4 n)
  have hmem : c ∈ padded 4 n := by simp [hcs]
  have hdigit := isDigit_of_mem_padded hmem
  have hminus : c ≠ '-' := by rintro rfl; cases hdigit
  have hplus : c ≠ '+' := by rintro rfl; cases hdigit
  rw [hcs, List.cons_append] at hread ⊢
  simp [year?, hminus, hplus, hread]

/-- A year is read to its end, with its sign or in four digits. -/
theorem year?_yearText (year : Int) (hr : ∀ c ∈ r.head?, c.isDigit = false) :
    year? (yearText year ++ r) = some (year, r) := by
  have hread : number? (padded 4 year.natAbs ++ r).length (padded 4 year.natAbs ++ r) =
      some (year.natAbs, r) := number?_padded (by simp) hr
  simp only [yearText]
  split
  · rename_i hneg
    have habs : -(year.natAbs : Int) = year := by omega
    simp only [List.cons_append, year?, hread, Option.map_some, habs]
  · split
    · rename_i hbig
      have habs : (year.natAbs : Int) = year := by omega
      simp only [List.cons_append, year?, hread, Option.map_some, habs]
    · have habs : (year.natAbs : Int) = year := by omega
      simpa [habs] using year?_padded hr (show year.natAbs < 10000 by omega)

theorem trimStart_yearText (year : Int) (r : Text) :
    Text.trimStart (yearText year ++ r) = yearText year ++ r := by
  simp only [yearText]
  split
  · rfl
  · split
    · rfl
    · exact trimStart_padded ..

/-! Dates -/

theorem daysIn_le (year : Int) (month : Nat) : Calendar.daysIn year month ≤ 31 := by
  unfold Calendar.daysIn
  split
  · split <;> omega
  all_goals omega

theorem month_le {month : Nat} (h : 1 ≤ Calendar.daysIn year month) : month ≤ 12 := by
  unfold Calendar.daysIn at h
  split at h <;> omega

theorem isDateChar_of_mem_text {d : Date} (h : c ∈ d.text) : isDateChar c := by
  have hdigit {k : Nat} (hc : c ∈ padded 2 k) : isDateChar c := by
    simp [isDateChar, isDigit_of_mem_padded hc]
  simp only [text, List.append_assoc, List.cons_append, List.mem_append, List.mem_cons] at h
  rcases h with h | rfl | h | rfl | h
  · exact isDateChar_of_mem_yearText h
  · decide
  · exact hdigit h
  · decide
  · exact hdigit h

/-- A date that is written is read again as the same date. -/
theorem parse?_text (d : Date) : parse? d.text = some d := by
  obtain ⟨year, month, day, hday⟩ := d
  have hpos : 1 ≤ day := hday.2.2.1
  have hle : day ≤ Calendar.daysIn year month := hday.2.2.2
  have hday31 : day ≤ 31 := Nat.le_trans hle (daysIn_le year month)
  have hmonth12 : month ≤ 12 := month_le (Nat.le_trans hpos hle)
  have hyear := year?_yearText year (r := '-' :: padded 2 month ++ '-' :: padded 2 day)
    (by simp)
  have hmonth : number? 2 (padded 2 month ++ '-' :: padded 2 day) =
      some (month, '-' :: padded 2 day) :=
    number?_padded (Nat.le_of_eq (length_padded (by decide) (by omega))) (by simp)
  have hread : number? 2 (padded 2 day ++ []) = some (day, []) :=
    number?_padded (Nat.le_of_eq (length_padded (by decide) (by omega))) (by simp)
  have htrim := trimStart_padded 2 day []
  rw [List.append_nil] at hread htrim
  have hhyphen (u : Text) : Text.stripStart? ('-' :: u) ['-'] = some u :=
    Text.stripStart?_append (p := ['-'])
  simp only [parse?, text, List.append_assoc, List.cons_append, trimStart_yearText] at hyear ⊢
  simp only [hyear, Option.bind_eq_bind, Option.bind_some, hhyphen, trimStart_padded, hmonth,
    htrim, hread]
  simp [ofNumbers?, hday]

end Date

end Transplant
