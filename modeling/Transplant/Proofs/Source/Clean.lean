import Transplant.Package
import Transplant.Proofs.Path.Resolve
import Transplant.Proofs.Source.Inert
import Transplant.Proofs.Text.Parts
import Transplant.Relocation

/-! Texts that can be put into any specifier and still be read as part of it. They are joined by
slashes and taken apart at slashes freely, which is all that is done to packages and paths. -/
namespace Transplant

variable {a b s w r : Text} {c : Char} {l parts : List Text}

/-- Neither a star nor `from`. -/
structure Plain (s : Text) : Prop where
  no_star : '*' ∉ s
  no_from : ¬ "from".toList <:+: s

/-- A plain text without quotes and line ends. -/
structure Clean (s : Text) : Prop extends Plain s where
  inSpecifier : ∀ c ∈ s, Source.inSpecifier c

theorem plain_iff : Plain s ↔ '*' ∉ s ∧ Text.occursIn "from".toList s = false := by
  rw [← Bool.not_eq_true, Text.occursIn_iff]
  exact ⟨fun ⟨hstar, hfrom⟩ => ⟨hstar, hfrom⟩, fun ⟨hstar, hfrom⟩ => ⟨hstar, hfrom⟩⟩

instance (s : Text) : Decidable (Plain s) := decidable_of_iff' _ plain_iff

instance (s : Text) : Decidable (Clean s) :=
  decidable_of_iff (Plain s ∧ ∀ c ∈ s, Source.inSpecifier c)
    ⟨fun ⟨hplain, hin⟩ => ⟨hplain, hin⟩, fun ⟨hplain, hin⟩ => ⟨hplain, hin⟩⟩

theorem plain_append_slash : Plain (a ++ '/' :: b) ↔ Plain a ∧ Plain b := by
  have hfrom : "from".toList <:+: a ++ '/' :: b ↔ "from".toList <:+: a ∨ "from".toList <:+: b :=
    Text.infix_append_cons (by decide)
  constructor
  · rintro ⟨hstar, hno⟩
    rw [hfrom, not_or] at hno
    simp only [List.mem_append, List.mem_cons, not_or] at hstar
    exact ⟨⟨hstar.1, hno.1⟩, hstar.2.2, hno.2⟩
  · rintro ⟨ha, hb⟩
    refine ⟨?_, fun h => (hfrom.1 h).elim ha.no_from hb.no_from⟩
    simp [ha.no_star, hb.no_star]

theorem clean_append_slash : Clean (a ++ '/' :: b) ↔ Clean a ∧ Clean b := by
  constructor
  · rintro ⟨hplain, hin⟩
    obtain ⟨ha, hb⟩ := plain_append_slash.1 hplain
    exact ⟨⟨ha, fun c hc => hin c (by simp [hc])⟩, hb, fun c hc => hin c (by simp [hc])⟩
  · rintro ⟨ha, hb⟩
    refine ⟨plain_append_slash.2 ⟨ha.toPlain, hb.toPlain⟩, fun c hc => ?_⟩
    rcases List.mem_append.1 hc with hc | hc
    · exact ha.inSpecifier c hc
    · rcases List.mem_cons.1 hc with rfl | hc
      · decide
      · exact hb.inSpecifier c hc

/-- The words that paths are put together from, apart from the parts they are given. -/
def pathWords : List Text := ["", ".", "..", "vform"].map String.toList ++
  [Library.types, .services, .hooks, .utils].map (·.name.toList)

/-- A property that a path has when all its parts have it, whatever they come from. -/
structure Slashwise (P : Text → Prop) : Prop where
  append_slash {a b : Text} : P (a ++ '/' :: b) ↔ P a ∧ P b
  slashed {s : Text} : P s → P (s.map fun c => if c = '\\' then '/' else c)
  words : ∀ w ∈ pathWords, P w

namespace Slashwise
variable {P : Text → Prop} (hP : Slashwise P)
include hP

theorem nil : P [] := hP.words [] (by decide)

theorem dot : P ['.'] := hP.words ['.'] (by decide)

theorem dots : P ['.', '.'] := hP.words ['.', '.'] (by decide)

theorem join_iff : P (Text.join '/' parts) ↔ ∀ a ∈ parts, P a := by
  induction parts with
  | nil => simpa [Text.join] using hP.nil
  | cons a parts ih =>
    cases parts with
    | nil => simp [Text.join]
    | cons b parts =>
      rw [Text.join_cons_cons, hP.append_slash, ih]
      simp

theorem of_mem_split (h : P s) : ∀ a ∈ s.split '/', P a := by
  rw [← Text.join_split '/' s] at h
  exact hP.join_iff.1 h

end Slashwise

/-- Turning backslashes into slashes makes no new word. -/
theorem Clean.slashed (h : Clean s) : Clean (s.map fun c => if c = '\\' then '/' else c) where
  no_star hs := by
    obtain ⟨c, hc, he⟩ := List.mem_map.1 hs
    split at he
    · cases he
    · exact h.no_star (he ▸ hc)
  no_from hs := by
    refine h.no_from (Text.infix_of_infix_map hs fun c hc => ?_)
    split at hc
    · exact absurd hc (by decide)
    · simp_all
  inSpecifier d hd := by
    obtain ⟨c, hc, rfl⟩ := List.mem_map.1 hd
    split
    · decide
    · exact h.inSpecifier c hc

theorem slashwise_clean : Slashwise Clean where
  append_slash := clean_append_slash
  slashed := Clean.slashed
  words := by decide

theorem Clean.inert (h : Clean s) : Source.Inert s :=
  .of_plain h.inSpecifier h.no_star h.no_from

end Transplant
