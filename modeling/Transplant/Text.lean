import Transplant.Unicode.WhiteSpace

/-!
Texts as lists of characters, and the ways in which the library takes them apart: at a separator,
at line ends, at a given beginning or end, and around white space.
-/

namespace Transplant

/-- A text is the list of its characters. -/
abbrev Text := List Char

namespace Text
variable {sep c : Char} {p s t r a b : Text} {part : Text}

/-- What holds of all characters of a text is decided by going through the text. -/
instance {P : Char → Prop} [DecidablePred P] (t : Text) : Decidable (∀ c ∈ t, P c) :=
  List.decidableBAll P t

/-- The length of a text in UTF-8 bytes. -/
def byteSize : Text → Nat
  | [] => 0
  | c :: cs => c.utf8Size + byteSize cs

@[simp] theorem byteSize_nil : byteSize [] = 0 := rfl

@[simp] theorem byteSize_cons : byteSize (c :: t) = c.utf8Size + byteSize t := rfl

@[simp] theorem byteSize_append : byteSize (a ++ b) = byteSize a + byteSize b := by
  induction a with
  | nil => simp
  | cons c a ih => simp [ih, Nat.add_assoc]

/-! Beginnings and ends -/

/-- What is left of a text after the beginning `p`, if it begins so. -/
def stripStart? : (t p : Text) → Option Text
  | t, [] => some t
  | c :: cs, p :: ps => if p = c then stripStart? cs ps else none
  | [], _ :: _ => none

theorem stripStart?_eq_some_iff : t.stripStart? p = some r ↔ t = p ++ r := by
  induction p generalizing t with
  | nil => simp [stripStart?]
  | cons q p ih =>
    cases t with
    | nil => simp [stripStart?]
    | cons c t => by_cases h : q = c <;> simp [stripStart?, h, ih, eq_comm]

@[simp] theorem stripStart?_append : (p ++ t).stripStart? p = some t :=
  stripStart?_eq_some_iff.2 rfl

/-- What is left of a text before the end `s`, if it ends so. -/
def stripEnd? (t s : Text) : Option Text :=
  (stripStart? t.reverse s.reverse).map List.reverse

theorem stripEnd?_eq_some_iff : t.stripEnd? s = some r ↔ t = r ++ s := by
  simp only [stripEnd?, Option.map_eq_some_iff, stripStart?_eq_some_iff]
  constructor
  · rintro ⟨u, h, rfl⟩
    simpa using congrArg List.reverse h
  · rintro rfl
    exact ⟨r.reverse, by simp, by simp⟩

/-- Whether `p` stands somewhere in a text. -/
def occursIn (p : Text) : Text → Bool
  | [] => p.isEmpty
  | c :: cs => p.isPrefixOf (c :: cs) || occursIn p cs

theorem occursIn_iff : occursIn p t ↔ p <:+: t := by
  induction t with
  | nil => simp [occursIn]
  | cons c t ih => simp [occursIn, ih, List.infix_cons_iff]

/-- A text without the longest end whose characters all satisfy `q`. -/
def dropEndWhile (q : Char → Bool) (t : Text) : Text := (t.reverse.dropWhile q).reverse

/-- A text without the white space it begins with. -/
def trimStart (t : Text) : Text := t.dropWhile Unicode.isWhiteSpace

/-- A text without the white space it ends in. -/
def trimEnd (t : Text) : Text := dropEndWhile Unicode.isWhiteSpace t

/-- A text without white space at either end. -/
def trim (t : Text) : Text := trimEnd (trimStart t)

/-! Separators -/

/-- The parts between the separators, one more than there are separators. -/
def split (sep : Char) : Text → List Text
  | [] => [[]]
  | c :: cs => if c = sep then [] :: split sep cs else (split sep cs).modifyHead (c :: ·)

/-- The parts with a separator between each two neighbours. -/
def join (sep : Char) (parts : List Text) : Text := [sep].intercalate parts

theorem split_ne_nil (t : Text) : split sep t ≠ [] := by
  induction t with
  | nil => simp [split]
  | cons c t ih => by_cases h : c = sep <;> simp [split, h, ih]

theorem split_of_not_mem (h : sep ∉ t) : split sep t = [t] := by
  induction t with
  | nil => rfl
  | cons c t ih =>
    simp only [List.mem_cons, not_or] at h
    simp [split, Ne.symm h.1, ih h.2]

theorem split_append_sep : split sep (a ++ sep :: b) = split sep a ++ split sep b := by
  induction a with
  | nil => simp [split]
  | cons c a ih =>
    by_cases h : c = sep
    · simp [split, h, ih]
    · obtain ⟨x, xs, hx⟩ := List.exists_cons_of_ne_nil (@split_ne_nil sep a)
      simp [split, h, ih, hx]

theorem not_mem_of_mem_split (h : part ∈ split sep t) : sep ∉ part := by
  induction t generalizing part with
  | nil => simp_all [split]
  | cons c t ih =>
    by_cases hc : c = sep
    · simp only [split, hc, if_true, List.mem_cons] at h
      obtain rfl | h := h
      · simp
      · exact ih h
    · obtain ⟨x, xs, hx⟩ := List.exists_cons_of_ne_nil (@split_ne_nil sep t)
      simp only [split, hc, if_false, hx, List.modifyHead_cons, List.mem_cons] at h ih
      obtain rfl | h := h
      · have := ih (.inl rfl)
        simp [this, Ne.symm hc]
      · exact ih (.inr h)

theorem join_split (sep : Char) (t : Text) : join sep (split sep t) = t := by
  induction t with
  | nil => simp [join, split]
  | cons c t ih =>
    obtain ⟨x, xs, hx⟩ := List.exists_cons_of_ne_nil (@split_ne_nil sep t)
    simp only [join, hx] at ih
    by_cases hc : c = sep
    · simp [join, split, hc, hx, List.intercalate_cons_cons, ih]
    · cases xs with
      | nil => simp_all [join, split]
      | cons y ys =>
        simp only [List.intercalate_cons_cons] at ih
        simp only [join, split, hc, if_false, hx, List.modifyHead_cons, List.intercalate_cons_cons]
        simp [← ih]

theorem join_cons_cons (a b : Text) (parts : List Text) :
    join sep (a :: b :: parts) = a ++ sep :: join sep (b :: parts) := by
  simp [join, List.intercalate_cons_cons]

theorem split_join {parts : List Text} (hne : parts ≠ []) (h : ∀ a ∈ parts, sep ∉ a) :
    split sep (join sep parts) = parts := by
  induction parts with
  | nil => exact absurd rfl hne
  | cons a parts ih =>
    have ha := split_of_not_mem (h a List.mem_cons_self)
    cases parts with
    | nil => simpa [join] using ha
    | cons b parts =>
      rw [join_cons_cons, split_append_sep, ha, ih (by simp) fun c hc => h c (.tail a hc)]
      rfl

/-- What stands before and after the first separator. -/
def splitFirst? (sep : Char) : Text → Option (Text × Text)
  | [] => none
  | c :: cs =>
    if c = sep then some ([], cs) else (splitFirst? sep cs).map fun (a, b) => (c :: a, b)

theorem splitFirst?_eq_some_iff :
    splitFirst? sep t = some (a, b) ↔ t = a ++ sep :: b ∧ sep ∉ a := by
  induction t generalizing a with
  | nil => simp [splitFirst?]
  | cons c t ih =>
    by_cases hc : c = sep
    · cases a with
      | nil => simp [splitFirst?, hc]
      | cons d a => simp only [splitFirst?, hc]; simp; intro h; simp [h]
    · cases a with
      | nil => simp [splitFirst?, hc]
      | cons d a =>
        simp only [splitFirst?, hc, if_false, Option.map_eq_some_iff, Prod.exists, Prod.mk.injEq,
          List.cons.injEq, List.cons_append, List.mem_cons, not_or]
        constructor
        · rintro ⟨a', b', h, ⟨rfl, rfl⟩, rfl⟩
          obtain ⟨rfl, hm⟩ := ih.1 h
          exact ⟨⟨rfl, rfl⟩, Ne.symm hc, hm⟩
        · rintro ⟨⟨rfl, h⟩, _, hm⟩
          exact ⟨a, b, ih.2 ⟨h, hm⟩, ⟨rfl, rfl⟩, rfl⟩

/-! Lines -/

/-- The lines of a text, each with the line feed that ends it. Only the last may lack one, and none
is empty. -/
def fullLines : Text → List Text
  | [] => []
  | c :: cs =>
    if c = '\n' then [c] :: fullLines cs
    else match fullLines cs with
      | [] => [[c]]
      | l :: ls => (c :: l) :: ls

/-- A line without the line feed, or carriage return and line feed, that ends it. -/
def withoutLineEnd (line : Text) : Text :=
  match line.stripEnd? ['\n'] with
  | none => line
  | some l => (l.stripEnd? ['\r']).getD l

/-- The lines of a text without their ends. -/
def lines (t : Text) : List Text := (fullLines t).map withoutLineEnd

theorem flatten_fullLines (t : Text) : (fullLines t).flatten = t := by
  induction t with
  | nil => rfl
  | cons c t ih =>
    by_cases hc : c = '\n'
    · simp [fullLines, hc, ih]
    · simp only [fullLines, hc, if_false]
      split <;> simp_all

theorem fullLines_append_lf : fullLines (a ++ '\n' :: b) = fullLines (a ++ ['\n']) ++ fullLines b := by
  induction a with
  | nil => simp [fullLines]
  | cons c a ih =>
    by_cases hc : c = '\n'
    · simp [fullLines, hc, ih]
    · simp only [List.cons_append, fullLines, hc, if_false, ih]
      cases h : fullLines (a ++ ['\n']) with
      | nil =>
        have := flatten_fullLines (a ++ ['\n'])
        simp [h] at this
      | cons l ls => simp

end Text

end Transplant
