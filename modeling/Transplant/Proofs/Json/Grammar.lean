import Transplant.Json.Document
import Transplant.Proofs.Json.Spelling

/-! How documents are written, with white space around their tokens. The reader makes the value of a
document of it, whatever containers it stands in and whatever follows. -/
namespace Transplant.Json

/-- White space between tokens. -/
def Space (w : Text) : Prop := ∀ c ∈ w, c ∈ " \n\t\r".toList

/-- A part of a document. The elements of an array and the members of an object are at least one. -/
inductive Phrase where
  | value (v : Value)
  /-- A value with white space around it. -/
  | spaced (v : Value)
  | elements (v : Value) (vs : List Value)
  | member (m : Member)
  | members (m : Member) (ms : List Member)

/-- How a part of a document is written. -/
inductive Phrase.Spelled : Phrase → Text → Prop
  | null : Spelled (.value .null) "null".toList
  | bool (b : Bool) : Spelled (.value (.bool b)) (if b then "true" else "false").toList
  | number {n : Numeral} {t : Text} (hn : n.Spelled t) : Spelled (.value (.number n)) t
  | string {items : List StringItem} {t : Text} (ht : Lettering items t) :
      Spelled (.value (.string items)) ('"' :: (t ++ ['"']))
  | emptyArray {w : Text} (hw : Space w) : Spelled (.value (.array [] true)) ('[' :: (w ++ [']']))
  | array {v : Value} {vs : List Value} {t : Text} (h : Spelled (.elements v vs) t) :
      Spelled (.value (.array (v :: vs) true)) ('[' :: (t ++ [']']))
  | emptyObject {w : Text} (hw : Space w) : Spelled (.value (.object [] true)) ('{' :: (w ++ ['}']))
  | object {m : Member} {ms : List Member} {t : Text} (h : Spelled (.members m ms) t) :
      Spelled (.value (.object (m :: ms) true)) ('{' :: (t ++ ['}']))
  | spaced {v : Value} {t w w' : Text} (hw : Space w) (h : Spelled (.value v) t) (hw' : Space w') :
      Spelled (.spaced v) (w ++ (t ++ w'))
  | element {v : Value} {t : Text} (h : Spelled (.spaced v) t) : Spelled (.elements v []) t
  | elements {v v' : Value} {vs : List Value} {t u : Text} (h : Spelled (.spaced v) t)
      (hs : Spelled (.elements v' vs) u) : Spelled (.elements v (v' :: vs)) (t ++ ',' :: u)
  | keyed {key : List StringItem} {v : Value} {k t w w' : Text} (hw : Space w)
      (hk : Lettering key k) (hw' : Space w') (h : Spelled (.spaced v) t) :
      Spelled (.member (key, v)) (w ++ '"' :: (k ++ '"' :: (w' ++ ':' :: t)))
  | member {m : Member} {t : Text} (h : Spelled (.member m) t) : Spelled (.members m []) t
  | members {m m' : Member} {ms : List Member} {t u : Text} (h : Spelled (.member m) t)
      (hs : Spelled (.members m' ms) u) : Spelled (.members m (m' :: ms)) (t ++ ',' :: u)

/-- Reads a text from a point in a document on. -/
def Cursor.read (c : Cursor) (t : Text) : Document := c.run (tokens t)

/-- A text that no numeral in front of it goes on with. -/
def Ends (rest : Text) : Prop := ∀ c ∈ rest.head?, inNumeral c = false

/-- That a text is read as a part of a document, whatever containers it stands in. -/
def Phrase.IsRead : Phrase → Text → Prop
  | .value v, t | .spaced v, t =>
    ∀ e frames rest, e = .value ∨ e = .element → Ends rest →
      Cursor.read ⟨e, frames⟩ (t ++ rest) = Cursor.read ⟨.next v, frames⟩ rest
  | .elements v vs, t =>
    ∀ e before frames rest, e = .value ∨ e = .element →
      Cursor.read ⟨e, .array before :: frames⟩ (t ++ ']' :: rest) =
        Cursor.read ⟨.next (.array (before.reverse ++ v :: vs) true), frames⟩ rest
  | .member m, t =>
    ∀ e before frames rest, e = .key ∨ e = .member → Ends rest →
      Cursor.read ⟨e, .object before :: frames⟩ (t ++ rest) =
        Cursor.read ⟨.next m.2, .member before m.1 :: frames⟩ rest
  | .members m ms, t =>
    ∀ e before frames rest, e = .key ∨ e = .member →
      Cursor.read ⟨e, .object before :: frames⟩ (t ++ '}' :: rest) =
        Cursor.read ⟨.next (.object (before.reverse ++ m :: ms) true), frames⟩ rest

variable {k t u w w' rest : Text} {c : Char} {token : Token} {cursor next : Cursor}
  {frames : List Frame} {e : Expected} {items : List StringItem} {n : Numeral} {v v' : Value}
  {vs : List Value} {m m' : Member} {ms : List Member} {p : Phrase}

theorem isSpace_iff : isSpace c ↔ c ∈ " \n\t\r".toList := by
  simp [isSpace, or_assoc]

theorem tokens_cons (hc : isSpace c = false) (ht : token? (c :: t) = some (token, rest)) :
    tokens (c :: t) = token :: tokens rest := by
  rw [tokens, if_neg (by simp [hc])]
  split <;> simp_all

theorem Cursor.read_space (hw : Space w) (c : Cursor) (t : Text) : c.read (w ++ t) = c.read t := by
  induction w with
  | nil => rfl
  | cons e w ih =>
    have he : isSpace e := isSpace_iff.2 (hw e List.mem_cons_self)
    rw [read, List.cons_append, tokens, if_pos he]
    exact ih fun d hd => hw d (.tail e hd)

/-- A token is read if it may stand where it does. -/
theorem Cursor.read_token (hc : isSpace c = false) (ht : token? (c :: t) = some (token, rest))
    (hstep : cursor.step? token = some next) : cursor.read (c :: t) = next.read rest := by
  rw [read, tokens_cons hc ht, run, hstep, read]

/-- A value may begin where an element may stand. -/
theorem Cursor.read_begin (he : e = .value ∨ e = .element) (hc : isSpace c = false)
    (ht : token? (c :: t) = some (token, rest)) (hbegin : begin? frames token = some next) :
    read ⟨e, frames⟩ (c :: t) = next.read rest := by
  refine read_token hc ht ?_
  rcases he with rfl | rfl
  · exact hbegin
  · have hne : token ≠ .closeBracket := by
      rintro rfl
      cases hbegin
    rw [step?.eq_def]
    split <;> simp_all

/-- A container is read as what is made of the text between its brackets. -/
theorem Cursor.read_enclosed {opening closing : Char} (he : e = .value ∨ e = .element)
    (hspace : isSpace opening = false) (htoken : ∀ u, token? (opening :: u) = some (token, u))
    (hbegin : begin? frames token = some next)
    (hinner : next.read (t ++ closing :: rest) = read ⟨.next v, frames⟩ rest) :
    read ⟨e, frames⟩ (opening :: (t ++ [closing]) ++ rest) = read ⟨.next v, frames⟩ rest := by
  calc read ⟨e, frames⟩ (opening :: (t ++ [closing]) ++ rest)
    _ = read ⟨e, frames⟩ (opening :: (t ++ closing :: rest)) := by simp
    _ = next.read (t ++ closing :: rest) := read_begin he hspace (htoken _) hbegin
    _ = read ⟨.next v, frames⟩ rest := hinner

theorem token?_numeral (hc : c = '-' ∨ c.isDigit) (t : Text) :
    token? (c :: t) = (Numeral.read? (c :: t)).map fun p => (.number p.1, p.2) := by
  rw [token?.eq_def]
  split <;> simp_all

theorem Numeral.Spelled.exists_cons (h : n.Spelled t) :
    ∃ c u, t = c :: u ∧ (c = '-' ∨ c.isDigit) := by
  obtain @⟨negative, d, f, x, fraction, exponent, hd, hzero, hf, hx⟩ := h
  cases negative with
  | false =>
    obtain ⟨c, d, rfl⟩ := List.exists_cons_of_ne_nil hd.1
    exact ⟨c, _, rfl, .inr (hd.2 c List.mem_cons_self)⟩
  | true => exact ⟨'-', _, rfl, .inl rfl⟩

theorem isSpace_eq_false_of_numeral (hc : c = '-' ∨ c.isDigit) : isSpace c = false := by
  rw [← Bool.not_eq_true, isSpace_iff]
  intro hmem
  have key : ∀ c ∈ " \n\t\r".toList, ¬ (c = '-' ∨ c.isDigit) := by decide
  exact key c hmem hc

theorem Lettering.token? (h : Lettering items t) (rest : Text) :
    token? ('"' :: (t ++ '"' :: rest)) = some (.string items, rest) := by
  rw [Json.token?, h.stringItems?, Option.map_some]

theorem ends_append (hw : Space w) (hrest : Ends rest) : Ends (w ++ rest) := by
  cases w with
  | nil => exact hrest
  | cons c w =>
    have key : ∀ c ∈ " \n\t\r".toList, inNumeral c = false := by decide
    simpa [Ends] using key c (hw c List.mem_cons_self)

theorem ends_cons (hc : inNumeral c = false) (rest : Text) : Ends (c :: rest) := by
  simpa [Ends] using hc

namespace Phrase

/-! What is read of a part of a document, from what is read of its own parts -/

theorem isRead_number (hn : n.Spelled t) : (value (.number n)).IsRead t := by
  intro e frames rest he hrest
  obtain ⟨c, u, rfl, hc⟩ := hn.exists_cons
  have htoken : token? (c :: u ++ rest) = some (.number n, rest) := by
    rw [List.cons_append, token?_numeral hc, ← List.cons_append, hn.read? hrest, Option.map_some]
  exact Cursor.read_begin he (isSpace_eq_false_of_numeral hc) htoken rfl

theorem isRead_string (ht : Lettering items t) :
    (value (.string items)).IsRead ('"' :: (t ++ ['"'])) := by
  intro e frames rest he hrest
  simpa using Cursor.read_begin he rfl (ht.token? rest) rfl

theorem isRead_emptyArray (hw : Space w) : (value (.array [] true)).IsRead ('[' :: (w ++ [']'])) := by
  intro e frames rest he hrest
  refine Cursor.read_enclosed he rfl (fun u => rfl) rfl ?_
  rw [Cursor.read_space hw]
  exact Cursor.read_token rfl rfl rfl

theorem isRead_emptyObject (hw : Space w) :
    (value (.object [] true)).IsRead ('{' :: (w ++ ['}'])) := by
  intro e frames rest he hrest
  refine Cursor.read_enclosed he rfl (fun u => rfl) rfl ?_
  rw [Cursor.read_space hw]
  exact Cursor.read_token rfl rfl rfl

theorem IsRead.array (h : (elements v vs).IsRead t) :
    (value (.array (v :: vs) true)).IsRead ('[' :: (t ++ [']'])) := by
  intro e frames rest he hrest
  exact Cursor.read_enclosed he rfl (fun u => rfl) rfl (h _ _ _ _ (.inr rfl))

theorem IsRead.object (h : (members m ms).IsRead t) :
    (value (.object (m :: ms) true)).IsRead ('{' :: (t ++ ['}'])) := by
  intro e frames rest he hrest
  exact Cursor.read_enclosed he rfl (fun u => rfl) rfl (h _ _ _ _ (.inr rfl))

theorem IsRead.spaced (h : (value v).IsRead t) (hw : Space w) (hw' : Space w') :
    (spaced v).IsRead (w ++ (t ++ w')) := by
  intro e frames rest he hrest
  calc Cursor.read ⟨e, frames⟩ (w ++ (t ++ w') ++ rest)
    _ = Cursor.read ⟨e, frames⟩ (w ++ (t ++ (w' ++ rest))) := by simp
    _ = Cursor.read ⟨e, frames⟩ (t ++ (w' ++ rest)) := Cursor.read_space hw _ _
    _ = Cursor.read ⟨.next v, frames⟩ (w' ++ rest) := h _ _ _ he (ends_append hw' hrest)
    _ = Cursor.read ⟨.next v, frames⟩ rest := Cursor.read_space hw' _ _

theorem IsRead.element (h : (Phrase.spaced v).IsRead t) : (elements v []).IsRead t := by
  intro e before frames rest he
  calc Cursor.read ⟨e, .array before :: frames⟩ (t ++ ']' :: rest)
    _ = Cursor.read ⟨.next v, .array before :: frames⟩ (']' :: rest) :=
      h _ _ _ he (ends_cons rfl rest)
    _ = Cursor.read ⟨.next (.array (v :: before).reverse true), frames⟩ rest :=
      Cursor.read_token rfl rfl rfl
    _ = Cursor.read ⟨.next (.array (before.reverse ++ [v]) true), frames⟩ rest := by
      rw [List.reverse_cons]

theorem IsRead.elements (h : (Phrase.spaced v).IsRead t) (hs : (Phrase.elements v' vs).IsRead u) :
    (Phrase.elements v (v' :: vs)).IsRead (t ++ ',' :: u) := by
  intro e before frames rest he
  calc Cursor.read ⟨e, .array before :: frames⟩ (t ++ ',' :: u ++ ']' :: rest)
    _ = Cursor.read ⟨e, .array before :: frames⟩ (t ++ ',' :: (u ++ ']' :: rest)) := by simp
    _ = Cursor.read ⟨.next v, .array before :: frames⟩ (',' :: (u ++ ']' :: rest)) :=
      h _ _ _ he (ends_cons rfl _)
    _ = Cursor.read ⟨.value, .array (v :: before) :: frames⟩ (u ++ ']' :: rest) :=
      Cursor.read_token rfl rfl rfl
    _ = Cursor.read ⟨.next (.array ((v :: before).reverse ++ v' :: vs) true), frames⟩ rest :=
      hs _ _ _ _ (.inl rfl)
    _ = Cursor.read ⟨.next (.array (before.reverse ++ v :: v' :: vs) true), frames⟩ rest := by simp

theorem IsRead.keyed {key : List StringItem} (h : (Phrase.spaced v).IsRead t) (hw : Space w)
    (hk : Lettering key k) (hw' : Space w') :
    (Phrase.member (key, v)).IsRead (w ++ '"' :: (k ++ '"' :: (w' ++ ':' :: t))) := by
  intro e before frames rest he hrest
  have hkey : Cursor.step? ⟨e, .object before :: frames⟩ (.string key) =
      some ⟨.colon key, .object before :: frames⟩ := by
    rcases he with rfl | rfl <;> rfl
  calc Cursor.read ⟨e, .object before :: frames⟩ (w ++ '"' :: (k ++ '"' :: (w' ++ ':' :: t)) ++ rest)
    _ = Cursor.read ⟨e, .object before :: frames⟩
        (w ++ '"' :: (k ++ '"' :: (w' ++ ':' :: (t ++ rest)))) := by simp
    _ = Cursor.read ⟨e, .object before :: frames⟩
        ('"' :: (k ++ '"' :: (w' ++ ':' :: (t ++ rest)))) := Cursor.read_space hw _ _
    _ = Cursor.read ⟨.colon key, .object before :: frames⟩ (w' ++ ':' :: (t ++ rest)) :=
      Cursor.read_token rfl (hk.token? _) hkey
    _ = Cursor.read ⟨.colon key, .object before :: frames⟩ (':' :: (t ++ rest)) :=
      Cursor.read_space hw' _ _
    _ = Cursor.read ⟨.value, .member before key :: frames⟩ (t ++ rest) :=
      Cursor.read_token rfl rfl rfl
    _ = Cursor.read ⟨.next v, .member before key :: frames⟩ rest := h _ _ _ (.inl rfl) hrest

theorem IsRead.member (h : (Phrase.member m).IsRead t) : (members m []).IsRead t := by
  intro e before frames rest he
  calc Cursor.read ⟨e, .object before :: frames⟩ (t ++ '}' :: rest)
    _ = Cursor.read ⟨.next m.2, .member before m.1 :: frames⟩ ('}' :: rest) :=
      h _ _ _ _ he (ends_cons rfl rest)
    _ = Cursor.read ⟨.next (.object (m :: before).reverse true), frames⟩ rest :=
      Cursor.read_token rfl rfl rfl
    _ = Cursor.read ⟨.next (.object (before.reverse ++ [m]) true), frames⟩ rest := by
      rw [List.reverse_cons]

theorem IsRead.members (h : (Phrase.member m).IsRead t) (hs : (Phrase.members m' ms).IsRead u) :
    (Phrase.members m (m' :: ms)).IsRead (t ++ ',' :: u) := by
  intro e before frames rest he
  calc Cursor.read ⟨e, .object before :: frames⟩ (t ++ ',' :: u ++ '}' :: rest)
    _ = Cursor.read ⟨e, .object before :: frames⟩ (t ++ ',' :: (u ++ '}' :: rest)) := by simp
    _ = Cursor.read ⟨.next m.2, .member before m.1 :: frames⟩ (',' :: (u ++ '}' :: rest)) :=
      h _ _ _ _ he (ends_cons rfl _)
    _ = Cursor.read ⟨.key, .object (m :: before) :: frames⟩ (u ++ '}' :: rest) :=
      Cursor.read_token rfl rfl rfl
    _ = Cursor.read ⟨.next (.object ((m :: before).reverse ++ m' :: ms) true), frames⟩ rest :=
      hs _ _ _ _ (.inl rfl)
    _ = Cursor.read ⟨.next (.object (before.reverse ++ m :: m' :: ms) true), frames⟩ rest := by simp

/-- What is written as a part of a document is read as that. -/
theorem Spelled.isRead (h : p.Spelled t) : p.IsRead t := by
  induction h with
  | null =>
    intro e frames rest he hrest
    exact Cursor.read_begin he rfl rfl rfl
  | bool b =>
    intro e frames rest he hrest
    cases b <;> exact Cursor.read_begin he rfl rfl rfl
  | number hn => exact isRead_number hn
  | string ht => exact isRead_string ht
  | emptyArray hw => exact isRead_emptyArray hw
  | array h ih => exact ih.array
  | emptyObject hw => exact isRead_emptyObject hw
  | object h ih => exact ih.object
  | spaced hw h hw' ih => exact ih.spaced hw hw'
  | element h ih => exact ih.element
  | elements h hs ih ihs => exact ih.elements ihs
  | keyed hw hk hw' h ih => exact ih.keyed hw hk hw'
  | member h ih => exact ih.member
  | members h hs ih ihs => exact ih.members ihs

end Phrase

theorem space_nil : Space [] := nofun

/-- No white space is needed. -/
theorem Phrase.Spelled.bare (h : Phrase.Spelled (.value v) t) : Phrase.Spelled (.spaced v) t := by
  simpa using Phrase.Spelled.spaced space_nil h space_nil

/-- A written document is read as the value it was written from. -/
theorem Document.ofText_spelled (h : Phrase.Spelled (.spaced v) t) :
    Document.ofText t = ⟨v, true⟩ := by
  have hends : Ends [] := nofun
  have hread := h.isRead .value [] [] (.inl rfl) hends
  rw [List.append_nil] at hread
  rw [Document.ofText, ← Cursor.read, hread, Cursor.read, tokens]
  rfl

end Transplant.Json
