import Transplant.Text

/-!
Readers look at the text where a clause may begin and find the specifier it leads to. A reading
says where the specifier stands, and every reader of the library gives readings of the very text it
was given (`Reader.Sound`).
-/

namespace Transplant.Source
variable {t p : Text} {r : Reading} {k : Reader} {q : Char → Bool}

/-- A text with a specifier found in it: what leads up to the specifier, through the quote that
opens it, the specifier, and the rest, from the closing quote on. -/
structure Reading where
  lead : Text
  specifier : Text
  rest : Text
deriving DecidableEq, Repr

namespace Reading

/-- The text that was read. -/
def text (r : Reading) : Text := r.lead ++ r.specifier ++ r.rest

/-- The reading of a text that has `p` in front. -/
def after (p : Text) (r : Reading) : Reading := { r with lead := p ++ r.lead }

@[simp] theorem after_specifier (p : Text) (r : Reading) : (r.after p).specifier = r.specifier := rfl

@[simp] theorem after_rest (p : Text) (r : Reading) : (r.after p).rest = r.rest := rfl

@[simp] theorem after_lead (p : Text) (r : Reading) : (r.after p).lead = p ++ r.lead := rfl

@[simp] theorem text_after (p : Text) (r : Reading) : (r.after p).text = p ++ r.text := by
  simp [text]

@[simp] theorem after_nil (r : Reading) : r.after [] = r := rfl

@[simp] theorem after_after (p q : Text) (r : Reading) : (r.after q).after p = r.after (p ++ q) := by
  simp [after]

end Reading

/-- A space or a tab. -/
def isBlank (c : Char) : Bool := c == ' ' || c == '\t'

/-- Either quotation mark. One that opens a specifier may be closed by the other. -/
def isQuote (c : Char) : Bool := c == '\'' || c == '"'

/-- A line feed or a carriage return. -/
def isLineEnd (c : Char) : Bool := c == '\n' || c == '\r'

/-- A character that a specifier may hold. -/
def inSpecifier (c : Char) : Bool := !isQuote c && !isLineEnd c

/-- A way of finding a specifier. -/
abbrev Reader := Text → Option Reading

namespace Reader

/-- Reads on with `k` after all characters that satisfy `q`. -/
def skip (q : Char → Bool) (k : Reader) : Reader := fun t =>
  (k (t.dropWhile q)).map (.after (t.takeWhile q))

/-- Reads on with `k` after the characters that satisfy `q`, at least one of which there must be. -/
def skipSome (q : Char → Bool) (k : Reader) : Reader := fun t =>
  if t.head?.any q then skip q k t else none

/-- Reads on with `k` after the word `w`. -/
def word (w : Text) (k : Reader) : Reader := fun t =>
  (t.stripStart? w).bind fun rest => (k rest).map (.after w)

end Reader

/-- Reads a specifier up to the quote that closes it. -/
def specifier? : Reader := fun t =>
  match t.takeWhile inSpecifier, t.dropWhile inSpecifier with
  | c :: s, q :: rest => if isQuote q then some ⟨[], c :: s, q :: rest⟩ else none
  | _, _ => none

/-- Reads a specifier between quotes. -/
def inQuotes? : Reader
  | [] => none
  | q :: cs => if isQuote q then (specifier? cs).map (.after [q]) else none

/-- Reads blanks and a specifier between quotes. -/
def quoted? : Reader := .skip isBlank inQuotes?

/-- Reads `from`, blanks and a specifier between quotes. -/
def fromQuoted? : Reader := .word "from".toList quoted?

/-- Reads white space, `from`, blanks and a specifier between quotes. -/
def spacedFrom? : Reader := .skip Unicode.isWhiteSpace fromQuoted?

/-- A specifier that may stand in a statement: not empty, and without quotes and line ends. -/
def IsSpecifier (s : Text) : Prop := s ≠ [] ∧ ∀ c ∈ s, inSpecifier c

/-- The readings of a text: they give its characters back, and their specifier is one that may
stand in a statement and stands between quotes. -/
structure Reading.Of (t : Text) (r : Reading) : Prop where
  text_eq : r.text = t
  isSpecifier : IsSpecifier r.specifier
  opened : ∃ p q, r.lead = p ++ [q] ∧ isQuote q
  closed : ∃ q rest, r.rest = q :: rest ∧ isQuote q

theorem Reading.Of.after (h : Reading.Of t r) (p : Text) : Reading.Of (p ++ t) (r.after p) where
  text_eq := by simp [h.text_eq]
  isSpecifier := h.isSpecifier
  opened := by
    obtain ⟨a, q, ha, hq⟩ := h.opened
    exact ⟨p ++ a, q, by simp [ha], hq⟩
  closed := h.closed

theorem Reading.Of.rest_lt (h : Reading.Of t r) : r.rest.length < t.length := by
  obtain ⟨p, q, hp, -⟩ := h.opened
  simp only [← h.text_eq, text, hp, List.length_append, List.length_cons]
  omega

/-- A sound reader gives readings of the text it was given. -/
def Reader.Sound (k : Reader) : Prop := ∀ t r, k t = some r → Reading.Of t r

namespace Reader

theorem Sound.skip (h : k.Sound) : (skip q k).Sound := by
  intro t r hr
  obtain ⟨r', h', rfl⟩ := Option.map_eq_some_iff.1 hr
  have := (h _ _ h').after (t.takeWhile q)
  rwa [List.takeWhile_append_dropWhile] at this

theorem Sound.skipSome (h : k.Sound) : (skipSome q k).Sound := by
  intro t r hr
  rw [Reader.skipSome] at hr
  split at hr
  · exact h.skip t r hr
  · cases hr

theorem Sound.word (h : k.Sound) (w : Text) : (word w k).Sound := by
  intro t r hr
  obtain ⟨rest, hrest, hr⟩ := Option.bind_eq_some_iff.1 hr
  obtain ⟨r', h', rfl⟩ := Option.map_eq_some_iff.1 hr
  rw [Text.stripStart?_eq_some_iff.1 hrest]
  exact (h _ _ h').after w

end Reader

theorem specifier?_eq_some (h : specifier? t = some r) :
    r.text = t ∧ r.lead = [] ∧ IsSpecifier r.specifier ∧ ∃ q rest, r.rest = q :: rest ∧ isQuote q := by
  rw [specifier?] at h
  split at h
  · rename_i c s q rest hs hr
    split at h
    · rename_i hq
      obtain rfl := Option.some.inj h
      refine ⟨?_, rfl, ⟨by simp, fun d hd => ?_⟩, q, rest, rfl, hq⟩
      · have := List.takeWhile_append_dropWhile (p := inSpecifier) (l := t)
        rw [hs, hr] at this
        simpa [Reading.text] using this
      · have := List.all_takeWhile (p := inSpecifier) (l := t)
        rw [hs] at this
        exact List.all_eq_true.1 this d hd
    · cases h
  · cases h

theorem inQuotes?_sound : Reader.Sound inQuotes? := by
  intro t r h
  cases t with
  | nil => cases h
  | cons q t =>
    rw [inQuotes?] at h
    split at h
    · rename_i hq
      obtain ⟨r', h', rfl⟩ := Option.map_eq_some_iff.1 h
      obtain ⟨ht, hl, hs, hc⟩ := specifier?_eq_some h'
      exact ⟨by simp [ht], hs, ⟨[], q, by simp [hl], hq⟩, hc⟩
    · cases h

theorem quoted?_sound : Reader.Sound quoted? := inQuotes?_sound.skip

theorem fromQuoted?_sound : Reader.Sound fromQuoted? := quoted?_sound.word _

theorem spacedFrom?_sound : Reader.Sound spacedFrom? := fromQuoted?_sound.skip

end Transplant.Source
