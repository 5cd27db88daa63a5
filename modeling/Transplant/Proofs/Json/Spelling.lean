import Transplant.Json.Token

/-! How strings and numerals are written. They are read back as they are, whatever is written behind
them, and a string says what the characters and UTF-16 units in it say. -/
namespace Transplant.Json

/-! Strings -/

/-- The letters that escape a character, each with that character. -/
def escapes : List (Char × Char) :=
  [('"', '"'), ('\\', '\\'), ('/', '/'), ('b', '\x08'), ('f', '\x0c'), ('n', '\n'), ('r', '\r'),
    ('t', '\t')]

/-- A hexadecimal digit, in one case or the other. -/
def IsHexDigit (n : Nat) (c : Char) : Prop :=
  "0123456789abcdef".toList[n]? = some c ∨ "0123456789ABCDEF".toList[n]? = some c

/-- Whether a character may stand for itself. -/
def isPlain (c : Char) : Bool := 32 ≤ c.toNat && c != '"' && c != '\\'

/-- How a part of a string is written. -/
inductive StringItem.Spelled : StringItem → Text → Prop
  | plain {c : Char} (hc : isPlain c) : Spelled (.char c) [c]
  | escape {e c : Char} (h : (e, c) ∈ escapes) : Spelled (.char c) ['\\', e]
  | unit {k l m n : Nat} {w x y z : Char} (hk : IsHexDigit k w) (hl : IsHexDigit l x)
      (hm : IsHexDigit m y) (hn : IsHexDigit n z) :
      Spelled (.unit (((k * 16 + l) * 16 + m) * 16 + n)) ['\\', 'u', w, x, y, z]

/-- How a string is written, between its quotes. -/
inductive Lettering : List StringItem → Text → Prop
  | nil : Lettering [] []
  | cons {item : StringItem} {items : List StringItem} {a t : Text} (hitem : item.Spelled a)
      (h : Lettering items t) : Lettering (item :: items) (a ++ t)

/-- What a string says. A character may stand for itself, or its one or two UTF-16 units for it. -/
inductive Means : List StringItem → Text → Prop
  | nil : Means [] []
  | char {c : Char} {items : List StringItem} {t : Text} (h : Means items t) :
      Means (.char c :: items) (c :: t)
  | unit {c : Char} {items : List StringItem} {t : Text} (hc : c.toNat < 0x10000)
      (h : Means items t) : Means (.unit c.toNat :: items) (c :: t)
  | pair {c : Char} {items : List StringItem} {t : Text} (hc : 0x10000 ≤ c.toNat)
      (h : Means items t) : Means (.unit (0xD800 + (c.toNat - 0x10000) / 0x400) ::
        .unit (0xDC00 + (c.toNat - 0x10000) % 0x400) :: items) (c :: t)

variable {a d t rest : Text} {c e : Char} {n : Nat} {item : StringItem} {items : List StringItem}

theorem isPlain_iff : isPlain c ↔ 32 ≤ c.toNat ∧ c ≠ '"' ∧ c ≠ '\\' := by
  simp [isPlain, and_assoc]

theorem escaped?_of_mem (h : (e, c) ∈ escapes) : escaped? e = some c := by
  simp only [escapes, List.mem_cons, Prod.mk.injEq, List.not_mem_nil, or_false] at h
  rcases h with ⟨rfl, rfl⟩ | ⟨rfl, rfl⟩ | ⟨rfl, rfl⟩ | ⟨rfl, rfl⟩ | ⟨rfl, rfl⟩ | ⟨rfl, rfl⟩ |
    ⟨rfl, rfl⟩ | ⟨rfl, rfl⟩ <;> rfl

theorem IsHexDigit.hexDigit? (h : IsHexDigit n c) : hexDigit? c = some n := by
  have key (digits : Text) (hdigits : (digits.zipIdx.all fun p => Json.hexDigit? p.1 == some p.2))
      (h : digits[n]? = some c) : Json.hexDigit? c = some n := by
    have hmem : (c, n) ∈ digits.zipIdx := List.mk_mem_zipIdx_iff_getElem?.2 h
    exact eq_of_beq (List.all_eq_true.1 hdigits _ hmem)
  rcases h with h | h
  · exact key _ (by decide) h
  · exact key _ (by decide) h

theorem StringItem.Spelled.stringItems? (h : item.Spelled a) (t : Text) :
    stringItems? (a ++ t) = (Json.stringItems? t).map fun p => (item :: p.1, p.2) := by
  cases h with
  | @plain c hc =>
    obtain ⟨hcontrol, hquote, hslash⟩ := isPlain_iff.1 hc
    have hplain : ¬ (c.toNat < 32 ∨ c = '\\') := by
      rintro (h | h)
      · omega
      · exact hslash h
    rw [List.singleton_append, Json.stringItems?, if_neg hplain]
    · simp [hquote]
    · simp [hslash]
    · simp [hslash]
  | @escape e c h =>
    have hu : e ≠ 'u' := by
      rintro rfl
      simp [escapes] at h
    rw [List.cons_append, List.singleton_append, Json.stringItems?, escaped?_of_mem h]
    · cases Json.stringItems? t <;> rfl
    · simp [hu]
  | unit hk hl hm hn =>
    simp only [List.cons_append, List.nil_append, Json.stringItems?, hex4?, hk.hexDigit?,
      hl.hexDigit?, hm.hexDigit?, hn.hexDigit?]
    cases Json.stringItems? t <;> rfl

theorem Lettering.stringItems? (h : Lettering items t) (rest : Text) :
    stringItems? (t ++ '"' :: rest) = some (items, rest) := by
  induction h with
  | nil => rfl
  | cons hitem h ih => rw [List.append_assoc, hitem.stringItems?, ih, Option.map_some]

/-- No character has the number of a surrogate. -/
theorem not_isSurrogate (c : Char) : c.toNat < 0xD800 ∨ 0xE000 ≤ c.toNat ∧ c.toNat < 0x110000 := by
  have h : c.toNat.isValidChar := c.valid
  rw [Nat.isValidChar] at h
  omega

theorem Means.stringText? (h : Means items t) : stringText? items = some t := by
  induction h with
  | nil => rfl
  | char h ih => rw [Json.stringText?, ih, Option.map_some]
  | @unit c items t hc h ih =>
    have hchar := not_isSurrogate c
    have hhigh : ¬ (0xD800 ≤ c.toNat ∧ c.toNat < 0xDC00) := by omega
    have hlow : ¬ (0xDC00 ≤ c.toNat ∧ c.toNat < 0xE000) := by omega
    rw [Json.stringText?.eq_def]
    simp only [hhigh, hlow, if_false, ih, Option.map_some, Char.ofNat_toNat]
  | @pair c items t hc h ih =>
    have hchar := not_isSurrogate c
    generalize hj : (c.toNat - 0x10000) / 0x400 = j
    generalize hk : (c.toNat - 0x10000) % 0x400 = k
    have hhigh : 0xD800 ≤ 0xD800 + j ∧ 0xD800 + j < 0xDC00 := by omega
    have hlow : 0xDC00 ≤ 0xDC00 + k ∧ 0xDC00 + k < 0xE000 := by omega
    have hcode : 0x10000 + (0xD800 + j - 0xD800) * 0x400 + (0xDC00 + k - 0xDC00) = c.toNat := by
      omega
    rw [Json.stringText?.eq_def]
    simp only [hhigh, hlow, and_self, if_true, hcode, ih, Option.map_some, Char.ofNat_toNat]

theorem Lettering.of_isPlain (h : ∀ c ∈ t, isPlain c) : Lettering (t.map .char) t := by
  induction t with
  | nil => exact .nil
  | cons c t ih =>
    exact .cons (.plain (h c List.mem_cons_self)) (ih fun d hd => h d (.tail c hd))

theorem Means.of_chars (t : Text) : Means (t.map .char) t := by
  induction t with
  | nil => exact .nil
  | cons c t ih => exact ih.char

theorem exists_spelled_unit (h : n < 256) : ∃ a, (StringItem.unit n).Spelled a := by
  have hdigit (k : Nat) (hk : k < 16) : ∃ c, IsHexDigit k c :=
    ⟨"0123456789abcdef".toList[k], .inl (List.getElem?_eq_getElem hk)⟩
  obtain ⟨x, hx⟩ := hdigit (n / 16) (by omega)
  obtain ⟨y, hy⟩ := hdigit (n % 16) (by omega)
  have hzero : IsHexDigit 0 '0' := .inl rfl
  have hunit := StringItem.Spelled.unit hzero hzero hx hy
  rw [show ((0 * 16 + 0) * 16 + n / 16) * 16 + n % 16 = n by omega] at hunit
  exact ⟨_, hunit⟩

/-- Every text can be written as a string. -/
theorem exists_lettering (t : Text) : ∃ items a, Means items t ∧ Lettering items a := by
  induction t with
  | nil => exact ⟨[], [], .nil, .nil⟩
  | cons c t ih =>
    obtain ⟨items, a, hmeans, ha⟩ := ih
    by_cases hc : isPlain c
    · exact ⟨_, _, hmeans.char, .cons (.plain hc) ha⟩
    · -- What is not plain is a control character, a quote or a backslash.
      have hsmall : c.toNat < 256 := by
        refine Decidable.byContradiction fun hlarge => hc (isPlain_iff.2 ⟨by omega, ?_, ?_⟩) <;>
          · rintro rfl
            exact hlarge (by decide)
      obtain ⟨b, hb⟩ := exists_spelled_unit hsmall
      exact ⟨_, _, hmeans.unit (by omega), .cons hb ha⟩

/-! Numerals -/

/-- A sequence of digits. -/
def Digits (d : Text) : Prop := d ≠ [] ∧ ∀ c ∈ d, c.isDigit

/-- How a fraction is written. -/
inductive Fraction : Option Text → Text → Prop
  | absent : Fraction none []
  | digits {d : Text} (hd : Digits d) : Fraction (some d) ('.' :: d)

/-- How an exponent is written. -/
inductive Exponent : Option (Bool × Text) → Text → Prop
  | absent : Exponent none []
  | unsigned {e : Char} {d : Text} (he : e = 'e' ∨ e = 'E') (hd : Digits d) :
      Exponent (some (false, d)) (e :: d)
  | positive {e : Char} {d : Text} (he : e = 'e' ∨ e = 'E') (hd : Digits d) :
      Exponent (some (false, d)) (e :: '+' :: d)
  | negative {e : Char} {d : Text} (he : e = 'e' ∨ e = 'E') (hd : Digits d) :
      Exponent (some (true, d)) (e :: '-' :: d)

/-- How a numeral is written. Its integer part begins with a 0 only if it is 0. -/
inductive Numeral.Spelled : Numeral → Text → Prop
  | mk {negative : Bool} {d f x : Text} {fraction : Option Text} {exponent : Option (Bool × Text)}
      (hd : Digits d) (hzero : d.head? = some '0' → d = ['0']) (hf : Fraction fraction f)
      (hx : Exponent exponent x) :
      Spelled ⟨negative, d, fraction, exponent⟩ ((if negative then ['-'] else []) ++ (d ++ (f ++ x)))

/-- Whether a numeral may go on with a character. -/
def inNumeral (c : Char) : Bool := c.isDigit || c == '.' || c == 'e' || c == 'E'

variable {fraction : Option Text} {exponent : Option (Bool × Text)} {numeral : Numeral}

theorem inNumeral_eq_false_iff : inNumeral c = false ↔
    c.isDigit = false ∧ c ≠ '.' ∧ c ≠ 'e' ∧ c ≠ 'E' := by
  simp [inNumeral, and_assoc]

theorem Digits.digits? (h : Digits d) (hrest : ∀ c ∈ rest.head?, c.isDigit = false) :
    Numeral.digits? (d ++ rest) = some (d, rest) := by
  have hstop : rest.takeWhile Char.isDigit = [] ∧ rest.dropWhile Char.isDigit = rest := by
    cases rest with
    | nil => exact ⟨rfl, rfl⟩
    | cons c rest =>
      have hc : c.isDigit = false := hrest c rfl
      simp [hc]
  rw [Numeral.digits?, List.takeWhile_append_of_pos h.2, List.dropWhile_append_of_pos h.2, hstop.1,
    hstop.2, List.append_nil]
  cases d with
  | nil => exact absurd rfl h.1
  | cons c d => rfl

theorem Digits.append_ne (h : Digits d) (hc : c.isDigit = false) (t u : Text) :
    d ++ t ≠ c :: u := by
  obtain ⟨e, d, rfl⟩ := List.exists_cons_of_ne_nil h.1
  have he : e.isDigit := h.2 e List.mem_cons_self
  rintro heq
  obtain ⟨rfl, -⟩ := List.cons.inj heq
  simp [he] at hc

theorem Fraction.fraction? (h : Fraction fraction t)
    (hrest : ∀ c ∈ rest.head?, c.isDigit = false ∧ c ≠ '.') :
    Numeral.fraction? (t ++ rest) = some (fraction, rest) := by
  cases h with
  | absent =>
    cases rest with
    | nil => rfl
    | cons c rest =>
      rw [List.nil_append, Numeral.fraction?.eq_def]
      split
      next heq =>
        obtain ⟨rfl, -⟩ := List.cons.inj heq
        exact absurd rfl (hrest '.' rfl).2
      next => rfl
  | digits hd =>
    rw [List.cons_append, Numeral.fraction?, hd.digits? fun c hc => (hrest c hc).1, Option.map_some]

theorem Exponent.exponent? (h : Exponent exponent t)
    (hrest : ∀ c ∈ rest.head?, c.isDigit = false ∧ c ≠ 'e' ∧ c ≠ 'E') :
    Numeral.exponent? (t ++ rest) = some (exponent, rest) := by
  have hdigits {d : Text} (hd : Digits d) := hd.digits? fun c hc => (hrest c hc).1
  cases h with
  | absent =>
    cases rest with
    | nil => rfl
    | cons c rest =>
      have hc := (hrest c rfl).2
      simp [Numeral.exponent?, hc]
  | unsigned he hd =>
    rw [List.cons_append, Numeral.exponent?, if_pos he, hdigits hd, Option.map_some]
    · exact fun u => hd.append_ne (by decide) _ u
    · exact fun u => hd.append_ne (by decide) _ u
  | positive he hd =>
    rw [List.cons_append, List.cons_append, Numeral.exponent?, if_pos he]
    simp [hdigits hd]
  | negative he hd =>
    rw [List.cons_append, List.cons_append, Numeral.exponent?, if_pos he]
    simp [hdigits hd]

theorem Numeral.Spelled.read? (h : numeral.Spelled t)
    (hrest : ∀ c ∈ rest.head?, inNumeral c = false) :
    Numeral.read? (t ++ rest) = some (numeral, rest) := by
  have hends := fun c hc => inNumeral_eq_false_iff.1 (hrest c hc)
  obtain @⟨negative, d, f, x, fraction, exponent, hd, hzero, hf, hx⟩ := h
  have hexponent := hx.exponent? fun c hc => ⟨(hends c hc).1, (hends c hc).2.2⟩
  have hxhead : ∀ c ∈ (x ++ rest).head?, c.isDigit = false ∧ c ≠ '.' := by
    intro c hc
    cases hx with
    | absent => exact ⟨(hends c hc).1, (hends c hc).2.1⟩
    | unsigned he | positive he | negative he =>
      obtain rfl := Option.some.inj hc
      rcases he with rfl | rfl <;> decide
  have hfraction := hf.fraction? hxhead
  have hfhead : ∀ c ∈ (f ++ (x ++ rest)).head?, c.isDigit = false := by
    intro c hc
    cases hf with
    | absent => exact (hxhead c hc).1
    | digits hd =>
      obtain rfl := Option.some.inj hc
      decide
  have hwhole : Numeral.whole? (d ++ (f ++ (x ++ rest))) = some (d, f ++ (x ++ rest)) := by
    have hlength : ¬ (d.head? = some '0' ∧ d.length ≠ 1) := by
      rintro ⟨hhead, hne⟩
      exact hne (by rw [hzero hhead, List.length_singleton])
    simp only [Numeral.whole?, hd.digits? hfhead, Option.bind_some, hlength, if_false]
  cases negative with
  | false =>
    simp only [Bool.false_eq_true, if_false, List.nil_append, List.append_assoc]
    rw [Numeral.read?]
    · simp [hwhole, hfraction, hexponent]
    · exact hd.append_ne (by decide) _
  | true => simp [Numeral.read?, hwhole, hfraction, hexponent]

end Transplant.Json
