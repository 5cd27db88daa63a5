import Mathlib.Data.List.Infix
import Transplant.Proofs.FileCasing.FirstStatement
import Transplant.Proofs.FileCasing.KebabName

/-! Imports of types only. The keyword `type` may stand in front of what an import binds, but so may a
binding of that name, and comments may stand around either. The word is looked for at the beginning of
the clause, behind white space, and told from a binding by the character that follows. So the keyword
is overlooked where a comment stands next to it, and a default binding `type` is taken for it where
white space follows. -/
namespace Transplant.Source

variable {c : Char} {i n t u w : Text} {s : Statement} {rest : Text}

/-! Clauses as they are written -/

/-- A piece of what stands between two tokens. The byte order mark, which is white space to the language,
is none to the library. -/
inductive Filler where
  | space (c : Char) (isSpace : Unicode.isWhiteSpace c)
  | byteOrderMark
  | comment (body : Text) (closed : ¬ "*/".toList <:+: body)

namespace Filler

def text : Filler → Text
  | space c _ => [c]
  | byteOrderMark => ['\ufeff']
  | comment body _ => '/' :: '*' :: (body ++ ['*', '/'])

/-- Whether a piece is seen as white space. -/
def isSpace : Filler → Bool
  | space _ _ => true
  | byteOrderMark | comment _ _ => false

end Filler

/-- What stands between two tokens: white space and block comments. -/
abbrev Gap := List Filler

namespace Gap

def text (g : Gap) : Text := g.flatMap Filler.text

/-- Whether all of a gap is seen as white space. -/
def isSpaces (g : Gap) : Bool := g.all Filler.isSpace

def beginsWithSpace (g : Gap) : Bool := g.head?.any Filler.isSpace

def beginsWithComment (g : Gap) : Bool := g.head?.any (!·.isSpace)

end Gap

/-- A character of an identifier. -/
def inIdentifier (c : Char) : Bool := c.isAlphanum || c == '_' || c == '$'

/-- An identifier of ASCII characters. Keywords are not excepted. -/
structure Identifier where
  text : Text
  ne_nil : text ≠ []
  all_in : ∀ c ∈ text, inIdentifier c
  no_digit : text.head?.any Char.isDigit = false

/-- What may be bound along with a default: the namespace under a name, or whatever braces hold. -/
inductive Group where
  | star (beforeAs afterAs : Gap) (separated : afterAs ≠ []) (name : Identifier)
  | braces (list : Text)

def Group.text : Group → Text
  | star beforeAs afterAs _ name =>
    '*' :: (beforeAs.text ++ ("as".toList ++ (afterAs.text ++ name.text)))
  | braces list => '{' :: (list ++ ['}'])

/-- What an import binds. -/
inductive Bindings where
  | default (name : Identifier)
  | only (group : Group)
  | both (name : Identifier) (before after : Gap) (group : Group)

namespace Bindings

def text : Bindings → Text
  | default name => name.text
  | only group => group.text
  | both name before after group => name.text ++ (before.text ++ ',' :: (after.text ++ group.text))

def beginsWithName : Bindings → Bool
  | default _ | both _ _ _ _ => true
  | only _ => false

end Bindings

/-- What an import has between `import` and `from`. The keyword may lack, and where it stands in front of
a name it is set off from that. -/
structure BindingClause where
  lead : Gap
  keyword : Option Gap
  bindings : Bindings
  trail : Gap
  separated : keyword = some [] → bindings.beginsWithName = false

namespace BindingClause

def text (k : BindingClause) : Text :=
  k.lead.text ++ ((k.keyword.elim [] fun gap => "type".toList ++ gap.text) ++
    (k.bindings.text ++ k.trail.text))

/-- Whether the keyword is overlooked, or a default binding is taken for it. -/
def isMistaken (k : BindingClause) : Bool :=
  match k.keyword, k.bindings with
  | some gap, _ => !k.lead.isSpaces || gap.beginsWithComment
  | none, .default name =>
    k.lead.isSpaces && (name.text == "type".toList && k.trail.beginsWithSpace)
  | none, .both name before _ _ =>
    k.lead.isSpaces && (name.text == "type".toList && before.beginsWithSpace)
  | none, .only _ => false

end BindingClause

/-- A statement that has this clause between `import` and `from`. -/
def Statement.HasClause (s : Statement) (n : Text) : Prop :=
  ∃ i b q, Blanks i ∧ Blanks b ∧ isQuote q ∧
    s.lead = i ++ ("import".toList ++ (n ++ ("from".toList ++ (b ++ [q]))))

/-! What is seen of a clause -/

/-- A character by which the keyword is told from a name. -/
def endsKeyword (c : Char) : Bool := Unicode.isWhiteSpace c || c == '{' || c == '*'

theorem isTypeOnly_cons_space (h : Unicode.isWhiteSpace c) (t : Text) :
    isTypeOnly (c :: t) = isTypeOnly t := by
  rw [isTypeOnly, isTypeOnly, Text.trimStart, Text.trimStart, List.dropWhile_cons_of_pos h]

theorem isTypeOnly_cons_ne (h : Unicode.isWhiteSpace c = false) (hc : 't' ≠ c) (t : Text) :
    isTypeOnly (c :: t) = false := by
  rw [isTypeOnly, Text.trimStart, List.dropWhile_cons_of_neg (by simp [h])]
  simp [Text.stripStart?, hc]

theorem isTypeOnly_type (t : Text) : isTypeOnly ("type".toList ++ t) = t.head?.any endsKeyword := by
  have htrim : Text.trimStart ("type".toList ++ t) = "type".toList ++ t := rfl
  rw [isTypeOnly, htrim, Text.stripStart?_append]
  cases t <;> rfl

/-- The word is looked for behind white space, and not behind anything else. -/
theorem isTypeOnly_gap (g : Gap) (t : Text) :
    isTypeOnly (g.text ++ t) = (g.isSpaces && isTypeOnly t) := by
  induction g with
  | nil => rfl
  | cons f g ih =>
    cases f with
    | space c h =>
      have hcons : Gap.text (.space c h :: g) ++ t = c :: (Gap.text g ++ t) := rfl
      rw [hcons, isTypeOnly_cons_space h, ih]
      rfl
    | byteOrderMark =>
      exact isTypeOnly_cons_ne (by decide) (by decide) (Gap.text g ++ t)
    | comment body h =>
      exact isTypeOnly_cons_ne (by decide) (by decide)
        ('*' :: (body ++ ['*', '/']) ++ Gap.text g ++ t)

theorem endsKeyword_of_inIdentifier (h : inIdentifier c) : endsKeyword c = false := by
  have hlt : c.toNat < 128 := by
    rw [inIdentifier, Bool.or_eq_true, Bool.or_eq_true, beq_iff_eq, beq_iff_eq] at h
    rcases h with (h | rfl) | rfl
    · exact Casing.toNat_lt_of_isAlphanum h
    · decide
    · decide
  have hc : inIdentifier c → endsKeyword c = false := Casing.of_forall_ascii hlt (by decide +kernel)
  exact hc h

theorem trimStart_name (name : Identifier) (t : Text) :
    Text.trimStart (name.text ++ t) = name.text ++ t := by
  obtain ⟨c, m, hm⟩ := List.exists_cons_of_ne_nil name.ne_nil
  have hin : inIdentifier c := name.all_in c (hm ▸ List.mem_cons_self)
  have hspace : ¬ Unicode.isWhiteSpace c := by
    intro hs
    have hnot := endsKeyword_of_inIdentifier hin
    simp [endsKeyword, hs] at hnot
  rw [hm, List.cons_append, Text.trimStart, List.dropWhile_cons_of_neg hspace]

/-- A name is taken for the keyword if it is `type`, with white space behind it. What follows a name
does not go on with the word, and is no brace or star. -/
theorem isTypeOnly_name (name : Identifier) (h : ∀ c ∈ t.head?, c ∉ "ype\x7b*".toList) :
    isTypeOnly (name.text ++ t) =
      (name.text == "type".toList && t.head?.any Unicode.isWhiteSpace) := by
  by_cases hname : name.text = "type".toList
  · rw [hname, isTypeOnly_type]
    cases t with
    | nil => rfl
    | cons c t =>
      have hc : c ∉ "ype\x7b*".toList := h c rfl
      have hbrace : c ≠ '{' := by rintro rfl; exact hc (by decide)
      have hstar : c ≠ '*' := by rintro rfl; exact hc (by decide)
      have hend : endsKeyword c = Unicode.isWhiteSpace c := by
        rw [endsKeyword, beq_eq_false_iff_ne.2 hbrace, beq_eq_false_iff_ne.2 hstar, Bool.or_false,
          Bool.or_false]
      exact hend
  · rw [isTypeOnly, trimStart_name, beq_eq_false_iff_ne.2 hname, Bool.false_and]
    cases hstrip : Text.stripStart? (name.text ++ t) "type".toList with
    | none => rfl
    | some rest =>
      rcases List.append_eq_append_iff.1 (Text.stripStart?_eq_some_iff.1 hstrip) with
        ⟨m, hm, ht⟩ | ⟨m, hm, hrest⟩
      · -- The name is a beginning of the word, and what follows goes on with it.
        cases m with
        | nil => exact absurd (by simpa using hm.symm) hname
        | cons c m =>
          obtain ⟨d, n, hn⟩ := List.exists_cons_of_ne_nil name.ne_nil
          have hword : "ype".toList = n ++ c :: m := by
            rw [hn] at hm
            exact (List.cons.inj hm).2
          have hc : c ∈ "ype".toList := hword ▸ by simp
          have hnot : c ∉ "ype\x7b*".toList := h c (by rw [ht]; rfl)
          exact absurd (List.mem_append_left "\x7b*".toList hc) hnot
      · -- The name goes on behind the word.
        cases m with
        | nil => exact absurd (by simpa using hm) hname
        | cons c m =>
          have hc : inIdentifier c := name.all_in c (by rw [hm]; simp)
          rw [hrest]
          exact endsKeyword_of_inIdentifier hc

/-! What follows a gap -/

section
variable (g : Gap)

theorem head?_gap_isWhiteSpace (h : Unicode.isWhiteSpace c = false) (t : Text) :
    (g.text ++ c :: t).head?.any Unicode.isWhiteSpace = g.beginsWithSpace := by
  cases g with
  | nil => exact h
  | cons f g =>
    cases f with
    | space d hd => exact hd
    | byteOrderMark | comment => rfl

theorem head?_gap_not_mem (h : c ∉ "ype\x7b*".toList) (t : Text) :
    ∀ d ∈ (g.text ++ c :: t).head?, d ∉ "ype\x7b*".toList := by
  have hspace : ∀ d ∈ "ype\x7b*".toList, Unicode.isWhiteSpace d = false := by decide
  intro d hd
  cases g with
  | nil =>
    obtain rfl : c = d := Option.some.inj hd
    exact h
  | cons f g =>
    cases f with
    | space e he =>
      obtain rfl : e = d := Option.some.inj hd
      intro hmem
      rw [hspace e hmem] at he
      cases he
    | byteOrderMark =>
      obtain rfl : '\ufeff' = d := Option.some.inj hd
      decide
    | comment body =>
      obtain rfl : '/' = d := Option.some.inj hd
      decide

/-- The keyword is seen in front of a gap unless that begins with a comment. Without a gap it is seen in
front of a star or a brace. -/
theorem head?_gap_endsKeyword {b : Bindings} (h : g = [] → b.beginsWithName = false) (t : Text) :
    (g.text ++ (b.text ++ t)).head?.any endsKeyword = !g.beginsWithComment := by
  cases g with
  | nil =>
    cases b with
    | default | both => cases h rfl
    | only group => cases group <;> rfl
  | cons f g =>
    cases f with
    | space c hc =>
      change endsKeyword c = true
      rw [endsKeyword, hc]
      rfl
    | byteOrderMark | comment => rfl

end

/-- A clause is seen as one of types only if it has the keyword and the keyword is not overlooked, or if
it has none and a binding is taken for it. -/
theorem isTypeOnly_clause (k : BindingClause) (w : Text) :
    isTypeOnly (k.text ++ ("from".toList ++ w)) = (k.keyword.isSome != k.isMistaken) := by
  obtain ⟨lead, keyword, bindings, trail, hseparated⟩ := k
  have hfrom : "from".toList ++ w = 'f' :: ("rom".toList ++ w) := rfl
  simp only [BindingClause.text, List.append_assoc, isTypeOnly_gap]
  cases keyword with
  | some gap =>
    have hend := head?_gap_endsKeyword gap (fun h => hseparated (congrArg some h))
      (trail.text ++ ("from".toList ++ w))
    rw [Option.elim_some, List.append_assoc, isTypeOnly_type, hend]
    simp [BindingClause.isMistaken]
  | none =>
    rw [Option.elim_none, List.nil_append]
    cases bindings with
    | default name =>
      have hname := isTypeOnly_name name
        (head?_gap_not_mem trail (c := 'f') (by decide) ("rom".toList ++ w))
      have hspace := head?_gap_isWhiteSpace trail (c := 'f') (by decide) ("rom".toList ++ w)
      rw [Bindings.text, hfrom, hname, hspace]
      simp [BindingClause.isMistaken]
    | only group =>
      have hgroup : isTypeOnly (group.text ++ (trail.text ++ ("from".toList ++ w))) = false := by
        cases group <;> exact isTypeOnly_cons_ne (by decide) (by decide) _
      rw [Bindings.text, hgroup]
      simp [BindingClause.isMistaken]
    | both name before after group =>
      have hname := isTypeOnly_name name (head?_gap_not_mem before (c := ',') (by decide)
        (after.text ++ (group.text ++ (trail.text ++ ("from".toList ++ w)))))
      have hspace := head?_gap_isWhiteSpace before (c := ',') (by decide)
        (after.text ++ (group.text ++ (trail.text ++ ("from".toList ++ w))))
      simp only [Bindings.text, List.append_assoc, List.cons_append, hname, hspace]
      simp [BindingClause.isMistaken]

/-! Statements that were found -/

/-- An import that was found has its kind from what stands behind the word. -/
theorem kind_of_import (h : statement? u = some (s, rest)) (hi : Blanks i)
    (hlead : s.lead = i ++ ("import".toList ++ (n ++ ("from".toList ++ w)))) :
    s.kind = if isTypeOnly (n ++ ("from".toList ++ w)) then .typeOnly else .value := by
  obtain ⟨⟨kind, r⟩, hr, hs⟩ := Option.map_eq_some_iff.1 h
  cases hs
  have hblank : Blanks (u.takeWhile isBlank) := fun c hc => List.mem_takeWhile_imp hc
  -- What both have behind the blanks is the same, as neither goes on with one.
  have hword (v : Text) : ("import".toList ++ v).dropWhile isBlank = "import".toList ++ v := rfl
  have hdrop := congrArg (List.dropWhile isBlank) hlead
  rw [List.dropWhile_append_of_pos hblank, List.dropWhile_append_of_pos hi, hword] at hdrop
  rw [Option.or_eq_some_iff] at hr
  obtain hr | ⟨-, hr⟩ := hr
  · obtain ⟨v, -, hr⟩ := Option.bind_eq_some_iff.1 hr
    rw [Option.or_eq_some_iff] at hr
    obtain hr | ⟨-, hr⟩ := hr <;> obtain ⟨r', h', e⟩ := Option.map_eq_some_iff.1 hr <;> cases e <;>
      rw [Reading.after_lead, hword] at hdrop <;> have hbehind := List.append_cancel_left hdrop
    · rw [hbehind]
    · -- A bare import has no `from`.
      obtain ⟨b, q, hb, hq, hquote⟩ := lead_quoted? h'
      have hmem : 'f' ∈ b ++ [q] := by
        rw [← hquote, hbehind]
        simp
      rcases List.mem_append.1 hmem with hf | hf
      · exact absurd (hb _ hf) (by decide)
      · obtain rfl := List.mem_singleton.1 hf
        exact absurd hq (by decide)
  · obtain ⟨r', h', e⟩ := Option.map_eq_some_iff.1 hr
    cases e
    obtain ⟨_, r₁, -, -, rfl⟩ := exists_of_word h'
    exact absurd (List.cons.inj hdrop).1 (by decide)

/-- An import whose clause binds something is found as one of types or of values. It is one of types
exactly if it has the keyword, unless the keyword is overlooked, or a default binding is taken for it. -/
theorem kind_eq_typeOnly_iff (k : BindingClause) (hs : Piece.statement s ∈ document t)
    (hk : s.HasClause k.text) :
    (s.kind = .typeOnly ∨ s.kind = .value) ∧
      ((s.kind = .typeOnly ↔ k.keyword.isSome) ↔ k.isMistaken = false) := by
  obtain ⟨u, rest, hst⟩ := (scanned true t).exists_statement? hs
  obtain ⟨i, b, q, hi, -, -, hlead⟩ := hk
  have hkind := kind_of_import hst hi hlead
  rw [isTypeOnly_clause] at hkind
  cases hkeyword : k.keyword.isSome <;> cases hmistaken : k.isMistaken <;>
    simp [hkind, hkeyword, hmistaken]

/-- A keyword that is seen: the comment stands further on, and a star ends the clause of types. -/
theorem kind_eq_typeOnly_iff_of_namespace :
    let blank : Filler := .space ' ' (by decide)
    let k : BindingClause :=
      ⟨[blank], some [blank, .comment " of ".toList (by decide)],
        .only (.star [blank] [blank] (by decide) ⟨"ns".toList, by decide, by decide, by decide⟩),
        [.space '\n' (by decide)], by simp⟩
    let s : Statement := ⟨.typeOnly, "import type /* of */* as ns\nfrom '".toList, "./a".toList⟩
    Piece.statement s ∈ document "import type /* of */* as ns\nfrom './a'\n".toList ∧
      s.HasClause k.text ∧ (s.kind = .typeOnly ↔ k.keyword.isSome) := by
  intro blank k s
  have hs : Piece.statement s ∈ document "import type /* of */* as ns\nfrom './a'\n".toList := by
    decide +kernel
  have hk : s.HasClause k.text :=
    ⟨[], [' '], '\'', List.forall_mem_nil _, by simp [Blanks, isBlank], by decide, by decide⟩
  exact ⟨hs, hk, (kind_eq_typeOnly_iff k hs hk).2.2 (by decide)⟩

/-- A default binding `type` makes an import one of types, and a comment behind the keyword one of
values. -/
theorem kind_of_binding_and_comment :
    let blank : Filler := .space ' ' (by decide)
    let binding : BindingClause :=
      ⟨[blank], none, .default ⟨"type".toList, by decide, by decide, by decide⟩, [blank], by simp⟩
    let commented : BindingClause :=
      ⟨[blank], some [.comment [] (by decide), blank],
        .default ⟨['T'], by decide, by decide, by decide⟩, [blank], by simp⟩
    let ofTypes : Statement := ⟨.typeOnly, "import type from '".toList, "./a".toList⟩
    let ofValues : Statement := ⟨.value, "import type/**/ T from '".toList, "./a".toList⟩
    document "import type from './a'\n".toList = .statement ofTypes :: "'\n".toList.map .char ∧
      ofTypes.HasClause binding.text ∧ binding.keyword.isSome = false ∧
        document "import type/**/ T from './a'\n".toList =
          .statement ofValues :: "'\n".toList.map .char ∧
            ofValues.HasClause commented.text ∧ commented.keyword.isSome := by
  intro blank binding commented ofTypes ofValues
  have hbinding : ofTypes.HasClause binding.text :=
    ⟨[], [' '], '\'', List.forall_mem_nil _, by simp [Blanks, isBlank], by decide, by decide⟩
  have hcommented : ofValues.HasClause commented.text :=
    ⟨[], [' '], '\'', List.forall_mem_nil _, by simp [Blanks, isBlank], by decide, by decide⟩
  exact ⟨by decide +kernel, hbinding, rfl, by decide +kernel, hcommented, rfl⟩

end Transplant.Source
