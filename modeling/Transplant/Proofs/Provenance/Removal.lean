import Transplant.Proofs.Provenance.RoundTrip
import Transplant.Proofs.Provenance.Replacement
import Transplant.Proofs.Text.Parts

/-! What the removal of a header takes out of a source: the lines from one that opens a documentation
comment to the first one that ends in the end of a comment. They need not be one comment, nor say what
a header says. Both depend on their lines one by one: on what stands behind an end of a comment in the
middle of a line, and on where in a line a tag stands. -/
namespace Transplant

variable {a b block l p t v w : Text} {ls rest xs ys : List Text}

namespace Text

/-- All lines of a text but the last are ended. -/
theorem getLast?_of_mem_init (h : fullLines t = xs ++ l :: ys) : ∀ x ∈ xs, x.getLast? = some '\n' := by
  induction xs generalizing t with
  | nil => nofun
  | cons x xs ih =>
    obtain ⟨hx, hls, hend⟩ := fullLines_eq_cons h
    intro y hy
    rcases List.mem_cons.1 hy with rfl | hy
    · exact (hend.resolve_right (by simp)).resolve_left hx.ne_nil
    · exact ih hls y hy

/-- Lines that follow each other in a text are the lines of a text again. -/
theorem fullLines_flatten_of_infix (h : fullLines t = xs ++ (ls ++ ys)) : fullLines ls.flatten = ls := by
  induction xs generalizing t with
  | cons x xs ih => exact ih (fullLines_eq_cons h).2.1
  | nil =>
    rw [List.nil_append] at h
    induction ls generalizing t with
    | nil => rfl
    | cons l ls ih =>
      obtain ⟨hl, hls, hend⟩ := fullLines_eq_cons h
      rcases hend with hend | hnil
      · rw [List.flatten_cons, hl.fullLines_append hend, ih hls]
      · obtain ⟨rfl, -⟩ := List.append_eq_nil_iff.1 hnil
        simpa using fullLines_of_isLine hl

/-- A word without a line feed stands in one line of a text. -/
theorem infix_flatten_append_iff (hw : '\n' ∉ w) (hne : w ≠ [])
    (hls : ∀ l ∈ ls, l.getLast? = some '\n') :
    w <:+: ls.flatten ++ t ↔ (∃ l ∈ ls, w <:+: l) ∨ w <:+: t := by
  induction ls with
  | nil => simp
  | cons l ls ih =>
    obtain ⟨k, rfl⟩ := List.getLast?_eq_some_iff.1 (hls l List.mem_cons_self)
    have hline : w <:+: k ++ ['\n'] ↔ w <:+: k := by
      rw [Text.infix_append_cons hw]
      simp [hne]
    have hrest := ih fun l hl => hls l (List.mem_cons_of_mem _ hl)
    have hflat : ((k ++ ['\n']) :: ls).flatten ++ t = k ++ '\n' :: (ls.flatten ++ t) := by simp
    rw [hflat, Text.infix_append_cons hw, hrest]
    simp only [List.mem_cons, exists_eq_or_imp, hline, or_assoc]

end Text

namespace Provenance

/-- The characters that end a comment. -/
def commentEnd : Text := "*/".toList

/-- One comment, with nothing but white space behind the place where it first ends. -/
def IsComment (t : Text) : Prop :=
  ∃ a w, t = a ++ commentEnd ++ w ∧ (∀ c ∈ w, Unicode.isWhiteSpace c) ∧ ¬ commentEnd <:+: a ++ ['*']

/-- Nothing but white space stands behind an end of a comment. -/
def EndsClean (t : Text) : Prop :=
  ∀ a w, t = a ++ commentEnd ++ w → ∀ c ∈ w, Unicode.isWhiteSpace c

/-! The lines that are removed -/

theorem splitComment?_eq_some {comment : List Text} (h : splitComment? ls = some (comment, rest)) :
    ∃ inside closing, comment = inside ++ [closing] ∧ ls = inside ++ closing :: rest ∧
      (∀ l ∈ inside, ¬ commentEnd <:+ l.trim) ∧ commentEnd <:+ closing.trim := by
  induction ls generalizing comment with
  | nil => cases h
  | cons l ls ih =>
    rw [splitComment?] at h
    split at h
    · rename_i hend
      obtain ⟨rfl, rfl⟩ := Prod.mk.inj (Option.some.inj h)
      exact ⟨[], l, rfl, rfl, List.forall_mem_nil _, stripEnd?_isSome_iff.1 hend⟩
    · rename_i hend
      obtain ⟨⟨comment', rest'⟩, hls, he⟩ := Option.map_eq_some_iff.1 h
      obtain ⟨rfl, rfl⟩ := Prod.mk.inj he
      obtain ⟨inside, closing, rfl, rfl, hinside, hclosing⟩ := ih hls
      refine ⟨l :: inside, closing, rfl, rfl, ?_, hclosing⟩
      intro k hk
      rcases List.mem_cons.1 hk with rfl | hk
      · exact fun hs => hend (stripEnd?_isSome_iff.2 hs)
      · exact hinside k hk

/-- What the removal of a header takes for one. -/
def IsRemoved (block : Text) : Prop :=
  ∃ opening inside closing, block.fullLines = opening :: (inside ++ [closing]) ∧
    opening.trim = "/**".toList ∧ (∀ l ∈ inside, ¬ commentEnd <:+ l.trim) ∧
      commentEnd <:+ closing.trim ∧ hasTag block

theorem exists_of_stripLines? (h : stripLines? t.fullLines = some rest) :
    ∃ blanks block after, t.fullLines = blanks ++ (Text.fullLines block ++ after) ∧
      rest = blanks ++ after ∧ (∀ l ∈ blanks, l.trim = []) ∧ IsRemoved block := by
  have hlines := List.takeWhile_append_dropWhile (p := fun l : Text => l.trim == []) (l := t.fullLines)
  have hblank : ∀ l ∈ t.fullLines.takeWhile (fun l : Text => l.trim == []), l.trim = [] := by
    intro l hl
    simpa using List.mem_takeWhile_imp hl
  rw [stripLines?] at h
  split at h
  · cases h
  · rename_i opening tail hdrop
    simp only [Option.bind_eq_bind, Option.bind_eq_some_iff, Option.guard_eq_some', exists_const] at h
    obtain ⟨hopen, ⟨comment, after⟩, hcomment, htag, he⟩ := h
    obtain ⟨inside, closing, rfl, rfl, hinside, hclosing⟩ := splitComment?_eq_some hcomment
    have hblock : t.fullLines = t.fullLines.takeWhile (fun l : Text => l.trim == []) ++
        (opening :: (inside ++ [closing]) ++ after) := by
      refine hlines.symm.trans ?_
      rw [hdrop]
      simp
    have hself := Text.fullLines_flatten_of_infix hblock
    refine ⟨_, (opening :: (inside ++ [closing])).flatten, after, ?_, (Option.some.inj he).symm, hblank,
      opening, inside, closing, hself, hopen, hinside, hclosing, htag⟩
    rw [hself]
    exact hblock

/-! One comment -/

/-- Behind the end of a comment at the end of a trimmed line there is white space only. -/
theorem suffix_trim_iff : commentEnd <:+ l.trim ↔
    ∃ p w, l = p ++ commentEnd ++ w ∧ ∀ c ∈ w, Unicode.isWhiteSpace c := by
  constructor
  · rintro ⟨r, hr⟩
    obtain ⟨u, w, hl, -, hw⟩ := Text.exists_eq_append_trim l
    refine ⟨u ++ r, w, ?_, hw⟩
    rw [hl, ← hr]
    simp
  · rintro ⟨p, w, rfl, hw⟩
    have hstart : Text.trimStart (p ++ commentEnd) = p.trimStart ++ commentEnd := by
      rw [Text.trimStart, List.dropWhile_append]
      split
      · rename_i hnil
        rw [Text.trimStart, List.isEmpty_iff.1 hnil]
        rfl
      · rfl
    have hend : Text.trimEnd (p.trimStart ++ ['*'] ++ ['/']) = p.trimStart ++ ['*'] ++ ['/'] :=
      List.rdropWhile_concat_neg _ _ '/' (by decide)
    refine ⟨p.trimStart, ?_⟩
    rw [Text.trim_append_whiteSpace hw, Text.trim, hstart]
    simpa [commentEnd] using hend.symm

/-- A comment has no end but the one at which it is over. -/
theorem IsComment.endsClean (h : IsComment t) (hl : l <:+: t) : EndsClean l := by
  obtain ⟨a, w, rfl, hw, hfirst⟩ := h
  obtain ⟨x, y, hxy⟩ := hl
  rintro p v rfl c hc
  apply hw
  have hsplit : x ++ p ++ (commentEnd ++ (v ++ y)) = a ++ (commentEnd ++ w) := by simpa using hxy
  rcases List.append_eq_append_iff.1 hsplit with ⟨m, rfl, hm⟩ | ⟨m, -, hm⟩
  · rcases m with _ | ⟨d, _ | ⟨e, m⟩⟩
    · have hvw : v ++ y = w := List.append_cancel_left hm
      simp [← hvw, hc]
    · simp [commentEnd] at hm
    · -- The end of this line would come before the first end of all.
      obtain ⟨rfl, rfl, -⟩ : '*' = d ∧ '/' = e ∧ v ++ y = m ++ (commentEnd ++ w) := by
        simpa [commentEnd] using hm
      exact absurd ⟨x ++ p, m ++ ['*'], by simp [commentEnd]⟩ hfirst
  · rcases m with _ | ⟨d, _ | ⟨e, m⟩⟩
    · have hvw : w = v ++ y := List.append_cancel_left hm
      simp [hvw, hc]
    · simp [commentEnd] at hm
    · obtain ⟨-, -, rfl⟩ : '*' = d ∧ '/' = e ∧ w = m ++ (commentEnd ++ (v ++ y)) := by
        simpa [commentEnd] using hm
      simp [hc]

/-- What is removed is one comment exactly if in no line anything stands behind an end of a comment. -/
theorem isComment_iff (h : IsRemoved block) :
    IsComment block ↔ ∀ l ∈ block.fullLines, EndsClean l := by
  constructor
  · intro hcomment l hl
    have hin := List.infix_of_mem_flatten hl
    rw [Text.flatten_fullLines] at hin
    exact hcomment.endsClean hin
  · intro hclean
    obtain ⟨opening, inside, closing, hlines, hopen, hinside, hclosing, -⟩ := h
    have hended : ∀ l ∈ opening :: inside, l.getLast? = some '\n' := by
      rw [← List.cons_append] at hlines
      exact Text.getLast?_of_mem_init hlines
    have hflat := Text.flatten_fullLines block
    rw [hlines] at hclean hflat
    have hlast := hclean closing (by simp)
    obtain ⟨p, w, rfl, hw⟩ := suffix_trim_iff.1 hclosing
    have hblock : block = (opening :: inside).flatten ++ p ++ commentEnd ++ w := by simp [← hflat]
    refine ⟨(opening :: inside).flatten ++ p, w, hblock, hw, ?_⟩
    rw [List.append_assoc, Text.infix_flatten_append_iff (by decide) (by decide) hended]
    rintro (⟨l, hl, q, v, rfl⟩ | ⟨q, v, hin⟩)
    · have hmem : q ++ commentEnd ++ v ∈ opening :: (inside ++ [p ++ commentEnd ++ w]) := by
        rw [← List.cons_append]
        exact List.mem_append_left _ hl
      have hsuffix := suffix_trim_iff.2 ⟨q, v, rfl, hclean _ hmem q v rfl⟩
      rcases List.mem_cons.1 hl with hl | hl
      · rw [hl, hopen] at hsuffix
        exact absurd hsuffix (by decide)
      · exact hinside _ hl hsuffix
    · have hline : p ++ commentEnd ++ w = q ++ commentEnd ++ (v ++ '/' :: w) := by
        calc p ++ commentEnd ++ w = p ++ ['*'] ++ '/' :: w := by simp [commentEnd]
          _ = q ++ commentEnd ++ (v ++ '/' :: w) := by rw [← hin, List.append_assoc]
      exact absurd (hlast q _ hline '/' (by simp)) (by decide)

/-- Whether a line says something under one of the tags. -/
def SaysTag (l : Text) : Prop := ∃ tag ∈ tags, (fieldLine? tag l).isSome

/-- Something is read from a text when a line of it says something under a tag. -/
theorem isSome_read?_iff (t : Text) : (read? t).isSome ↔ ∃ l ∈ t.fullLines, SaysTag l := by
  have hfield (tag : Text) : (field? tag t).isSome ↔ ∃ l ∈ t.fullLines, (fieldLine? tag l).isSome := by
    rw [field?_eq, List.findSome?_isSome_iff]
  have hread : (read? t).isSome ↔ ∃ tag ∈ tags, (field? tag t).isSome := by
    have hnone : read? t = none ↔ ∀ tag ∈ tags, field? tag t = none := by
      simp [read?, read, tags]
    rw [← not_iff_not, Bool.not_eq_true, Option.isSome_eq_false_iff, Option.isNone_iff_eq_none, hnone]
    simp
  rw [hread]
  constructor
  · rintro ⟨tag, htag, h⟩
    obtain ⟨l, hl, h⟩ := (hfield tag).1 h
    exact ⟨l, hl, tag, htag, h⟩
  · rintro ⟨l, hl, tag, htag, h⟩
    exact ⟨tag, htag, (hfield tag).2 ⟨l, hl, h⟩⟩

/-- Removal takes out no more than one block of lines, behind a directive and blank lines. The block is one
comment that says what a header says exactly if nothing stands behind an end of a comment in one of its
lines, and one of its lines says something under a tag. -/
theorem strip_removes_header_iff (content : Text) : strip content = content ∨
    ∃ front block back, content = front ++ block ++ back ∧ strip content = front ++ back ∧
      (∀ l ∈ front.fullLines, isDirective l ∨ l.trim = []) ∧ IsRemoved block ∧
        (IsComment block ∧ (read? block).isSome ↔
          (∀ l ∈ block.fullLines, EndsClean l) ∧ ∃ l ∈ block.fullLines, SaysTag l) := by
  have hcontent := splitDirective_append content
  have hstrip : strip content = ((stripLines? (splitDirective content).2.fullLines).map
      fun lines => (splitDirective content).1 ++ lines.flatten).getD content := by
    rw [strip]
    rcases splitDirective content with ⟨directive, below⟩
    dsimp only
    cases stripLines? below.fullLines <;> rfl
  have hended := ended_or_splitDirective_eq_nil content
  have hfirst : ∀ l ∈ (splitDirective content).1.fullLines, isDirective l := by
    rcases splitDirective_cases content with ⟨h, -⟩ | ⟨k, ls, ht, hk, h⟩
    · rw [h]
      exact List.forall_mem_nil _
    · rw [h, Text.fullLines_of_isLine (Text.fullLines_eq_cons ht).1]
      simpa using hk
  generalize (splitDirective content).1 = directive at *
  generalize (splitDirective content).2 = below at *
  cases hlines : stripLines? below.fullLines with
  | none => exact .inl (by rw [hstrip, hlines]; rfl)
  | some rest =>
    right
    obtain ⟨blanks, block, after, hbelow, rfl, hblank, hblock⟩ := exists_of_stripLines? hlines
    have hflat := Text.flatten_fullLines below
    rw [hbelow, List.flatten_append, List.flatten_append, Text.flatten_fullLines] at hflat
    have hne : below ≠ [] := by
      obtain ⟨opening, inside, closing, hblock, -⟩ := hblock
      rintro rfl
      rw [hblock] at hbelow
      simp [Text.fullLines] at hbelow
    have hfront : (directive ++ blanks.flatten).fullLines = directive.fullLines ++ blanks := by
      have hflatten : Text.fullLines blanks.flatten = blanks :=
        Text.fullLines_flatten_of_infix (hbelow.trans (List.nil_append _).symm)
      rw [Text.fullLines_append (hended.resolve_right hne), hflatten]
    refine ⟨directive ++ blanks.flatten, block, after.flatten, ?_, ?_, ?_, hblock, ?_⟩
    · rw [← hcontent, ← hflat]
      simp
    · rw [hstrip, hlines]
      simp
    · rw [hfront]
      intro l hl
      exact (List.mem_append.1 hl).imp (hfirst l) (hblank l)
    · rw [isComment_iff hblock, isSome_read?_iff]

/-- Code that stands between two comments in the line that ends a block is removed with it. -/
theorem strip_removes_code_between_comments :
    let content := "/**\n * Doc. */ export const a = 1; /* @microbuild-origin x */\n".toList
    strip content = [] ∧ read? content = none ∧ ¬ IsComment content ∧
      ¬ (strip content = content ∨ ∃ front block back, content = front ++ block ++ back ∧
        strip content = front ++ back ∧ IsComment block ∧ (read? block).isSome) := by
  intro content
  have hstrip : strip content = [] := by decide
  have hread : read? content = none := by decide
  have hcode : content = "/**\n * Doc. ".toList ++ commentEnd ++
      " export const a = 1; /* @microbuild-origin x */\n".toList := by decide
  have hcomment : ¬ IsComment content := by
    intro h
    exact absurd (h.endsClean (List.infix_refl content) _ _ hcode 'e' (by decide)) (by decide)
  refine ⟨hstrip, hread, hcomment, ?_⟩
  rintro (h | ⟨front, block, back, hsplit, hrest, hblock, -⟩)
  · exact absurd (hstrip.symm.trans h) (by decide)
  · rw [hstrip] at hrest
    obtain ⟨rfl, rfl⟩ := List.append_eq_nil_iff.1 hrest.symm
    rw [List.nil_append, List.append_nil] at hsplit
    exact hcomment (hsplit ▸ hblock)

-- A comment that only mentions a tag is removed, and nothing is read from it.
example : let content := "/**\n * Sets @microbuild-origin tags.\n */\nexport {}\n".toList
    strip content = "export {}\n".toList ∧ read? content = none := by
  decide

end Provenance

end Transplant
