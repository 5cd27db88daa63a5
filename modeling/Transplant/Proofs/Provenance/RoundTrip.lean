import Transplant.Proofs.Date.RoundTrip
import Transplant.Proofs.Provenance.Header
import Transplant.Proofs.Text.Parts

/-! A header that is added to a source can be read from it again. The reader looks through all lines
and takes the first that has a tag, and nothing in front of the header has one. -/
namespace Transplant

variable {a b l t tag v : Text} {c : Char}

/-- A text that can be told from the line of a header that it is put into. -/
structure IsLegible (v : Text) : Prop where
  ne_nil : v ≠ []
  oneLine : '\n' ∉ v
  trimmed : v.trim = v
  not_end : ¬ "*/".toList <:+ v

instance (v : Text) : Decidable (IsLegible v) :=
  decidable_of_iff (v ≠ [] ∧ '\n' ∉ v ∧ v.trim = v ∧ ¬ "*/".toList <:+ v)
    ⟨fun ⟨hne, hline, htrim, hend⟩ => ⟨hne, hline, htrim, hend⟩,
      fun ⟨hne, hline, htrim, hend⟩ => ⟨hne, hline, htrim, hend⟩⟩

theorem isLegible_date (d : Date) : IsLegible d.text where
  ne_nil := by simp [Date.text]
  oneLine h := absurd (Date.isDateChar_of_mem_text h) (by decide)
  trimmed := by
    have hspace (c : Char) (hc : c ∈ d.text) : Unicode.isWhiteSpace c = false :=
      Date.isWhiteSpace_eq_false_of_isDateChar (Date.isDateChar_of_mem_text hc)
    apply Text.trim_eq_self_iff.2
    exact ⟨fun c hc => hspace c (List.mem_of_mem_head? hc),
      fun c hc => hspace c (List.mem_of_mem_getLast? hc)⟩
  not_end h := by
    have hslash : '/' ∈ d.text := h.subset (by decide)
    exact absurd (Date.isDateChar_of_mem_text hslash) (by decide)

namespace Provenance

/-! Lines and their tags -/

/-- What a line says under a tag. -/
def fieldLine? (tag l : Text) : Option Text := (commentBody? l).bind (tagValue? tag)

theorem commentBody?_congr {k : Text} (h : k.trim = l.trim) : commentBody? k = commentBody? l := by
  simp only [commentBody?, h]

theorem field?_eq (tag t : Text) : field? tag t = t.fullLines.findSome? (fieldLine? tag) := by
  have hline : fieldLine? tag ∘ Text.withoutLineEnd = fieldLine? tag := by
    funext l
    simp only [Function.comp_apply, fieldLine?, commentBody?_congr (Text.trim_withoutLineEnd l)]
  simp only [field?, Text.lines, List.findSome?_map]
  rw [← hline]
  rfl

theorem field?_append (ha : a.Ended) (b : Text) :
    field? tag (a ++ b) = (field? tag a).or (field? tag b) := by
  simp only [field?_eq, Text.fullLines_append ha, List.findSome?_append]

theorem field?_of_isLine (hl : l.IsLine) : field? tag l = fieldLine? tag l := by
  rw [field?_eq, Text.fullLines_of_isLine hl]
  cases h : fieldLine? tag l <;> simp [h]

/-- A directive is no comment. -/
theorem fieldLine?_of_isDirective (h : isDirective l) : fieldLine? tag l = none := by
  obtain ⟨q, u, hu, rfl | rfl⟩ := exists_of_isDirective h <;>
    simp [fieldLine?, commentBody?, hu, Text.stripStart?]

theorem field?_ended_splitDirective (tag t : Text) : field? tag (splitDirective t).1.ended = none := by
  rcases splitDirective_cases t with ⟨h, -⟩ | ⟨l, ls, ht, hd, h⟩
  · rw [h]
    rfl
  · have hl := (Text.fullLines_eq_cons ht).1
    rw [h, field?_of_isLine hl.ended]
    exact fieldLine?_of_isDirective (by rwa [isDirective_ended])

/-! The lines of a header -/

/-- The tags of a header. -/
def tags : List Text := [originTag, versionTag, dateTag]

theorem dropCommentEnds_of_not (h : ¬ "*/".toList <:+ t) : dropCommentEnds t = t := by
  rw [dropCommentEnds, dropCommentEnds.go.eq_def]
  split
  · rename_i r hr
    apply absurd _ h
    exact ⟨r.reverse, by simpa using congrArg List.reverse hr.symm⟩
  · exact List.reverse_reverse t

theorem exists_of_mem_tags (h : tag ∈ tags) : ∃ u, tag = '@' :: u ∧ '\n' ∉ u := by
  simp only [tags, List.mem_cons, List.not_mem_nil, or_false] at h
  rcases h with rfl | rfl | rfl <;> exact ⟨_, rfl, by decide⟩

theorem eq_of_prefix_of_tag : ∀ tag ∈ tags, ∀ other ∈ tags, other <+: tag → other = tag := by decide

/-- No tag begins another. -/
theorem stripStart?_tag {other : Text} (h : tag ∈ tags) (hother : other ∈ tags)
    (hne : other ≠ tag) (t : Text) : (tag ++ t).stripStart? other = none := by
  cases hstrip : (tag ++ t).stripStart? other with
  | none => rfl
  | some u =>
    have hpre : other <+: tag ++ t := ⟨u, (Text.stripStart?_eq_some_iff.1 hstrip).symm⟩
    rcases List.prefix_or_prefix_of_prefix hpre (List.prefix_append tag t) with hp | hp
    · exact absurd (eq_of_prefix_of_tag tag h other hother hp) hne
    · exact absurd (eq_of_prefix_of_tag other hother tag h hp).symm hne

theorem tagValue?_append (hv : IsLegible v) (tag : Text) :
    tagValue? tag (tag ++ ' ' :: v) = some v := by
  have htrim : Text.trim (' ' :: v) = v := (Text.trim_cons (by decide)).trans hv.trimmed
  have hspace : Unicode.isWhiteSpace ' ' := by decide
  simp [tagValue?, htrim, hspace, hv.ne_nil]

/-- The last character of a line's text is that of the value. -/
theorem getLast?_append_value (hv : IsLegible v) (a : Text) : (a ++ ' ' :: v).getLast? = v.getLast? := by
  rw [List.getLast?_append_of_ne_nil a (List.cons_ne_nil ' ' v), List.getLast?_cons]
  simp [List.getLast?_eq_some_getLast hv.ne_nil]

theorem commentBody?_line (h : tag ∈ tags) (hv : IsLegible v) :
    commentBody? (Stamp.line tag v) = some (tag ++ ' ' :: v) := by
  obtain ⟨u, rfl, -⟩ := exists_of_mem_tags h
  have hlast : ∀ c ∈ v.getLast?, Unicode.isWhiteSpace c = false :=
    (Text.trim_eq_self_iff.1 hv.trimmed).2
  have htrim (d : Char) (a : Text) (hd : Unicode.isWhiteSpace d = false) :
      Text.trim (d :: a ++ ' ' :: v) = d :: a ++ ' ' :: v := by
    apply Text.trim_eq_self_iff.2
    rw [getLast?_append_value hv]
    exact ⟨by simpa using hd, hlast⟩
  have hline : (Stamp.line ('@' :: u) v).trim = '*' :: ' ' :: '@' :: u ++ ' ' :: v := by
    rw [Stamp.line_eq, Text.trim_concat Text.isWhiteSpace_lf, Text.trim_cons (by decide)]
    exact htrim '*' (' ' :: '@' :: u) (by decide)
  have hend : ¬ "*/".toList <:+ ' ' :: '@' :: u ++ ' ' :: v := by
    intro hs
    exact hv.not_end (Text.suffix_of_suffix_append_cons (by decide) hs)
  have hstart : Text.stripStart? ('*' :: ' ' :: '@' :: u ++ ' ' :: v) ['*'] =
      some (' ' :: '@' :: u ++ ' ' :: v) := Text.stripStart?_append (p := ['*'])
  have hopen : Text.stripStart? ('*' :: ' ' :: '@' :: u ++ ' ' :: v) "/**".toList = none := rfl
  simp only [commentBody?, hline, hopen, hstart, Option.none_or, Option.map_some,
    dropCommentEnds_of_not hend]
  rw [List.cons_append, Text.trim_cons (by decide), htrim '@' u (by decide)]

/-- A line of a header says its value under its own tag, and nothing under the others. -/
theorem field?_line {other : Text} (tag : Text) (h : tag ∈ tags) (hother : other ∈ tags)
    (hv : IsLegible v) :
    field? other (Stamp.line tag v) = if other = tag then some v else none := by
  have hline : (Stamp.line tag v).IsLine := by
    apply Text.isLine_concat_lf
    obtain ⟨u, rfl, hu⟩ := exists_of_mem_tags h
    simp [hu, hv.oneLine]
  rw [field?_of_isLine hline, fieldLine?, commentBody?_line h hv, Option.bind_some]
  split
  · rename_i he
    rw [he, tagValue?_append hv]
  · rename_i hne
    simp [tagValue?, stripStart?_tag h hother hne]

theorem ended_line (tag v : Text) : (Stamp.line tag v).Ended := Text.ended_concat _

theorem field?_opening (tag : Text) (h : tag ∈ tags) : field? tag "/**\n".toList = none := by
  revert tag
  decide

/-- Every tag of a header is found in it, whatever comes behind. -/
theorem field?_header (s : Stamp) (h : tag ∈ tags) (ho : IsLegible s.origin)
    (hv : IsLegible s.version) (hd : IsLegible s.date) (t : Text) :
    field? tag (s.header ++ t) = some (if tag = originTag then s.origin
      else if tag = versionTag then s.version else s.date) := by
  have horigin := field?_line originTag (by decide) h ho
  have hversion := field?_line versionTag (by decide) h hv
  have hdate := field?_line dateTag (by decide) h hd
  have hopen : Text.Ended "/**\n".toList := .inr rfl
  rw [Stamp.header_append, field?_append hopen, field?_append (ended_line _ _), field?_append (ended_line _ _),
    field?_append (ended_line _ _), field?_opening tag h, horigin, hversion, hdate]
  simp only [tags, List.mem_cons, List.not_mem_nil, or_false] at h
  rcases h with rfl | rfl | rfl <;> rfl

theorem read_addTo (s : Stamp) (ho : IsLegible s.origin) (hv : IsLegible s.version)
    (hd : IsLegible s.date) (content : Text) :
    read (s.addTo content) = ⟨some s.origin, some s.version, some s.date⟩ := by
  have hfield (tag : Text) (h : tag ∈ tags) : field? tag (s.addTo content) =
      some (if tag = originTag then s.origin else if tag = versionTag then s.version else s.date) := by
    rw [Stamp.addTo_eq, field?_append (Text.ended_ended _), field?_ended_splitDirective,
      field?_header s h ho hv hd]
    rfl
  have hversion : versionTag ≠ originTag := by decide
  have hdate : dateTag ≠ originTag ∧ dateTag ≠ versionTag := by decide
  simp only [read, hfield originTag (by decide), hfield versionTag (by decide),
    hfield dateTag (by decide), hversion, hdate.1, hdate.2, if_true, if_false]

end Provenance

/-! Packages and paths in them -/

/-- The path of a stamp, without the slashes around it. -/
def Stamp.path (s : Stamp) : Text :=
  Text.dropEndWhile (· == '/') (s.subpath.dropWhile (· == '/'))

/-- The names of packages: a name behind the name of a scope, or a name alone. -/
inductive IsPackageName : Text → Prop where
  | inScope {a b : Text} : '/' ∉ a → '/' ∉ b → b ≠ [] → IsPackageName ('@' :: a ++ '/' :: b)
  | alone {p : Text} : '/' ∉ p → p.head? ≠ some '@' → IsPackageName p

namespace Provenance

theorem packageAndSubpath_of_head? (h : t.head? ≠ some '@') :
    packageAndSubpath t = (t.splitFirst? '/').getD (t, []) := by
  cases t with
  | nil => rfl
  | cons c t =>
    have hc : c ≠ '@' := by simpa using h
    simp [packageAndSubpath, hc]

theorem packageAndSubpath_scoped (ha : '/' ∉ a) (t : Text) :
    packageAndSubpath ('@' :: a ++ '/' :: t) =
      ((t.splitFirst? '/').map fun (name, path) => ('@' :: a ++ '/' :: name, path)).getD
        ('@' :: a ++ '/' :: t, []) := by
  have hsplit : Text.splitFirst? '/' ('@' :: a ++ '/' :: t) = some ('@' :: a, t) :=
    Text.splitFirst?_append (by simp [ha]) t
  simp only [List.cons_append] at hsplit ⊢
  simp only [packageAndSubpath, hsplit, Option.bind_eq_bind, Option.bind_some]
  cases Text.splitFirst? '/' t with
  | none => rfl
  | some parts => rfl

/-- The package and the path that an origin was put together from. -/
theorem packageAndSubpath_origin (s : Stamp) (h : IsPackageName s.package) :
    packageAndSubpath s.origin = (s.package, s.path) := by
  have horigin : s.origin = if s.path = [] then s.package.dropEndWhile (· == '/')
      else s.package.dropEndWhile (· == '/') ++ '/' :: s.path := rfl
  generalize s.path = path at horigin ⊢
  generalize s.package = package at h horigin ⊢
  cases h with
  | @inScope a b ha hb hne =>
    have htrim := Text.dropEndWhile_slash (a := '@' :: a ++ ['/']) hb hne
    simp only [List.append_assoc, List.cons_append, List.nil_append] at htrim
    rw [List.cons_append, htrim] at horigin
    split at horigin
    · rename_i hpath
      rw [horigin, hpath, ← List.cons_append, packageAndSubpath_scoped ha,
        Text.splitFirst?_eq_none_iff.2 hb]
      rfl
    · have hassoc : '@' :: (a ++ '/' :: b) ++ '/' :: path = '@' :: a ++ '/' :: (b ++ '/' :: path) := by
        simp
      rw [horigin, hassoc, packageAndSubpath_scoped ha, Text.splitFirst?_append hb]
      rfl
  | alone hp hat =>
    have htrim : package.dropEndWhile (· == '/') = package := by
      by_cases hne : package = []
      · rw [hne]
        rfl
      · exact Text.dropEndWhile_slash (a := []) hp hne
    rw [htrim] at horigin
    split at horigin
    · rename_i hpath
      rw [horigin, hpath, packageAndSubpath_of_head? hat, Text.splitFirst?_eq_none_iff.2 hp]
      rfl
    · have hhead : (package ++ '/' :: path).head? ≠ some '@' := by
        cases package with
        | nil => simp
        | cons c p => simpa using hat
      rw [horigin, packageAndSubpath_of_head? hhead, Text.splitFirst?_append hp]
      rfl

/-- A header is read back from the source it was added to, whatever the source: its origin, its
version and its date, and from these the date itself and the package with the path in it. -/
theorem read?_addTo (package subpath version content : Text) (d : Date) :
    let s : Stamp := ⟨package, subpath, version, d.text⟩
    let p : Provenance := ⟨some s.origin, some version, some d.text⟩
    IsLegible s.origin → IsLegible version →
      read? (s.addTo content) = some p ∧ p.parsedDate? = some d ∧
        (IsPackageName package → packageAndSubpath s.origin = (package, s.path)) := by
  intro s p ho hv
  have hread : read (s.addTo content) = p := read_addTo s ho hv (isLegible_date d) content
  refine ⟨?_, Date.parse?_text d, packageAndSubpath_origin s⟩
  simp [read?, hread, p]

/-- Behind a directive, in place of an old header, and in front of a line with a tag of its own. -/
theorem read?_addTo_of_directive :
    let content := "\"use client\";\n/**\n * @microbuild-origin x\n */\n// y\n* @microbuild-date z".toList
    let d : Date := ⟨-1, 2, 28, by decide⟩
    let s : Stamp := ⟨"@microbuild/ui-form".toList, "//a/b/".toList, "1.4.0".toList, d.text⟩
    let p : Provenance := ⟨some s.origin, some s.version, some s.date⟩
    (IsLegible s.origin ∧ IsLegible s.version ∧ IsPackageName s.package) ∧
      (read? (s.addTo content) = some p ∧ p.parsedDate? = some d ∧
        packageAndSubpath s.origin = (s.package, s.path)) ∧
      s.origin = "@microbuild/ui-form/a/b".toList ∧ s.path = "a/b".toList := by
  intro content d s p
  have ho : IsLegible s.origin := by decide
  have hv : IsLegible s.version := by decide
  have hp : IsPackageName s.package :=
    .inScope (a := "microbuild".toList) (b := "ui-form".toList) (by decide) (by decide) (by decide)
  obtain ⟨hread, hdate, hpackage⟩ := read?_addTo s.package s.subpath s.version content d ho hv
  exact ⟨⟨ho, hv, hp⟩, ⟨hread, hdate, hpackage hp⟩, by decide, by decide⟩

end Provenance

end Transplant
