import Transplant.FileCasing
import Transplant.Package
import Transplant.Proofs.Provenance.Replacement
import Transplant.Proofs.Provenance.RoundTrip
import Transplant.Proofs.Source.Lines

/-! A header is no part of the imports of a source. It stands in lines of its own, in which nothing
begins a statement, and behind a directive, which does not begin one either, so that the scan comes
out of them as it went in. -/
namespace Transplant

open Source

variable {a l r t u : Text} {c : Char} {n : Nat}

namespace Provenance

/-- A line in front of the imports that none of what reads them takes notice of: no statement begins
in it, and it does not ask for file names to be left alone. -/
structure IsAside (l : Text) : Prop where
  noImport : ¬ "import".toList <+: l.dropWhile isBlank
  noExport : ¬ "export".toList <+: l.dropWhile isBlank
  noDirective : FileCasing.isDirective l = false

/-- The first character of a line that is no white space begins the line when it is trimmed. -/
theorem exists_trim_eq_cons (h : l.dropWhile isBlank = c :: r) (hc : Unicode.isWhiteSpace c = false) :
    ∃ u, l.trim = c :: u := by
  have hblank (d : Char) (hd : isBlank d) : Unicode.isWhiteSpace d := by
    rcases isBlank_iff.1 hd with rfl | rfl <;> decide
  have hstart : l.trimStart = c :: r := by
    have hfront : ∀ d ∈ l.takeWhile isBlank, Unicode.isWhiteSpace d := fun d hd =>
      hblank d (List.mem_takeWhile_imp hd)
    rw [Text.trimStart, ← List.takeWhile_append_dropWhile (p := isBlank) (l := l),
      List.dropWhile_append_of_pos hfront, h, List.dropWhile_cons_of_neg (by simp [hc])]
  obtain ⟨v, hv⟩ : l.trim <+: c :: r := hstart ▸ List.rdropWhile_prefix _ _
  cases htrim : l.trim with
  | nil =>
    have hall := List.rdropWhile_eq_nil_iff.1 (show List.rdropWhile _ l.trimStart = [] from htrim)
    rw [hstart] at hall
    exact absurd (hall c List.mem_cons_self) (by simp [hc])
  | cons d u =>
    rw [htrim] at hv
    exact ⟨u, by rw [(List.cons.inj hv).1]⟩

/-- A line that begins with a quote, or as a line of a comment does. -/
theorem isAside_of_trim (h : l.trim = c :: u) (hi : c ≠ 'i') (he : c ≠ 'e')
    (hslash : c = '/' → u.head? ≠ some '/') : IsAside l := by
  have hword (d : Char) (w : Text) (hd : Unicode.isWhiteSpace d = false) (hne : c ≠ d) :
      ¬ d :: w <+: l.dropWhile isBlank := by
    rintro ⟨r, hr⟩
    obtain ⟨v, hv⟩ := exists_trim_eq_cons hr.symm hd
    rw [h] at hv
    exact hne (List.cons.inj hv).1
  refine ⟨hword 'i' _ (by decide) hi, hword 'e' _ (by decide) he, ?_⟩
  have hnone : l.trim.stripStart? FileCasing.directive = none := by
    rw [stripStart?_eq_none_iff, h]
    rintro ⟨r, hr⟩
    obtain ⟨hc, hu⟩ := List.cons.inj hr
    exact hslash hc.symm (by rw [← hu]; rfl)
  simp [FileCasing.isDirective, hnone]

theorem isAside_of_isDirective (h : isDirective l) : IsAside l := by
  obtain ⟨q, u, hu, rfl | rfl⟩ := exists_of_isDirective h <;>
    exact isAside_of_trim hu (by decide) (by decide) (fun hslash => absurd hslash (by decide))

/-! What is found behind such lines -/

theorem scan_aside (hl : l.IsLine) (h : IsAside l) (hend : l.Ended ∨ t = []) :
    scan true (l ++ t) = l.map .char ++ scan true t := by
  by_cases he : l.Ended
  · obtain ⟨k, hk, rfl⟩ := hl.exists_of_ended he
    have hword {w : Text} (hw : ¬ w <+: (k ++ ['\n']).dropWhile isBlank) :
        ¬ w <+: k.dropWhile isBlank := by
      rw [(skipped_append (by decide) k []).2] at hw
      exact fun hp => hw (hp.trans (List.prefix_append _ _))
    have hscan := scan_line (.other ⟨k, hk, hword h.noImport, hword h.noExport⟩) (.inr ⟨t, rfl⟩)
    rw [scan_inside] at hscan
    simpa [Line.text, Line.pieces] using hscan
  · obtain rfl := hend.resolve_left he
    have hscan := scan_line (.other ⟨l, hl.not_mem_of_not_ended he, h.noImport, h.noExport⟩)
      (.inl rfl)
    simpa [Line.text, Line.pieces] using hscan

theorem scan_asides (h : ∀ l ∈ a.fullLines, IsAside l) (hend : a.Ended ∨ t = []) :
    scan true (a ++ t) = a.map .char ++ scan true t := by
  generalize hlines : a.fullLines = ls at h
  induction ls generalizing a with
  | nil =>
    obtain rfl : a = [] := by rw [← Text.flatten_fullLines a, hlines]; rfl
    rfl
  | cons l ls ih =>
    obtain ⟨hl, hls, hends⟩ := Text.fullLines_eq_cons hlines
    obtain rfl : a = l ++ ls.flatten := by rw [← Text.flatten_fullLines a, hlines]; rfl
    have hfirst : l.Ended ∨ ls.flatten ++ t = [] := by
      rcases hends with he | rfl
      · exact .inl he
      · simpa using hend
    have hrest : Text.Ended ls.flatten ∨ t = [] := by
      refine hend.imp_left fun he => ?_
      by_cases hnil : ls.flatten = []
      · exact .inl hnil
      · right
        rw [← List.getLast?_append_of_ne_nil l hnil]
        exact he.resolve_left (by simp [hl.ne_nil])
    have htail := ih hrest hls fun k hk => h k (List.mem_cons_of_mem l hk)
    rw [List.append_assoc, scan_aside hl (h l List.mem_cons_self) hfirst, htail, List.map_append,
      List.append_assoc]

/-- The import, as many bytes further on. -/
def shift (n : Nat) (i : Import) : Import := { i with offset := i.offset + n }

theorem importsFrom_add (d : Document) (m n : Nat) :
    d.importsFrom (m + n) = (d.importsFrom m).map (shift n) := by
  induction d generalizing m with
  | nil => rfl
  | cons x d ih =>
    cases x with
    | char c =>
      rw [Document.importsFrom, Document.importsFrom, ← ih, Nat.add_right_comm]
    | statement st =>
      rw [Document.importsFrom, Document.importsFrom, List.map_cons, ← ih, Nat.add_right_comm]
      rfl

theorem imports_asides (h : ∀ l ∈ a.fullLines, IsAside l) (hend : a.Ended ∨ t = []) :
    imports (a ++ t) = (imports t).map (shift a.byteSize) := by
  rw [imports, document, scan_asides h hend, importsFrom_map_char, importsFrom_add]
  rfl

theorem head_map_char (t : Text) (d : Document) :
    (FileCasing.head (t.map .char ++ d)).write = t ++ (FileCasing.head d).write := by
  induction t with
  | nil => rfl
  | cons c t ih => simpa [FileCasing.head, Document.write, Piece.text] using ih

theorem isPreserved_asides (h : ∀ l ∈ a.fullLines, IsAside l) (hend : a.Ended ∨ t = []) :
    FileCasing.isPreserved (a ++ t) = FileCasing.isPreserved t := by
  have hnone : (Text.lines a).any FileCasing.isDirective = false := by
    rw [Text.lines, List.any_map, List.any_eq_false]
    intro l hl
    have htrim : FileCasing.isDirective (Text.withoutLineEnd l) = FileCasing.isDirective l := by
      simp only [FileCasing.isDirective, Text.trim_withoutLineEnd]
    simp [htrim, (h l hl).noDirective]
  have hlines : Text.lines (a ++ (FileCasing.head (document t)).write) =
      Text.lines a ++ Text.lines (FileCasing.head (document t)).write := by
    rcases hend with hend | rfl
    · simp only [Text.lines, Text.fullLines_append hend, List.map_append]
    · simp [document, FileCasing.head, Document.write, Text.lines, Text.fullLines]
  rw [FileCasing.isPreserved, document, scan_asides h hend, head_map_char, ← document, hlines,
    List.any_append, hnone, Bool.false_or]
  rfl

/-! The lines of a header -/

theorem exists_trim_cons_eq (hc : Unicode.isWhiteSpace c = false) (t : Text) :
    ∃ u, Text.trim (c :: t) = c :: u :=
  exists_trim_eq_cons (r := t) (List.dropWhile_cons_of_neg (by
    intro hb
    rcases isBlank_iff.1 hb with rfl | rfl <;> exact absurd hc (by decide))) hc

theorem isAside_line (tag v : Text) : IsAside (Stamp.line tag v) := by
  obtain ⟨u, hu⟩ := exists_trim_cons_eq (c := '*') (by decide) (' ' :: (tag ++ ' ' :: v))
  have htrim : (Stamp.line tag v).trim = '*' :: u := by
    rw [Stamp.line_eq, Text.trim_concat Text.isWhiteSpace_lf, Text.trim_cons (by decide), hu]
  exact isAside_of_trim htrim (by decide) (by decide) (fun hslash => absurd hslash (by decide))

theorem isLine_line {tag v : Text} (ht : '\n' ∉ tag) (hv : '\n' ∉ v) : (Stamp.line tag v).IsLine := by
  apply Text.isLine_concat_lf
  simp [ht, hv]

theorem fullLines_header (s : Stamp) (ho : '\n' ∉ s.origin) (hv : '\n' ∉ s.version)
    (hd : '\n' ∉ s.date) : s.header.fullLines = ["/**\n".toList, Stamp.line originTag s.origin,
      Stamp.line versionTag s.version, Stamp.line dateTag s.date, " */\n".toList] := by
  have hopen : Text.IsLine "/**\n".toList := Text.isLine_concat_lf (l := "/**".toList) (by decide)
  have hclose : Text.IsLine " */\n".toList := Text.isLine_concat_lf (l := " */".toList) (by decide)
  have horigin := isLine_line (show '\n' ∉ originTag by decide) ho
  have hversion := isLine_line (show '\n' ∉ versionTag by decide) hv
  have hdate := isLine_line (show '\n' ∉ dateTag by decide) hd
  rw [← List.append_nil s.header, Stamp.header_append, hopen.fullLines_append (.inr rfl),
    horigin.fullLines_append (ended_line _ _), hversion.fullLines_append (ended_line _ _),
    hdate.fullLines_append (ended_line _ _), hclose.fullLines_append (.inr rfl)]
  rfl

theorem isAside_of_mem_header {s : Stamp} (ho : '\n' ∉ s.origin) (hv : '\n' ∉ s.version)
    (hd : '\n' ∉ s.date) : ∀ l ∈ s.header.fullLines, IsAside l := by
  have hopen : Text.trim "/**\n".toList = '/' :: "**".toList := by decide
  have hclose : Text.trim " */\n".toList = '*' :: "/".toList := by decide
  intro l hl
  rw [fullLines_header s ho hv hd] at hl
  simp only [List.mem_cons, List.not_mem_nil, or_false] at hl
  rcases hl with rfl | rfl | rfl | rfl | rfl
  · exact isAside_of_trim hopen (by decide) (by decide) (fun _ => by decide)
  · exact isAside_line _ _
  · exact isAside_line _ _
  · exact isAside_line _ _
  · exact isAside_of_trim hclose (by decide) (by decide) (fun hslash => absurd hslash (by decide))

theorem getLast?_append_header (s : Stamp) (a : Text) : (a ++ s.header).getLast? = some '\n' := by
  obtain ⟨u, -, -, hheader⟩ := exists_header_eq s
  have hlast : " */\n".toList ≠ [] := by decide
  rw [← List.append_nil s.header, hheader, List.append_nil, ← List.append_assoc, ← List.append_assoc,
    List.getLast?_append_of_ne_nil _ hlast]
  rfl

/-! The directive in front -/

theorem isAside_of_mem_directive (t : Text) : (∀ l ∈ (splitDirective t).1.fullLines, IsAside l) ∧
    ∀ l ∈ (splitDirective t).1.ended.fullLines, IsAside l := by
  rcases splitDirective_cases t with ⟨h, -⟩ | ⟨k, ls, ht, hk, h⟩
  · rw [h]
    exact ⟨nofun, nofun⟩
  · have hline := (Text.fullLines_eq_cons ht).1
    rw [h, Text.fullLines_of_isLine hline, Text.fullLines_of_isLine hline.ended]
    simp only [List.mem_singleton, forall_eq]
    exact ⟨isAside_of_isDirective hk, isAside_of_isDirective (by rwa [isDirective_ended])⟩

/-- What a line feed behind the directive adds to the bytes of a source. -/
theorem byteSize_ended_splitDirective (t : Text) : (splitDirective t).1.ended.byteSize =
    (splitDirective t).1.byteSize + if isDirective t ∧ '\n' ∉ t then 1 else 0 := by
  have hended := congrArg Text.byteSize (ended_splitDirective_append t)
  have hsplit := congrArg Text.byteSize (splitDirective_append t)
  rw [Text.byteSize_append, Text.byteSize_append] at hended
  rw [Text.byteSize_append] at hsplit
  split at hended
  · rw [if_pos ‹_›]
    have hone : Text.byteSize ['\n'] = 1 := rfl
    omega
  · rw [if_neg ‹_›]
    have hnone : Text.byteSize [] = 0 := rfl
    omega

theorem lf_not_mem_origin {s : Stamp} (hp : '\n' ∉ s.package) (hs : '\n' ∉ s.subpath) :
    '\n' ∉ s.origin := by
  have hdrop {t : Text} (ht : '\n' ∉ t) : '\n' ∉ Text.dropEndWhile (· == '/') t := fun h =>
    ht ((List.rdropWhile_prefix _ _).subset h)
  have hpath : '\n' ∉ s.path := hdrop fun h => hs ((List.dropWhile_suffix _).subset h)
  have horigin : s.origin = if s.path = [] then s.package.dropEndWhile (· == '/')
      else s.package.dropEndWhile (· == '/') ++ '/' :: s.path := rfl
  rw [horigin]
  split
  · exact hdrop hp
  · simp [hdrop hp, hpath]

/-! What is asked of imports without their offsets -/

theorem importsScope_of_shift (h : imports t = (imports u).map (shift n)) :
    Package.importsScope t = Package.importsScope u := by
  rw [Package.importsScope, h, List.any_map]
  rfl

theorem requiredLibs_of_shift (h : imports t = (imports u).map (shift n)) :
    Package.requiredLibs t = Package.requiredLibs u := by
  rw [Package.requiredLibs, h, List.filterMap_map]
  rfl

/-- A header changes nothing about the imports of a source but where they begin, and this by the same
number of bytes for all of them. It does not change either whether file names are to be left alone,
whether anything is imported from the scope, or which libraries are. -/
theorem imports_addTo (package subpath version : Text) (d : Date) (content : Text) :
    '\n' ∉ package → '\n' ∉ subpath → '\n' ∉ version →
      let s : Stamp := ⟨package, subpath, version, d.text⟩
      let stripped := strip content
      let added := s.header.byteSize + if isDirective stripped ∧ '\n' ∉ stripped then 1 else 0
      imports (s.addTo content) = (imports stripped).map (shift added) ∧
        FileCasing.isPreserved (s.addTo content) = FileCasing.isPreserved stripped ∧
          Package.importsScope (s.addTo content) = Package.importsScope stripped ∧
            Package.requiredLibs (s.addTo content) = Package.requiredLibs stripped := by
  intro hp hs hv s stripped added
  have hdate : '\n' ∉ d.text := fun h => absurd (Date.isDateChar_of_mem_text h) (by decide)
  have hheader := isAside_of_mem_header (s := s) (lf_not_mem_origin hp hs) hv hdate
  obtain ⟨hdirective, hended⟩ := isAside_of_mem_directive stripped
  have hend := ended_or_splitDirective_eq_nil stripped
  have hfront : ∀ l ∈ ((splitDirective stripped).1.ended ++ s.header).fullLines, IsAside l := by
    rw [Text.fullLines_append (Text.ended_ended _)]
    exact fun l hl => (List.mem_append.1 hl).elim (hended l) (hheader l)
  have hfrontEnd : Text.Ended ((splitDirective stripped).1.ended ++ s.header) :=
    .inr (getLast?_append_header s _)
  have hadded : s.addTo content =
      (splitDirective stripped).1.ended ++ s.header ++ (splitDirective stripped).2 := by
    rw [Stamp.addTo_eq, List.append_assoc]
  have himports : imports (s.addTo content) = (imports stripped).map (shift added) := by
    rw [hadded, imports_asides hfront (.inl hfrontEnd)]
    conv => rhs; rw [← splitDirective_append stripped, imports_asides hdirective hend]
    rw [List.map_map]
    apply List.map_congr_left
    intro i _
    have hsize := byteSize_ended_splitDirective stripped
    simp only [shift, Function.comp_apply, Text.byteSize_append, Import.mk.injEq, true_and]
    simp only [added]
    omega
  refine ⟨himports, ?_, ?_, ?_⟩
  · rw [hadded, isPreserved_asides hfront (.inl hfrontEnd)]
    conv => rhs; rw [← splitDirective_append stripped, isPreserved_asides hdirective hend]
  · exact importsScope_of_shift himports
  · exact requiredLibs_of_shift himports

/-- A header whose path and version look like imports, behind a directive and in front of another one. -/
theorem imports_addTo_of_quoted_import :
    let content := "'use client'\n// @microbuild-preserve-casing\nimport { A } from '@microbuild/types'\n".toList
    let subpath := "a */ import './x'".toList
    let version := "1\r\texport * from './y".toList
    let d : Date := ⟨2026, 10, 17, by decide⟩
    let s : Stamp := ⟨"@microbuild/ui".toList, subpath, version, d.text⟩
    let stripped := strip content
    let added := s.header.byteSize + if isDirective stripped ∧ '\n' ∉ stripped then 1 else 0
    ('\n' ∉ s.package ∧ '\n' ∉ subpath ∧ '\n' ∉ version) ∧
      (imports (s.addTo content) = (imports stripped).map (shift added) ∧
        FileCasing.isPreserved (s.addTo content) = FileCasing.isPreserved stripped ∧
          Package.importsScope (s.addTo content) = Package.importsScope stripped ∧
            Package.requiredLibs (s.addTo content) = Package.requiredLibs stripped) ∧
      (imports stripped).map (shift added) = [⟨.value, "@microbuild/types".toList, 183⟩] ∧
        FileCasing.isPreserved stripped := by
  intro content subpath version d s stripped added
  have hp : '\n' ∉ s.package := by decide
  have hs : '\n' ∉ subpath := by decide
  have hv : '\n' ∉ version := by decide
  exact ⟨⟨hp, hs, hv⟩, imports_addTo s.package subpath version d content hp hs hv,
    by decide +kernel, by decide +kernel⟩

end Provenance

end Transplant
