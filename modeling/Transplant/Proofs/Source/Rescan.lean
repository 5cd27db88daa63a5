import Transplant.Proofs.Source.SameStatement
import Transplant.Source.Document

/-! Scanning a text whose specifiers have been changed. With specifiers that can take their places the
statements are found again where they were, and nothing else is found. -/
namespace Transplant.Source

variable {b : Bool} {c q : Char} {p s t u rest : Text} {d : Document} {f g : Import → Option Text}
  {i : Import} {m n : Nat}

/-- The steps of a scan: the document of a text, each statement with the quote that closes it. -/
inductive Scanned : Bool → Text → Document → Prop where
  | nil {b : Bool} : Scanned b [] []
  | char {b : Bool} {c : Char} {t : Text} {d : Document} :
      (b = true → statement? (c :: t) = none) → Scanned (c == '\n') t d →
        Scanned b (c :: t) (.char c :: d)
  | statement {p s t : Text} {q e : Char} {kind : ImportKind} {d : Document} :
      statement? (p ++ q :: (s ++ e :: t)) = some (⟨kind, p ++ [q], s⟩, e :: t) →
        isQuote q → IsSpecifier s → isQuote e → Scanned false t d →
          Scanned true (p ++ q :: (s ++ e :: t)) (.statement ⟨kind, p ++ [q], s⟩ :: .char e :: d)

theorem ne_lf_of_isQuote (h : isQuote q) : (q == '\n') = false := by
  rcases isQuote_iff.1 h with rfl | rfl <;> decide

theorem scanned (b : Bool) (t : Text) : Scanned b t (scan b t) := by
  induction hlen : t.length using Nat.strongRecOn generalizing b t with
  | ind len ih =>
    cases t with
    | nil => simpa using .nil
    | cons c t =>
      have inside : Scanned (c == '\n') t (scan (c == '\n') t) := ih _ (by simp [← hlen]) _ _ rfl
      cases b with
      | false => simpa [scan_inside] using .char nofun inside
      | true =>
        cases hst : statement? (c :: t) with
        | none => simpa [scan_none hst] using .char (fun _ => hst) inside
        | some found =>
          obtain ⟨⟨kind, lead, s⟩, rest⟩ := found
          have hof := statement?_of hst
          obtain ⟨p, q, rfl, hq⟩ := hof.opened
          obtain ⟨e, t', rfl, he⟩ := hof.closed
          have htext : p ++ q :: (s ++ e :: t') = c :: t := by
            simpa [Reading.text] using hof.text_eq
          have hlt : t'.length < len := by
            have := hof.rest_lt
            simp at this hlen
            omega
          rw [scan_statement hst, scan_inside, ne_lf_of_isQuote he]
          simp only [← htext] at hst ⊢
          exact .statement hst hq hof.isSpecifier he (ih _ hlt false t' rfl)

theorem Scanned.eq_scan (h : Scanned b t d) : scan b t = d := by
  induction h with
  | nil => simp
  | @char b c t d hnone h ih =>
    cases b with
    | false => rw [scan_inside, ih]
    | true => rw [scan_none (hnone rfl), ih]
  | statement hst hq hs he h ih => rw [scan_statement hst, scan_inside, ne_lf_of_isQuote he, ih]

theorem Scanned.isSpecifier (h : Scanned b t d) (n : Nat) :
    ∀ i ∈ d.importsFrom n, IsSpecifier i.specifier := by
  induction h generalizing n with
  | nil => simp [Document.importsFrom]
  | char hnone h ih => exact ih _
  | statement hst hq hs he h ih =>
    intro i hi
    rcases List.mem_cons.1 hi with rfl | hi
    · exact hs
    · exact ih _ i hi

theorem isSpecifier_of_mem_imports (hi : i ∈ imports t) : IsSpecifier i.specifier :=
  (scanned true t).isSpecifier 0 i hi

/-- The specifier that `f` gives an import, or else its own. -/
def Import.chosen (f : Import → Option Text) (i : Import) : Text := (f i).getD i.specifier

theorem mapSpecifiersFrom_congr {d : Document}
    (h : ∀ i ∈ d.importsFrom n, i.chosen f = i.chosen g) :
    d.mapSpecifiersFrom f n = d.mapSpecifiersFrom g n := by
  induction d generalizing n with
  | nil => rfl
  | cons x d ih =>
    cases x with
    | char c => rw [Document.mapSpecifiersFrom, Document.mapSpecifiersFrom, ih h]
    | statement st =>
      have hst : (f ⟨st.kind, st.specifier, n⟩).getD st.specifier =
          (g ⟨st.kind, st.specifier, n⟩).getD st.specifier := h _ List.mem_cons_self
      rw [Document.mapSpecifiersFrom, Document.mapSpecifiersFrom, hst,
        ih fun i hi => h i (List.mem_cons_of_mem _ hi)]

/-- Only the specifiers that a mapper chooses for the imports of a text count. -/
theorem mapSpecifiers_congr (h : ∀ i ∈ imports t, i.chosen f = i.chosen g) :
    mapSpecifiers f t = mapSpecifiers g t := by
  rw [mapSpecifiers, mapSpecifiersFrom_congr h, mapSpecifiers]

namespace Document

/-- Whatever `f` puts in place of a specifier of the document can take its place. -/
def Admits (f : Import → Option Text) (n : Nat) (d : Document) : Prop :=
  ∀ i ∈ d.importsFrom n, ∀ s, f i = some s → IsSpecifier s ∧ Substitute i.specifier s

/-- Whatever `f` puts in place of a specifier of the document is an inert specifier. -/
def Settles (f : Import → Option Text) (n : Nat) (d : Document) : Prop :=
  ∀ i ∈ d.importsFrom n, ∀ s, f i = some s → s ≠ [] ∧ Inert s

theorem write_cons (x : Piece) (d : Document) : write (x :: d) = x.text ++ write d := rfl

end Document

open Document

theorem Inert.isSpecifier (h : Inert s) (hne : s ≠ []) : IsSpecifier s := ⟨hne, h.inSpecifier⟩

theorem Scanned.admits (h : Scanned b t d) (hf : d.Settles f n) : d.Admits f n := by
  intro i hi s hs
  obtain ⟨hne, hinert⟩ := hf i hi s hs
  exact ⟨hinert.isSpecifier hne, hinert.substitute (h.isSpecifier n i hi).2⟩

theorem write_mapSpecifiersFrom_statement {e : Char} {kind : ImportKind} :
    (mapSpecifiersFrom f n (.statement ⟨kind, p ++ [q], s⟩ :: .char e :: d)).write =
      p ++ q :: (Import.chosen f ⟨kind, s, n⟩ ++ e :: (d.mapSpecifiersFrom f
        (n + (Statement.mk kind (p ++ [q]) s).text.byteSize + e.utf8Size)).write) := by
  rw [mapSpecifiersFrom, mapSpecifiersFrom]
  generalize d.mapSpecifiersFrom f _ = d'
  simp [write_cons, Piece.text, Statement.text, Import.chosen]

/-- At a statement, the specifier and the rest of the text change places with the new ones. -/
theorem swap_chosen {e : Char} (hq : isQuote q) (hs : IsSpecifier i.specifier) (he : isQuote e)
    (hi : ∀ s, f i = some s → IsSpecifier s ∧ Substitute i.specifier s) (h : Respecified t u) :
    Swap q i.specifier (e :: t) (i.chosen f) (e :: u) := by
  have hclosed : ∃ e' r, e :: u = e' :: r ∧ isQuote e' := ⟨e, u, rfl, he⟩
  cases hfi : f i with
  | none =>
    rw [Import.chosen, hfi]
    exact ⟨hq, hs, hclosed, .char q ((h.char e).append i.specifier)⟩
  | some s =>
    obtain ⟨hs', hsub⟩ := hi s hfi
    rw [Import.chosen, hfi]
    exact ⟨hq, hs', hclosed, .specifier hq he hs hs' hsub h⟩

/-- A scanned text is respecified by a mapper that its document admits. -/
theorem Scanned.respecified (h : Scanned b t d) (hf : d.Admits f n) :
    Respecified t (d.mapSpecifiersFrom f n).write := by
  induction h generalizing n with
  | nil => exact .nil
  | char hnone h ih => exact .char _ (ih hf)
  | @statement p s t q e kind d hst hq hs he h ih =>
    have htail := ih fun i hi => hf i (List.mem_cons_of_mem _ hi)
    rw [write_mapSpecifiersFrom_statement]
    exact (swap_chosen hq hs he (hf ⟨kind, s, n⟩ List.mem_cons_self) htail).respecified.append p

/-- The scan of the changed text takes the same steps. -/
theorem Scanned.mapSpecifiersFrom (h : Scanned b t d) (hf : d.Admits f n) :
    Scanned b (d.mapSpecifiersFrom f n).write (d.mapSpecifiersFrom f n) := by
  induction h generalizing n with
  | nil => exact .nil
  | char hnone h ih =>
    refine .char (fun hb => ?_) (ih hf)
    exact statement?_reflects (.char _ (h.respecified hf)) (hnone hb)
  | @statement p s t q e kind d hst hq hs he h ih =>
    have hd := fun i hi => hf i (List.mem_cons_of_mem _ hi)
    have hswap := swap_chosen hq hs he (hf ⟨kind, s, n⟩ List.mem_cons_self) (h.respecified hd)
    rw [write_mapSpecifiersFrom_statement]
    exact .statement (statement?_preserves hswap hst) hq hswap.isSpecifier he (ih hd)

/-- A change leaves the text as it is only if it leaves every specifier. -/
theorem Scanned.write_mapSpecifiersFrom_eq_iff (h : Scanned b t d)
    (hf : ∀ i ∈ d.importsFrom n, IsSpecifier (i.chosen f)) :
    (d.mapSpecifiersFrom f n).write = t ↔ ∀ i ∈ d.importsFrom n, i.chosen f = i.specifier := by
  induction h generalizing n with
  | nil => simp [Document.mapSpecifiersFrom, importsFrom, write]
  | char hnone h ih =>
    rw [Document.mapSpecifiersFrom, write_cons, importsFrom, ← ih hf]
    exact List.cons_inj_right _
  | @statement p s t q e kind d hst hq hs he h ih =>
    have hchosen := hf _ List.mem_cons_self
    have htail := ih fun i hi => hf i (List.mem_cons_of_mem _ hi)
    have hcut {u : Text} : Import.chosen f ⟨kind, s, n⟩ ++ e :: u = s ++ e :: t ↔
        Import.chosen f ⟨kind, s, n⟩ = s ∧ u = t := by
      constructor
      · intro he'
        have hread := congrArg specifier? he'
        rw [specifier?_append hchosen he, specifier?_append hs he] at hread
        simpa using hread
      · rintro ⟨hsame, rfl⟩
        rw [hsame]
    rw [write_mapSpecifiersFrom_statement, List.append_cancel_left_eq, List.cons_inj_right, hcut, htail]
    simp [importsFrom]

theorem mapSpecifiers_eq_self_iff (hf : ∀ i ∈ imports t, IsSpecifier (i.chosen f)) :
    mapSpecifiers f t = t ↔ ∀ i ∈ imports t, i.chosen f = i.specifier :=
  (scanned true t).write_mapSpecifiersFrom_eq_iff hf

theorem document_of_admits (hf : (document t).Admits f 0) :
    document (mapSpecifiers f t) = (document t).mapSpecifiersFrom f 0 :=
  ((scanned true t).mapSpecifiersFrom hf).eq_scan

theorem document_mapSpecifiers (hf : (document t).Settles f 0) :
    document (mapSpecifiers f t) = (document t).mapSpecifiersFrom f 0 :=
  document_of_admits ((scanned true t).admits hf)

/-! Imports and their offsets -/

/-- By how much the specifiers of some imports grow under `f`, in bytes. -/
def growth (f : Import → Option Text) : List Import → Int
  | [] => 0
  | i :: is => (i.chosen f).byteSize - i.specifier.byteSize + growth f is

theorem length_importsFrom_mapSpecifiersFrom (d : Document) (m n : Nat) :
    ((d.mapSpecifiersFrom f n).importsFrom m).length = (d.importsFrom n).length := by
  induction d generalizing m n with
  | nil => rfl
  | cons x d ih => cases x <;> simp [Document.mapSpecifiersFrom, importsFrom, ih]

/-- The kinds and specifiers of a changed document's imports. -/
theorem map_importsFrom_mapSpecifiersFrom (d : Document) (m n : Nat) :
    ((d.mapSpecifiersFrom f n).importsFrom m).map (fun i => (i.kind, i.specifier)) =
      (d.importsFrom n).map fun i => (i.kind, i.chosen f) := by
  induction d generalizing m n with
  | nil => rfl
  | cons x d ih => cases x <;> simp [Document.mapSpecifiersFrom, importsFrom, Import.chosen, ih]

/-- The imports that are found in a changed text. -/
theorem map_imports_of_admits (hf : (document t).Admits f 0) :
    (imports (mapSpecifiers f t)).map (fun i => (i.kind, i.specifier)) =
      (imports t).map fun i => (i.kind, i.chosen f) := by
  rw [imports, document_of_admits hf, map_importsFrom_mapSpecifiersFrom, imports]

theorem map_specifier_of_admits (hf : (document t).Admits f 0) :
    (imports (mapSpecifiers f t)).map (·.specifier) = (imports t).map (·.chosen f) := by
  have hmap := congrArg (List.map Prod.snd) (map_imports_of_admits hf)
  simpa only [List.map_map, Function.comp_def] using hmap

/-- The imports of a changed document, each moved by what the imports before it have grown. -/
theorem importsFrom_mapSpecifiersFrom {k : Nat} (h : (d.importsFrom n)[k]? = some i) (m : Nat) :
    ∃ offset, ((d.mapSpecifiersFrom f n).importsFrom m)[k]? = some ⟨i.kind, i.chosen f, offset⟩ ∧
      (offset : Int) = i.offset + (m - n) + growth f ((d.importsFrom n).take k) := by
  induction d generalizing m n k with
  | nil => simp [importsFrom] at h
  | cons x d ih =>
    cases x with
    | char c =>
      obtain ⟨offset, hget, hoffset⟩ := ih h (m + c.utf8Size)
      refine ⟨offset, hget, ?_⟩
      rw [hoffset, importsFrom]
      omega
    | statement st =>
      rw [importsFrom] at h ⊢
      cases k with
      | zero =>
        obtain rfl : (⟨st.kind, st.specifier, n⟩ : Import) = i := by simpa using h
        refine ⟨m, rfl, ?_⟩
        simp only [List.take_zero, growth]
        omega
      | succ k =>
        rw [List.getElem?_cons_succ] at h
        rw [List.take_succ_cons, growth]
        obtain ⟨offset, hget, hoffset⟩ := ih h
          (m + ({ st with specifier := Import.chosen f ⟨st.kind, st.specifier, n⟩ } :
            Statement).text.byteSize)
        refine ⟨offset, hget, ?_⟩
        rw [hoffset]
        simp [Statement.text]
        omega

/-! Two changes in a row -/

/-- A mapper that looks at no more than the kind of an import and its specifier. -/
abbrev KindMapper := ImportKind → Text → Option Text

namespace KindMapper

/-- The mapper as one of imports. -/
def onImports (f : KindMapper) (i : Import) : Option Text := f i.kind i.specifier

/-- What `g` makes of what `f` has made of a specifier. It is kept where both keep it. -/
def andThen (f g : KindMapper) : KindMapper := fun kind s =>
  (g kind ((f kind s).getD s)).or (f kind s)

theorem getD_andThen (f g : KindMapper) (kind : ImportKind) (s : Text) :
    (f.andThen g kind s).getD s = (g kind ((f kind s).getD s)).getD ((f kind s).getD s) := by
  rw [andThen]
  cases g kind ((f kind s).getD s) <;> rfl

theorem mapSpecifiersFrom_andThen (f g : KindMapper) (d : Document) (k m n : Nat) :
    (d.mapSpecifiersFrom f.onImports m).mapSpecifiersFrom g.onImports n =
      d.mapSpecifiersFrom (f.andThen g).onImports k := by
  induction d generalizing k m n with
  | nil => rfl
  | cons x d ih =>
    cases x with
    | char c => simp only [Document.mapSpecifiersFrom, ih (k + c.utf8Size)]
    | statement st =>
      simp only [Document.mapSpecifiersFrom, onImports, getD_andThen,
        ih (k + st.text.byteSize)]

theorem mapSpecifiers_of_admits (f g : KindMapper) (hf : (document t).Admits f.onImports 0) :
    mapSpecifiers g.onImports (mapSpecifiers f.onImports t) =
      mapSpecifiers (f.andThen g).onImports t := by
  rw [mapSpecifiers, document_of_admits hf, mapSpecifiersFrom_andThen f g _ 0, mapSpecifiers]

theorem mapSpecifiers_andThen (f g : KindMapper) (hf : (document t).Settles f.onImports 0) :
    mapSpecifiers g.onImports (mapSpecifiers f.onImports t) =
      mapSpecifiers (f.andThen g).onImports t :=
  f.mapSpecifiers_of_admits g ((scanned true t).admits hf)

end KindMapper

/-- Rescan stability. After a change to inert specifiers the same imports are found in the same
order, with the new specifiers, each as far behind its old place as the specifiers before it have
grown. Two changes in a row, by mappers that look at kind and specifier only, are one change. -/
theorem rescan_mapSpecifiers (t : Text) :
    (∀ f : Import → Option Text, (∀ i ∈ imports t, ∀ s, f i = some s → s ≠ [] ∧ Inert s) →
      (imports (mapSpecifiers f t)).length = (imports t).length ∧
        ∀ k i, (imports t)[k]? = some i → ∃ offset : Nat,
          (imports (mapSpecifiers f t))[k]? = some ⟨i.kind, i.chosen f, offset⟩ ∧
            (offset : Int) = i.offset + growth f ((imports t).take k)) ∧
      ∀ f g : KindMapper,
        (∀ i ∈ imports t, ∀ s, f.onImports i = some s → s ≠ [] ∧ Inert s) →
          mapSpecifiers g.onImports (mapSpecifiers f.onImports t) =
            mapSpecifiers (f.andThen g).onImports t := by
  refine ⟨fun f hf => ?_, fun f g hf => f.mapSpecifiers_andThen g hf⟩
  have himports : imports (mapSpecifiers f t) =
      ((document t).mapSpecifiersFrom f 0).importsFrom 0 := by
    rw [imports, document_mapSpecifiers hf]
  rw [himports]
  refine ⟨length_importsFrom_mapSpecifiersFrom _ 0 0, fun k i hi => ?_⟩
  obtain ⟨offset, hget, hoffset⟩ := importsFrom_mapSpecifiersFrom hi 0
  exact ⟨offset, hget, by simpa [imports] using hoffset⟩

/-- A comment with a quoted word in it is no statement before the change, nor after it. -/
theorem rescan_mapSpecifiers_past_comment :
    let t := "import /* from 'x' */ a from './a'\nexport * from './b'\n".toList
    let f : KindMapper := fun kind s =>
      if kind = .value ∧ s = "./a".toList then some "./longer".toList else none
    (∀ i ∈ imports t, ∀ s, f.onImports i = some s → s ≠ [] ∧ Inert s) ∧
      (imports t)[1]? = some ⟨.reexport, "./b".toList, 35⟩ ∧
        ∃ offset : Nat, (imports (mapSpecifiers f.onImports t))[1]? =
          some ⟨.reexport, "./b".toList, offset⟩ ∧
            (offset : Int) = 35 + growth f.onImports ((imports t).take 1) := by
  intro t f
  have hinert : Inert "./longer".toList := .of_plain (by decide) (by decide) fun h =>
    absurd (Text.occursIn_iff.2 h) (by decide)
  have hf : ∀ i ∈ imports t, ∀ s, f.onImports i = some s → s ≠ [] ∧ Inert s := by
    intro i _ s hs
    simp only [f, KindMapper.onImports] at hs
    split at hs
    · obtain rfl := Option.some.inj hs
      exact ⟨by decide, hinert⟩
    · cases hs
  have hi : (imports t)[1]? = some ⟨.reexport, "./b".toList, 35⟩ := by decide +kernel
  exact ⟨hf, hi, ((rescan_mapSpecifiers t).1 f.onImports hf).2 1 _ hi⟩

end Transplant.Source
