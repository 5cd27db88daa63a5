import Transplant.Config.Decode
import Transplant.Proofs.Json.Record

/-! Settings that are written as a document are read back, whatever way they are written. -/
namespace Transplant

open Json

/-- The entries of a pair of aliases. -/
def Aliases.entries (a : Aliases) : List Entry :=
  [⟨"components", IsText a.components, False⟩, ⟨"lib", IsText a.lib, False⟩]

/-- The entries of settings. What is as in the standard settings may be left out. -/
def Config.entries (c : Config) : List Entry := [
  ⟨"model", IsText c.model, c.model = Config.standard.model⟩,
  ⟨"tsx", (· = .bool c.tsx), c.tsx = Config.standard.tsx⟩,
  ⟨"srcDir", (· = .bool c.srcDir), c.srcDir = Config.standard.srcDir⟩,
  ⟨"aliases", IsRecord c.aliases.entries, c.aliases = Config.standard.aliases⟩,
  ⟨"installedLib", IsNames c.installedLib, c.installedLib = Config.standard.installedLib⟩,
  ⟨"installedComponents", IsNames c.installedComponents,
    c.installedComponents = Config.standard.installedComponents⟩]

/-- That a text is a document with the value `v`, and that this stands for the settings. -/
def Config.IsWritten (c : Config) (v : Value) (t : Text) : Prop :=
  IsRecord c.entries v ∧ Phrase.Spelled (.spaced v) t

namespace Json.Decoder
variable {α σ : Type} {name : String} {d : Decoder α} {set : σ → α → σ} {p : Value → Prop} {q : Prop}
  {upTo : List String → σ} {x : α}

theorem field_takes (hd : ∀ v, p v → d v = .ok x)
    (hset : ∀ names, set (upTo names) x = upTo (name :: names)) :
    (field name d set).Takes upTo ⟨name, p, q⟩ where
  name := rfl
  put names v hv := by
    have hfield : (d v).map (set (upTo names)) = .ok (upTo (name :: names)) := by
      rw [hd v hv, ← hset]
      rfl
    exact hfield

end Json.Decoder

open Json.Decoder

/-- The aliases of which those in `names` were read. -/
def Aliases.upTo (a : Aliases) (names : List String) : Option Text × Option Text :=
  (if "components" ∈ names then some a.components else none,
    if "lib" ∈ names then some a.lib else none)

theorem Aliases.record_takes (a : Aliases) : Aliases.record.Takes a.entries a.upTo a where
  start := rfl
  fields := by
    refine .cons (field_takes (fun v => text_isText) fun names => ?_)
      (.cons (field_takes (fun v => text_isText) fun names => ?_) .nil) <;> simp [upTo]
  distinct := by simp [entries]
  finish names hmiss := by
    have hboth : "components" ∈ names ∧ "lib" ∈ names := by simpa [entries] using hmiss
    simp [upTo, hboth, Aliases.record]
  early := by simp [entries]

/-- The settings of which those in `names` were read. -/
def Config.upTo (c : Config) (names : List String) : Config where
  model := if "model" ∈ names then c.model else Config.standard.model
  tsx := if "tsx" ∈ names then c.tsx else Config.standard.tsx
  srcDir := if "srcDir" ∈ names then c.srcDir else Config.standard.srcDir
  aliases := if "aliases" ∈ names then c.aliases else Config.standard.aliases
  installedLib := if "installedLib" ∈ names then c.installedLib else Config.standard.installedLib
  installedComponents :=
    if "installedComponents" ∈ names then c.installedComponents
    else Config.standard.installedComponents

theorem Config.record_takes (c : Config) : Config.record.Takes c.entries c.upTo c where
  start := rfl
  fields := by
    have hbool (b : Bool) (v : Value) (hv : v = .bool b) : bool v = .ok b := by
      rw [hv]
      rfl
    refine .cons (field_takes (fun v => text_isText) fun names => ?_)
      (.cons (field_takes (hbool c.tsx) fun names => ?_)
      (.cons (field_takes (hbool c.srcDir) fun names => ?_)
      (.cons (field_takes (fun v => c.aliases.record_takes.record) fun names => ?_)
      (.cons (field_takes (fun v => names_isNames) fun names => ?_)
      (.cons (field_takes (fun v => names_isNames) fun names => ?_) .nil))))) <;> simp [upTo]
  distinct := by simp [entries]
  finish names hmiss := by
    simp only [entries, List.forall_mem_cons, List.not_mem_nil, false_imp_iff, implies_true,
      and_true] at hmiss
    obtain ⟨hmodel, htsx, hsrcDir, haliases, hlib, hcomponents⟩ := hmiss
    have hkeep {β : Type} {x y : β} {name : String} (h : name ∉ names → x = y) :
        (if name ∈ names then x else y) = x :=
      ite_eq_left_iff.2 fun hout => (h hout).symm
    have hwhole : c.upTo names = c := by
      rw [upTo, hkeep hmodel, hkeep htsx, hkeep hsrcDir, hkeep haliases, hkeep hlib,
        hkeep hcomponents]
    exact congrArg Except.ok hwhole
  early := nofun

theorem Config.writable_entries (c : Config) : ∀ entry ∈ c.entries, Writable entry.values := by
  have hbool (b : Bool) : Writable (· = .bool b) := ⟨.bool b, _, rfl, .bool b⟩
  have haliases : Writable (IsRecord c.aliases.entries) := by
    have hentries : ∀ entry ∈ c.aliases.entries, Writable entry.values := by
      simp [Aliases.entries, writable_isText]
    obtain ⟨ms, t, hms, ht⟩ := exists_isRecord_object c.aliases.record_takes.distinct hentries
    exact ⟨_, t, hms, ht⟩
  simp [entries, writable_isText, writable_isNames, hbool, haliases]

/-- Settings with usable aliases come back from every document that they are written as, and they
can be written as an object and as an array. -/
theorem Config.ofJson_isWritten {c : Config} (hc : c.validate = .ok c) :
    (∀ v t, c.IsWritten v t → Config.ofJson t = .ok c) ∧
      (∃ ms t, c.IsWritten (.object ms true) t) ∧ ∃ vs t, c.IsWritten (.array vs true) t := by
  refine ⟨fun v t ⟨hv, ht⟩ => ?_, ?_, ?_⟩
  · have hdocument : document (Json.Decoder.record Config.record) t = .ok c := by
      rw [document, Document.ofText_spelled ht, c.record_takes.record hv]
      rfl
    rw [ofJson, hdocument]
    exact congrArg (Except.mapError ConfigError.alias) hc
  · obtain ⟨ms, t, hms, ht⟩ := exists_isRecord_object c.record_takes.distinct c.writable_entries
    exact ⟨ms, t, hms, ht.bare⟩
  · obtain ⟨vs, t, hvs, ht⟩ := exists_isRecord_array c.writable_entries
    exact ⟨vs, t, hvs, ht.bare⟩

namespace Config

/-! Settings written out of order, with escapes, a name given twice and a member that is none of
theirs -/

/-- Settings of which some are as in the standard settings. -/
def unordered : Config :=
  ⟨['é', '😀'], false, false, ⟨['~'], ['l']⟩, .ofList [['a'], ['b']], ∅⟩

/-- The members of the document. -/
def unorderedMembers : List Member := [
  (['n'].map .char, .array [.number ⟨true, ['1'], some ['5'], some (false, ['2'])⟩,
    .string [.unit 0xD800]] true),
  ("tsx".toList.map .char, .bool false),
  ("aliases".toList.map .char, .object [
    ("lib".toList.map .char, .string (['l'].map .char)),
    ("components".toList.map .char, .string (['~'].map .char))] true),
  ("installedLib".toList.map .char, .array [
    .string (['b'].map .char), .string (['a'].map .char), .string (['b'].map .char)] true),
  ("model".toList.map .char, .string [.char 'é', .unit 0xD83D, .unit 0xDE00])]

/-- The text of the document. -/
def unorderedText : Text :=
  ("\x7b\"n\":[-1.5E+2,\"\\ud800\"], \"tsx\":false,\"aliases\":\x7b\"lib\":\"l\"," ++
    "\"components\":\"~\"\x7d,\"installedLib\":[\"b\",\"a\",\"b\"]," ++
      "\"model\":\"é\\uD83D\\ude00\"\x7d").toList

theorem members_unordered : Entry.Members unordered.entries
    ["tsx", "aliases", "installedLib", "model"] unorderedMembers := by
  have haliases : IsRecord unordered.aliases.entries _ :=
    .object (.entry (.tail _ (.head _)) (by decide) (.of_chars _) (.mk (.of_chars _))
      (.entry (.head _) (by decide) (.of_chars _) (.mk (.of_chars _)) .nil))
      (by simp [Aliases.entries])
  have hnames : IsNames unordered.installedLib _ :=
    .mk (.cons (.mk (.of_chars ['b'])) (.cons (.mk (.of_chars ['a']))
      (.cons (.mk (.of_chars ['b'])) .nil))) (by simp [unordered])
  have hmodel : Means [.char 'é', .unit 0xD83D, .unit 0xDE00] unordered.model :=
    .char (@Means.pair '😀' [] [] (by decide) .nil)
  exact .other (.of_chars _) (by simp [entries]) rfl
    (.entry (.tail _ (.head _)) (by decide) (.of_chars _) rfl
    (.entry (.tail _ (.tail _ (.tail _ (.head _)))) (by decide) (.of_chars _) haliases
    (.entry (.tail _ (.tail _ (.tail _ (.tail _ (.head _))))) (by decide) (.of_chars _) hnames
    (.entry (.head _) (by decide) (.of_chars _) (.mk hmodel) .nil))))

theorem mayMiss_unordered : ∀ entry ∈ unordered.entries,
    entry.name ∉ ["tsx", "aliases", "installedLib", "model"] → entry.mayMiss := by
  simp only [entries, List.forall_mem_cons]
  exact ⟨fun h => absurd (by simp) h, fun h => absurd (by simp) h, fun _ => rfl,
    fun h => absurd (by simp) h, fun h => absurd (by simp) h, fun _ => rfl, nofun⟩

theorem spelled_unordered : Phrase.Spelled (.spaced (.object unorderedMembers true))
    unorderedText := by
  have hkeyed (key : Text) {u : Text} {v : Value} (h : ∀ c ∈ key, isPlain c)
      (hv : Phrase.Spelled (.value v) u) :
      Phrase.Spelled (.member (key.map .char, v)) ('"' :: (key ++ '"' :: ':' :: u)) :=
    .keyed space_nil (.of_isPlain h) space_nil hv.bare
  have hstring {t : Text} (h : ∀ c ∈ t, isPlain c) :
      Phrase.Spelled (.value (.string (t.map .char))) ('"' :: (t ++ ['"'])) :=
    .string (.of_isPlain h)
  have hdigits {c : Char} (h : c.isDigit) : Digits [c] := ⟨nofun, by simpa using h⟩
  have hnumber : Numeral.Spelled ⟨true, ['1'], some ['5'], some (false, ['2'])⟩
      (['-'] ++ (['1'] ++ (['.', '5'] ++ ['E', '+', '2']))) :=
    .mk (hdigits rfl) nofun (.digits (hdigits rfl)) (.positive (.inr rfl) (hdigits rfl))
  have hsurrogate : StringItem.Spelled (.unit 0xD800) ['\\', 'u', 'd', '8', '0', '0'] :=
    @StringItem.Spelled.unit 13 8 0 0 'd' '8' '0' '0' (.inl rfl) (.inl rfl) (.inl rfl) (.inl rfl)
  have hhigh : StringItem.Spelled (.unit 0xD83D) ['\\', 'u', 'D', '8', '3', 'D'] :=
    @StringItem.Spelled.unit 13 8 3 13 'D' '8' '3' 'D' (.inr rfl) (.inl rfl) (.inl rfl) (.inr rfl)
  have hlow : StringItem.Spelled (.unit 0xDE00) ['\\', 'u', 'd', 'e', '0', '0'] :=
    @StringItem.Spelled.unit 13 14 0 0 'd' 'e' '0' '0' (.inl rfl) (.inl rfl) (.inl rfl) (.inl rfl)
  have hn := ((Phrase.Spelled.number hnumber).bare.elements
    (Phrase.Spelled.string (.cons hsurrogate .nil)).bare.element).array
  have htsx : Phrase.Spelled (.member ("tsx".toList.map .char, .bool false)) _ :=
    @Phrase.Spelled.keyed _ _ "tsx".toList _ [' '] [] (by simp [Space]) (.of_isPlain (by decide))
      space_nil (Phrase.Spelled.bool false).bare
  have haliases := ((hkeyed "lib".toList (by decide) (hstring (t := ['l']) (by decide))).members
    (hkeyed "components".toList (by decide) (hstring (t := ['~']) (by decide))).member).object
  have hlib := ((hstring (t := ['b']) (by decide)).bare.elements
    ((hstring (t := ['a']) (by decide)).bare.elements
      (hstring (t := ['b']) (by decide)).bare.element)).array
  have hmodel : Phrase.Spelled (.value (.string [.char 'é', .unit 0xD83D, .unit 0xDE00])) _ :=
    .string (.cons (.plain rfl) (.cons hhigh (.cons hlow .nil)))
  have hmembers := (hkeyed ['n'] (by decide) hn).members (htsx.members
    ((hkeyed "aliases".toList (by decide) haliases).members
    ((hkeyed "installedLib".toList (by decide) hlib).members
    (hkeyed "model".toList (by decide) hmodel).member)))
  have hcast {v : Value} {u : Text} (h : Phrase.Spelled (.spaced v) u) (hu : u = unorderedText) :
      Phrase.Spelled (.spaced v) unorderedText := hu ▸ h
  exact hcast hmembers.object.bare (by decide +kernel)

theorem ofJson_isWritten_unordered :
    unordered.validate = .ok unordered ∧
      unordered.IsWritten (.object unorderedMembers true) unorderedText ∧
        Config.ofJson unorderedText = .ok unordered := by
  have hvalid : unordered.validate = .ok unordered := rfl
  have hwritten : unordered.IsWritten (.object unorderedMembers true) unorderedText :=
    ⟨.object members_unordered mayMiss_unordered, spelled_unordered⟩
  exact ⟨hvalid, hwritten, (Config.ofJson_isWritten hvalid).1 _ _ hwritten⟩

end Config

end Transplant
