import Mathlib.Data.List.Forall2
import Transplant.Json.Decode
import Transplant.Proofs.Json.Grammar

/-! How texts, sets of names and records stand in documents. A decoder takes a record from every value
that stands for it, whatever the order of its members, and whatever is left out or put between them. -/
namespace Transplant.Json

/-- The strings that say a text. -/
inductive IsText (t : Text) : Value → Prop
  | mk {items : List StringItem} (h : Means items t) : IsText t (.string items)

/-- The arrays that hold the names of a set, in some order and each of them once or more. -/
inductive IsNames (s : NameSet) : Value → Prop
  | mk {l : List Text} {vs : List Value} (h : List.Forall₂ IsText l vs) (hs : ∀ x, x ∈ s ↔ x ∈ l) :
      IsNames s (.array vs true)

/-- An entry of a record: its name, the values that stand for it, and whether it may be left out. -/
structure Entry where
  name : String
  values : Value → Prop
  mayMiss : Prop

/-- The members that hold the entries `names` of a record, in that order. Between them are others, with
keys that no entry has. -/
inductive Entry.Members (entries : List Entry) : List String → List Member → Prop
  | nil : Members entries [] []
  | entry {entry : Entry} {names : List String} {key : List StringItem} {v : Value}
      {ms : List Member} (hentry : entry ∈ entries) (hnew : entry.name ∉ names)
      (hkey : Means key entry.name.toList) (hv : entry.values v) (h : Members entries names ms) :
      Members entries (entry.name :: names) ((key, v) :: ms)
  | other {names : List String} {key : List StringItem} {k : Text} {v : Value} {ms : List Member}
      (hkey : Means key k) (hk : ∀ entry ∈ entries, entry.name.toList ≠ k) (hv : v.isWhole)
      (h : Members entries names ms) : Members entries names ((key, v) :: ms)

/-- The values of entries in their order, up to some that may be left out. -/
inductive Entry.Elements : List Entry → List Value → Prop
  | nil {entries : List Entry} (h : ∀ entry ∈ entries, entry.mayMiss) : Elements entries []
  | cons {entry : Entry} {entries : List Entry} {v : Value} {vs : List Value} (hv : entry.values v)
      (h : Elements entries vs) : Elements (entry :: entries) (v :: vs)

/-- The values that stand for a record. -/
inductive IsRecord (entries : List Entry) : Value → Prop
  | object {names : List String} {ms : List Member} (h : Entry.Members entries names ms)
      (hmiss : ∀ entry ∈ entries, entry.name ∉ names → entry.mayMiss) :
      IsRecord entries (.object ms true)
  | array {vs : List Value} (h : Entry.Elements entries vs) : IsRecord entries (.array vs true)

variable {s : NameSet} {t : Text} {b : Bool} {v : Value} {entry : Entry} {entries : List Entry}
  {names : List String} {ms : List Member} {vs : List Value}

namespace Decoder

theorem text_isText (h : IsText t v) : text v = .ok t := by
  obtain ⟨hmeans⟩ := h
  rw [text, hmeans.stringText?]

theorem mapM_text {l : List Text} (h : List.Forall₂ IsText l vs) : vs.mapM text = .ok l := by
  induction h with
  | nil => rfl
  | cons hv h ih =>
    rw [List.mapM_cons, text_isText hv, ih]
    rfl

theorem names_isNames (h : IsNames s v) : Decoder.names v = .ok s := by
  obtain @⟨l, vs, hl, hs⟩ := h
  have hset : NameSet.ofList l = s := NameSet.ext fun x => by rw [NameSet.mem_ofList, hs]
  rw [Decoder.names, mapM_text hl, ← hset]
  rfl

variable {α σ : Type} {r : Record σ α} {upTo : List String → σ} {a : α} {fields : List (Field σ)}

/-- That a field puts an entry into a record, of which `upTo names` is what comes of its entries
`names`. -/
structure Field.Takes (upTo : List String → σ) (f : Field σ) (entry : Entry) : Prop where
  name : f.name = entry.name
  put : ∀ names v, entry.values v → f.put (upTo names) v = .ok (upTo (entry.name :: names))

/-- That a record is put together from its entries, and `a` comes of them if only such are left out
as may be. -/
structure Record.Takes (r : Record σ α) (entries : List Entry) (upTo : List String → σ) (a : α) :
    Prop where
  start : r.start = upTo []
  fields : List.Forall₂ (Field.Takes upTo) r.fields entries
  distinct : (entries.map (·.name)).Nodup
  finish : ∀ names, (∀ entry ∈ entries, entry.name ∉ names → entry.mayMiss) →
    r.finish (upTo names) = .ok a
  early : r.mayStopEarly = false → ∀ entry ∈ entries, ¬ entry.mayMiss

theorem map_name_eq (h : List.Forall₂ (Field.Takes upTo) fields entries) :
    fields.map (·.name) = entries.map (·.name) := by
  induction h with
  | nil => rfl
  | cons hf h ih => rw [List.map_cons, List.map_cons, hf.name, ih]

/-- The field of an entry is found by its name. -/
theorem exists_find? (h : List.Forall₂ (Field.Takes upTo) fields entries)
    (hdistinct : (entries.map (·.name)).Nodup) (hentry : entry ∈ entries) :
    ∃ f, fields.find? (fun f => f.name.toList == entry.name.toList) = some f ∧
      f.Takes upTo entry := by
  induction h with
  | nil => cases hentry
  | @cons f first fields entries hf h ih =>
    rw [List.map_cons, List.nodup_cons] at hdistinct
    rcases List.mem_cons.1 hentry with rfl | hentry
    · exact ⟨f, by simp [hf.name], hf⟩
    · obtain ⟨g, hg, hgentry⟩ := ih hdistinct.2 hentry
      have hne : f.name ≠ entry.name := by
        intro he
        rw [← hf.name, he] at hdistinct
        exact hdistinct.1 (List.mem_map_of_mem hentry)
      have hskip : (f.name.toList == entry.name.toList) = false := by
        simpa [String.toList_inj] using hne
      exact ⟨g, by rw [List.find?_cons, hskip, hg], hgentry⟩

theorem Record.Takes.members (hr : r.Takes entries upTo a) (h : Entry.Members entries names ms)
    (seen : List String) (hseen : ∀ name ∈ names, name ∉ seen) :
    Decoder.members r.fields seen (upTo seen) ms = .ok (upTo (names.reverse ++ seen)) := by
  induction h generalizing seen with
  | nil => rfl
  | @entry entry names key v ms hentry hnew hkey hv h ih =>
    obtain ⟨f, hfind, hf⟩ := exists_find? hr.fields hr.distinct hentry
    have hfresh : entry.name ∉ seen := hseen _ List.mem_cons_self
    have hrest : ∀ name ∈ names, name ∉ entry.name :: seen := by
      intro name hmem hin
      rcases List.mem_cons.1 hin with rfl | hin
      · exact hnew hmem
      · exact hseen name (.tail _ hmem) hin
    rw [Decoder.members, hkey.stringText?]
    simp only [hfind, hf.name, hfresh, if_false, hf.put seen v hv]
    simpa [bind, Except.bind, pure, Except.pure] using ih _ hrest
  | @other names key k v ms hkey hk hv h ih =>
    have hnone : r.fields.find? (fun f => f.name.toList == k) = none := by
      refine List.find?_eq_none.2 fun f hf => ?_
      have hmem : f.name ∈ entries.map (·.name) := by
        rw [← map_name_eq hr.fields]
        exact List.mem_map_of_mem hf
      obtain ⟨entry, hentry, hname⟩ := List.mem_map.1 hmem
      simpa [← hname] using hk entry hentry
    rw [Decoder.members, hkey.stringText?]
    simp only [hnone, hv, ensure, if_true]
    exact ih seen hseen

theorem elements_takes (hf : List.Forall₂ (Field.Takes upTo) fields entries)
    (h : Entry.Elements entries vs) (count : Nat) (seen : List String) :
    ∃ names, Decoder.elements count (upTo seen) fields vs = .ok (count + vs.length, upTo names) ∧
      seen ⊆ names ∧ ∀ entry ∈ entries, entry.name ∉ names → entry.mayMiss := by
  induction h generalizing fields count seen with
  | nil h =>
    have hnil : Decoder.elements count (upTo seen) fields [] = .ok (count, upTo seen) := by
      cases fields <;> rfl
    exact ⟨seen, hnil, fun _ => id, fun entry hentry _ => h entry hentry⟩
  | @cons entry entries v vs hv h ih =>
    cases hf with | cons hf hfs =>
    obtain ⟨names, hnames, hsub, hmiss⟩ := ih hfs (count + 1) (entry.name :: seen)
    refine ⟨names, ?_, fun name hname => hsub (.tail _ hname), ?_⟩
    · rw [Decoder.elements, hf.put seen v hv]
      simpa [bind, Except.bind, Nat.add_assoc, Nat.add_comm 1] using hnames
    · intro other hother hout
      rcases List.mem_cons.1 hother with rfl | hother
      · exact absurd (hsub List.mem_cons_self) hout
      · exact hmiss other hother hout

/-- Where no entry may be left out, none is. -/
theorem length_elements (h : Entry.Elements entries vs) (hall : ∀ entry ∈ entries, ¬ entry.mayMiss) :
    vs.length = entries.length := by
  induction h with
  | nil h =>
    cases ‹List Entry› with
    | nil => rfl
    | cons entry entries =>
      exact absurd (h entry List.mem_cons_self) (hall entry List.mem_cons_self)
  | cons hv h ih =>
    rw [List.length_cons, List.length_cons, ih fun entry hentry => hall entry (.tail _ hentry)]

/-- A record is taken from every value that stands for it. -/
theorem Record.Takes.record (hr : r.Takes entries upTo a) (h : IsRecord entries v) :
    Decoder.record r v = .ok a := by
  cases h with
  | @object names ms h hmiss =>
    have hmembers := hr.members h [] (by simp)
    rw [← hr.start] at hmembers
    have hfinish : r.finish (upTo (names.reverse ++ [])) = .ok a := by
      refine hr.finish _ fun entry hentry hout => hmiss entry hentry ?_
      simpa using hout
    rw [Decoder.record, hmembers, ← hfinish]
    rfl
  | @array vs h =>
    obtain ⟨names, helements, -, hmiss⟩ := elements_takes hr.fields h 0 []
    have hcount : ¬ (0 + vs.length < r.fields.length ∧ !r.mayStopEarly) := by
      rintro ⟨hlt, hearly⟩
      have hlength := length_elements h (hr.early (by simpa using hearly))
      rw [hr.fields.length_eq] at hlt
      omega
    rw [← hr.start] at helements
    rw [Decoder.record, helements, ← hr.finish names hmiss]
    simp only [bind, Except.bind, ensure, if_true, hcount, if_false]

end Decoder

/-! What can be written -/

/-- That one of some values can be written. -/
def Writable (p : Value → Prop) : Prop := ∃ v t, p v ∧ Phrase.Spelled (.value v) t

theorem writable_isText (t : Text) : Writable (IsText t) := by
  obtain ⟨items, u, hmeans, hu⟩ := exists_lettering t
  exact ⟨_, _, .mk hmeans, .string hu⟩

theorem exists_elements {β : Type} {p : β → Value → Prop} {x : β} {l : List β}
    (h : ∀ y ∈ x :: l, Writable (p y)) :
    ∃ v vs t, List.Forall₂ p (x :: l) (v :: vs) ∧ Phrase.Spelled (.elements v vs) t := by
  induction l generalizing x with
  | nil =>
    obtain ⟨v, t, hv, ht⟩ := h x List.mem_cons_self
    exact ⟨v, [], t, .cons hv .nil, ht.bare.element⟩
  | cons y l ih =>
    obtain ⟨v, t, hv, ht⟩ := h x List.mem_cons_self
    obtain ⟨w, vs, u, hvs, hu⟩ := ih fun z hz => h z (.tail _ hz)
    exact ⟨v, w :: vs, _, .cons hv hvs, ht.bare.elements hu⟩

/-- An array can be written, if what it is to hold can. -/
theorem exists_array {β : Type} {p : β → Value → Prop} {l : List β} (h : ∀ x ∈ l, Writable (p x)) :
    ∃ vs t, List.Forall₂ p l vs ∧ Phrase.Spelled (.value (.array vs true)) t := by
  cases l with
  | nil => exact ⟨[], _, .nil, .emptyArray space_nil⟩
  | cons x l =>
    obtain ⟨v, vs, t, hvs, ht⟩ := exists_elements h
    exact ⟨v :: vs, _, hvs, ht.array⟩

theorem writable_isNames (s : NameSet) : Writable (IsNames s) := by
  obtain ⟨vs, t, hvs, ht⟩ := exists_array fun name (_ : name ∈ s.names) => writable_isText name
  exact ⟨_, t, .mk hvs fun x => NameSet.mem_def, ht⟩

theorem exists_member (h : Writable entry.values) : ∃ key v t,
    Means key entry.name.toList ∧ entry.values v ∧ Phrase.Spelled (.member (key, v)) t := by
  obtain ⟨v, t, hv, ht⟩ := h
  obtain ⟨key, k, hkey, hk⟩ := exists_lettering entry.name.toList
  exact ⟨key, v, _, hkey, hv, .keyed space_nil hk space_nil ht.bare⟩

theorem exists_members {chosen : List Entry} (hsub : entry :: chosen ⊆ entries)
    (hdistinct : ((entry :: chosen).map (·.name)).Nodup)
    (h : ∀ x ∈ entry :: chosen, Writable x.values) :
    ∃ m ms t, Entry.Members entries ((entry :: chosen).map (·.name)) (m :: ms) ∧
      Phrase.Spelled (.members m ms) t := by
  induction chosen generalizing entry with
  | nil =>
    obtain ⟨key, v, t, hkey, hv, ht⟩ := exists_member (h entry List.mem_cons_self)
    exact ⟨_, [], t, .entry (hsub List.mem_cons_self) nofun hkey hv .nil, ht.member⟩
  | cons next chosen ih =>
    obtain ⟨key, v, t, hkey, hv, ht⟩ := exists_member (h entry List.mem_cons_self)
    rw [List.map_cons, List.nodup_cons] at hdistinct
    obtain ⟨m, ms, u, hms, hu⟩ :=
      ih (fun x hx => hsub (.tail _ hx)) hdistinct.2 fun x hx => h x (.tail _ hx)
    exact ⟨_, m :: ms, _, .entry (hsub List.mem_cons_self) hdistinct.1 hkey hv hms, ht.members hu⟩

/-- A record can be written as an object, if its entries can. -/
theorem exists_isRecord_object (hdistinct : (entries.map (·.name)).Nodup)
    (h : ∀ x ∈ entries, Writable x.values) :
    ∃ ms t, IsRecord entries (.object ms true) ∧ Phrase.Spelled (.value (.object ms true)) t := by
  have hnone : ∀ entry ∈ entries, entry.name ∉ entries.map (·.name) → entry.mayMiss :=
    fun entry hentry hout => absurd (List.mem_map_of_mem hentry) hout
  cases entries with
  | nil => exact ⟨[], _, .object .nil nofun, .emptyObject space_nil⟩
  | cons entry rest =>
    obtain ⟨m, ms, t, hms, ht⟩ := exists_members (List.Subset.refl _) hdistinct h
    exact ⟨m :: ms, _, .object hms hnone, ht.object⟩

theorem Entry.Elements.of_forall₂ (h : List.Forall₂ Entry.values entries vs) :
    Entry.Elements entries vs := by
  induction h with
  | nil => exact .nil nofun
  | cons hv h ih => exact .cons hv ih

/-- A record can be written as an array, if its entries can. -/
theorem exists_isRecord_array (h : ∀ x ∈ entries, Writable x.values) :
    ∃ vs t, IsRecord entries (.array vs true) ∧ Phrase.Spelled (.value (.array vs true)) t := by
  obtain ⟨vs, t, hvs, ht⟩ := exists_array h
  exact ⟨vs, t, .array (.of_forall₂ hvs), ht⟩

end Transplant.Json
