import Transplant.Path

/-! Resolving in two steps: a specifier climbs some levels and then goes down along names, whatever
directory it is read from. The specifier that is written for a position leads back to it. -/
namespace Transplant

variable {p q : Position} {s part : Text} {dir names l as bs : List Text} {k n : Nat}

/-- The name of a file or directory, as a specifier can hold it between its slashes. -/
structure IsName (s : Text) : Prop where
  ne_nil : s ≠ []
  ne_dot : s ≠ ['.']
  ne_dots : s ≠ ['.', '.']
  no_slash : '/' ∉ s

instance (s : Text) : Decidable (IsName s) :=
  decidable_of_iff (s ≠ [] ∧ s ≠ ['.'] ∧ s ≠ ['.', '.'] ∧ '/' ∉ s)
    ⟨fun ⟨hnil, hdot, hdots, hslash⟩ => ⟨hnil, hdot, hdots, hslash⟩,
      fun h => ⟨h.ne_nil, h.ne_dot, h.ne_dots, h.no_slash⟩⟩

namespace Position

/-- The position `k` levels up. -/
def climb (p : Position) (k : Nat) : Position :=
  if k ≤ p.segments.length then ⟨p.ups, p.segments.take (p.segments.length - k)⟩
  else ⟨p.ups + (k - p.segments.length), []⟩

/-- The position that `q` is when it is seen from `p` instead of the root. -/
def goTo (p q : Position) : Position :=
  ⟨(p.climb q.ups).ups, (p.climb q.ups).segments ++ q.segments⟩

theorem climb_zero (p : Position) : p.climb 0 = p := by
  simp [climb]

theorem climb_of_le (h : k ≤ l.length) : climb ⟨n, l⟩ k = ⟨n, l.take (l.length - k)⟩ := by
  simp [climb, h]

theorem climb_of_lt (h : l.length < k) : climb ⟨n, l⟩ k = ⟨n + (k - l.length), []⟩ := by
  simp [climb, Nat.not_le.2 h]

theorem climb_append (h : as.length = k) : climb ⟨n, l ++ as⟩ k = ⟨n, l⟩ := by
  rw [climb_of_le (by simp [h])]
  simp [h]

theorem parent_climb (p : Position) (k : Nat) : (p.climb k).parent = p.climb (k + 1) := by
  obtain ⟨n, l⟩ := p
  by_cases h : k < l.length
  · have hne : l.take (l.length - k) ≠ [] := by
      intro he
      have := congrArg List.length he
      simp at this
      omega
    rw [climb_of_le (Nat.le_of_lt h), climb_of_le h, parent, if_neg hne]
    simp only [mk.injEq, true_and, List.dropLast_eq_take, List.take_take, List.length_take]
    congr 1
    omega
  · by_cases he : k = l.length
    · subst k
      rw [climb_of_le (Nat.le_refl _), climb_of_lt (Nat.lt_succ_self _)]
      simp [parent]
    · rw [climb_of_lt (by omega), climb_of_lt (by omega)]
      simp [parent]
      omega

theorem goTo_root (p : Position) : p.goTo ⟨0, []⟩ = p := by
  simp [goTo, climb_zero]

theorem parent_goTo (p q : Position) : (p.goTo q).parent = p.goTo q.parent := by
  obtain ⟨n, l⟩ := q
  rcases List.eq_nil_or_concat l with rfl | ⟨l, s, rfl⟩
  · rw [parent_nil]
    simp only [goTo, List.append_nil]
    exact parent_climb p n
  · simp only [goTo, List.concat_eq_append, parent_concat, ← List.append_assoc]

theorem enter_goTo (p q : Position) (part : Text) :
    (p.goTo q).enter part = p.goTo (q.enter part) := by
  by_cases hstay : part = [] ∨ part = ['.']
  · simp [enter, hstay]
  · by_cases hup : part = ['.', '.']
    · subst part
      simpa [enter_up] using parent_goTo p q
    · obtain ⟨hnil, hdot⟩ := not_or.1 hstay
      simp [enter_name hnil hdot hup, goTo]

theorem foldl_enter_goTo (p q : Position) (parts : List Text) :
    parts.foldl enter (p.goTo q) = p.goTo (parts.foldl enter q) := by
  induction parts generalizing q with
  | nil => rfl
  | cons part parts ih => simp only [List.foldl_cons, enter_goTo, ih]

/-- What is seen from a position above the root is seen from the same segments below the root, as
many levels further up. -/
theorem goTo_eq_below_root (p q : Position) :
    p.goTo q = ⟨p.ups + (goTo ⟨0, p.segments⟩ q).ups, (goTo ⟨0, p.segments⟩ q).segments⟩ := by
  obtain ⟨n, l⟩ := p
  by_cases h : q.ups ≤ l.length
  · simp only [goTo, climb_of_le h, Nat.add_zero]
  · have hlt : l.length < q.ups := by omega
    simp only [goTo, climb_of_lt hlt, Nat.zero_add]

theorem foldl_enter_names (h : ∀ s ∈ names, IsName s) (p : Position) :
    names.foldl enter p = ⟨p.ups, p.segments ++ names⟩ := by
  induction names generalizing p with
  | nil => simp
  | cons s names ih =>
    have hs := h s List.mem_cons_self
    rw [List.foldl_cons, enter_name hs.ne_nil hs.ne_dot hs.ne_dots,
      ih fun t ht => h t (.tail s ht)]
    simp

theorem foldl_enter_ups (p : Position) (k : Nat) :
    (List.replicate k ['.', '.']).foldl enter p = p.climb k := by
  induction k with
  | zero => simp [climb_zero]
  | succ k ih =>
    rw [List.replicate_succ', List.foldl_append, ih]
    simp [enter_up, parent_climb]

end Position

namespace Path
open Position

/-- A specifier takes the same way from every directory. -/
theorem resolve_eq_goTo (dir : List Text) (s : Text) :
    resolve dir s = goTo ⟨0, dir⟩ (resolve [] s) := by
  rw [resolve, resolve, ← foldl_enter_goTo, goTo_root]

/-- A specifier that goes on behind a slash goes on from where the part in front of it leads. The
levels that both parts climb above the root add up. -/
theorem resolve_append_slash (dir : List Text) (a b : Text) :
    let t := resolve dir a
    let r := resolve t.segments b
    resolve dir (a ++ '/' :: b) = ⟨t.ups + r.ups, r.segments⟩ := by
  intro t r
  have hr : goTo ⟨0, t.segments⟩ (resolve [] b) = r := (resolve_eq_goTo t.segments b).symm
  calc resolve dir (a ++ '/' :: b)
    _ = (b.split '/').foldl enter (t.goTo ⟨0, []⟩) := by rw [goTo_root, resolve_append]
    _ = t.goTo (resolve [] b) := foldl_enter_goTo t ⟨0, []⟩ (b.split '/')
    _ = ⟨t.ups + r.ups, r.segments⟩ := by rw [goTo_eq_below_root, hr]

/-- The parts that a specifier climbs by. -/
def dots (k : Nat) : List Text := if k = 0 then [['.']] else List.replicate k ['.', '.']

theorem specifierOf_eq (k : Nat) (names : List Text) :
    specifierOf k names = Text.join '/' (dots k ++ names) := rfl

theorem dots_ne_nil (k : Nat) : dots k ≠ [] := by
  rw [dots]
  split <;> simp_all

theorem mem_dots {a : Text} (h : a ∈ dots k) : a = ['.'] ∨ a = ['.', '.'] := by
  rw [dots] at h
  split at h
  · exact .inl (List.mem_singleton.1 h)
  · exact .inr (List.eq_of_mem_replicate h)

theorem split_specifierOf (h : ∀ s ∈ names, IsName s) (k : Nat) :
    (specifierOf k names).split '/' = dots k ++ names := by
  rw [specifierOf_eq]
  apply Text.split_join (by simp [dots_ne_nil])
  intro a ha
  rcases List.mem_append.1 ha with hdots | ha
  · rcases mem_dots hdots with rfl | rfl <;> decide
  · exact (h a ha).no_slash

theorem resolve_specifierOf (h : ∀ s ∈ names, IsName s) (dir : List Text) (k : Nat) :
    resolve dir (specifierOf k names) = goTo ⟨0, dir⟩ ⟨k, names⟩ := by
  rw [resolve, split_specifierOf h, List.foldl_append, foldl_enter_names h, dots]
  split
  · simp_all [goTo, climb_zero, enter]
  · rw [foldl_enter_ups, goTo]

/-- A position is written by levels to climb and by what its segments end in. -/
theorem exists_relativeSpecifier (dir : List Text) (p : Position) :
    ∃ k names, relativeSpecifier dir p = specifierOf k names ∧ names <:+ p.segments := by
  rw [relativeSpecifier]
  split
  · exact ⟨_, _, rfl, List.suffix_refl _⟩
  · obtain ⟨c, -, hp⟩ := exists_dropCommon dir p.segments
    exact ⟨_, _, rfl, ⟨c, hp.symm⟩⟩

theorem resolve_relativeSpecifier (dir : List Text) (h : ∀ s ∈ p.segments, IsName s) :
    resolve dir (relativeSpecifier dir p) = p := by
  obtain ⟨n, l⟩ := p
  rw [relativeSpecifier]
  split
  · rename_i hn
    rw [resolve_specifierOf h, goTo, climb_of_lt (by simpa using hn)]
    simp
  · rename_i hn
    obtain rfl : n = 0 := by simpa using hn
    obtain ⟨c, hdir, hl⟩ := exists_dropCommon dir l
    have hdown : ∀ s ∈ (dropCommon dir l).2, IsName s := fun s hs => h s (by
      rw [hl]
      exact List.mem_append_right c hs)
    simp only [resolve_specifierOf hdown, goTo]
    have hclimb : climb ⟨0, dir⟩ (dropCommon dir l).1.length = ⟨0, c⟩ := by
      conv => lhs; rw [hdir]
      exact climb_append (by rw [← hdir])
    rw [hclimb, ← hl]

/-! Names -/

theorem climb_segments_subset (p : Position) (k : Nat) : (p.climb k).segments ⊆ p.segments := by
  rw [climb]
  split
  · exact List.take_subset _ _
  · exact List.nil_subset _

theorem mem_segments_enter {a : Text} (h : a ∈ (p.enter part).segments) :
    a ∈ p.segments ∨ a = part ∧ part ≠ [] ∧ part ≠ ['.'] ∧ part ≠ ['.', '.'] := by
  by_cases hstay : part = [] ∨ part = ['.']
  · exact .inl (by simpa [enter, hstay] using h)
  · by_cases hup : part = ['.', '.']
    · subst part
      rw [enter_up, ← climb_zero p, parent_climb] at h
      exact .inl (climb_segments_subset p _ h)
    · obtain ⟨hnil, hdot⟩ := not_or.1 hstay
      rw [enter_name hnil hdot hup] at h
      simpa [hnil, hdot, hup] using h

/-- A resolved position is made of the directories it starts from and of names in the specifier. -/
theorem mem_segments_resolve {a specifier : Text} (h : a ∈ (resolve dir specifier).segments) :
    a ∈ dir ∨ a ∈ specifier.split '/' ∧ IsName a := by
  have key (parts : List Text) (hparts : ∀ part ∈ parts, '/' ∉ part) (p : Position)
      (ha : a ∈ (parts.foldl enter p).segments) : a ∈ p.segments ∨ a ∈ parts ∧ IsName a := by
    induction parts generalizing p with
    | nil => exact .inl ha
    | cons part parts ih =>
      rcases ih (fun b hb => hparts b (.tail part hb)) _ ha with ha | ⟨ha, hname⟩
      · rcases mem_segments_enter ha with ha | ⟨rfl, hnil, hdot, hup⟩
        · exact .inl ha
        · exact .inr ⟨List.mem_cons_self, hnil, hdot, hup, hparts a List.mem_cons_self⟩
      · exact .inr ⟨.tail part ha, hname⟩
  exact key _ (fun part hpart => Text.not_mem_of_mem_split hpart) _ h

theorem isName_of_mem_resolve (h : ∀ s ∈ dir, IsName s) (specifier : Text) :
    ∀ s ∈ (resolve dir specifier).segments, IsName s := by
  intro s hs
  rcases mem_segments_resolve hs with hs | ⟨-, hname⟩
  · exact h s hs
  · exact hname

theorem isName_of_mem_split {path : Text} (h : s ∈ split path) (hdots : s ≠ ['.', '.']) : IsName s := by
  obtain ⟨hpart, hkept⟩ := List.mem_filter.1 h
  obtain ⟨hnil, hdot⟩ : s ≠ [] ∧ s ≠ ['.'] := by simpa using hkept
  exact ⟨hnil, hdot, hdots, Text.not_mem_of_mem_split hpart⟩

end Path

end Transplant
