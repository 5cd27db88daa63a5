import Transplant.Path

/-! The last place of a run in a list of segments, where the places of a run may overlap. It is found
segment by segment, and just as well by trying one index after the other from the end. -/
namespace Transplant.Path

variable {dirs run : List Text} {i j n : Nat} {s : Text}

/-- A run occurs where it stands in one piece, with anything or nothing on its two sides. -/
def OccursAt (run dirs : List Text) (i : Nat) : Prop :=
  ∃ before after, dirs = before ++ run ++ after ∧ before.length = i

/-- A place that no later one follows. -/
def LastAt (run dirs : List Text) (i : Nat) : Prop :=
  OccursAt run dirs i ∧ ∀ j, i < j → ¬ OccursAt run dirs j

theorem occursAt_zero_iff : OccursAt run dirs 0 ↔ run <+: dirs := by
  constructor
  · rintro ⟨before, after, rfl, hlen⟩
    obtain rfl := List.length_eq_zero_iff.1 hlen
    exact List.prefix_append run after
  · rintro ⟨after, rfl⟩
    exact ⟨[], after, rfl, rfl⟩

theorem occursAt_succ_iff : OccursAt run (s :: dirs) (i + 1) ↔ OccursAt run dirs i := by
  constructor
  · rintro ⟨before, after, h, hlen⟩
    cases before with
    | nil => cases hlen
    | cons b before => exact ⟨before, after, (List.cons.inj h).2, Nat.succ.inj hlen⟩
  · rintro ⟨before, after, rfl, rfl⟩
    exact ⟨s :: before, after, rfl, rfl⟩

theorem OccursAt.length_le (h : OccursAt run dirs i) : i + run.length ≤ dirs.length := by
  obtain ⟨before, after, rfl, rfl⟩ := h
  simp only [List.length_append]
  omega

theorem LastAt.eq (h : LastAt run dirs i) (h' : LastAt run dirs j) : i = j := by
  rcases Nat.lt_trichotomy i j with hij | rfl | hji
  · exact absurd h'.1 (h.2 j hij)
  · rfl
  · exact absurd h.1 (h'.2 i hji)

/-! The place that is found -/

theorem lastRun?_nil (dirs : List Text) : lastRun? [] dirs = none := by
  induction dirs with
  | nil => rfl
  | cons s dirs ih => simp [lastRun?, ih]

theorem not_occursAt_of_lastRun?_eq_none (hne : run ≠ []) (h : lastRun? run dirs = none) (i : Nat) :
    ¬ OccursAt run dirs i := by
  induction dirs generalizing i with
  | nil =>
    rintro ⟨before, after, hnil, -⟩
    have hparts : before = [] ∧ run = [] ∧ after = [] := by simpa using hnil
    exact hne hparts.2.1
  | cons s dirs ih =>
    rw [lastRun?] at h
    cases hlast : lastRun? run dirs with
    | some k => simp [hlast] at h
    | none =>
      cases i with
      | zero =>
        rw [occursAt_zero_iff]
        simpa [hlast, hne] using h
      | succ i =>
        rw [occursAt_succ_iff]
        exact ih hlast i

theorem lastAt_of_lastRun? (h : lastRun? run dirs = some i) : run ≠ [] ∧ LastAt run dirs i := by
  induction dirs generalizing i with
  | nil => cases h
  | cons s dirs ih =>
    rw [lastRun?] at h
    cases hlast : lastRun? run dirs with
    | some k =>
      obtain rfl : k + 1 = i := by simpa [hlast] using h
      obtain ⟨hne, hocc, hlater⟩ := ih hlast
      refine ⟨hne, occursAt_succ_iff.2 hocc, fun j hj => ?_⟩
      obtain ⟨j, rfl⟩ := Nat.exists_eq_succ_of_ne_zero (Nat.ne_zero_of_lt hj)
      rw [occursAt_succ_iff]
      exact hlater j (Nat.lt_of_succ_lt_succ hj)
    | none =>
      obtain ⟨⟨hne, hbegins⟩, rfl⟩ : (run ≠ [] ∧ run <+: s :: dirs) ∧ 0 = i := by
        simpa [hlast] using h
      refine ⟨hne, occursAt_zero_iff.2 hbegins, fun j hj => ?_⟩
      obtain ⟨j, rfl⟩ := Nat.exists_eq_succ_of_ne_zero (Nat.ne_zero_of_lt hj)
      rw [occursAt_succ_iff]
      exact not_occursAt_of_lastRun?_eq_none hne hlast j

theorem lastRun?_eq_none_iff : lastRun? run dirs = none ↔ run = [] ∨ ∀ i, ¬ OccursAt run dirs i := by
  constructor
  · intro h
    by_cases hne : run = []
    · exact .inl hne
    · exact .inr (not_occursAt_of_lastRun?_eq_none hne h)
  · rintro (rfl | hnone)
    · exact lastRun?_nil dirs
    · rw [Option.eq_none_iff_forall_ne_some]
      exact fun i hi => hnone i (lastAt_of_lastRun? hi).2.1

theorem lastRun?_eq_some_iff : lastRun? run dirs = some i ↔ run ≠ [] ∧ LastAt run dirs i := by
  refine ⟨lastAt_of_lastRun?, fun ⟨hne, hlast⟩ => ?_⟩
  cases h : lastRun? run dirs with
  | none => exact absurd hlast.1 (not_occursAt_of_lastRun?_eq_none hne h i)
  | some k => rw [(lastAt_of_lastRun? h).2.eq hlast]

/-- A run that occurs has a last place where it does. -/
theorem exists_lastRun? (hne : run ≠ []) (h : run <:+: dirs) : ∃ i, lastRun? run dirs = some i := by
  obtain ⟨before, after, h⟩ := h
  refine Option.ne_none_iff_exists'.1 fun hnone => ?_
  exact not_occursAt_of_lastRun?_eq_none hne hnone before.length ⟨before, after, h.symm, rfl⟩

/-- What is put in front does not change which place is the last, not even if the run occurs in it or
across the seam. -/
theorem lastRun?_append (h : lastRun? run dirs = some i) (front : List Text) :
    lastRun? run (front ++ dirs) = some (front.length + i) := by
  induction front with
  | nil => simpa using h
  | cons s front ih =>
    simp only [List.cons_append, lastRun?, ih, List.length_cons]
    congr 1
    omega

/-! The search by index -/

/-- The `n` segments from an index on. They cannot be taken if they reach past the end. -/
def slice? (dirs : List Text) (i n : Nat) : Option (List Text) :=
  if i + n ≤ dirs.length then some ((dirs.drop i).take n) else none

/-- Goes through the indices below `n` from the last to the first, until a run stands there. The search
itself breaks off if it comes to a slice that cannot be taken. -/
def searchBelow? (run dirs : List Text) : Nat → Option (Option Nat)
  | 0 => some none
  | i + 1 =>
    match slice? dirs i run.length with
    | none => none
    | some part => if part = run then some (some i) else searchBelow? run dirs i

/-- Goes through all the indices that leave room for a run, and there are none for one that is longer
than the list. -/
def search? (run dirs : List Text) : Option (Option Nat) :=
  if run = [] ∨ dirs.length < run.length then some none
  else searchBelow? run dirs (dirs.length - run.length + 1)

theorem slice?_of_le (h : i + n ≤ dirs.length) : slice? dirs i n = some ((dirs.drop i).take n) :=
  if_pos h

theorem take_drop_eq_iff (h : i + run.length ≤ dirs.length) :
    (dirs.drop i).take run.length = run ↔ OccursAt run dirs i := by
  constructor
  · intro hrun
    refine ⟨dirs.take i, (dirs.drop i).drop run.length, ?_, by simp; omega⟩
    calc dirs
      _ = dirs.take i ++ dirs.drop i := (List.take_append_drop i dirs).symm
      _ = dirs.take i ++ ((dirs.drop i).take run.length ++ (dirs.drop i).drop run.length) := by
        rw [List.take_append_drop run.length]
      _ = dirs.take i ++ run ++ (dirs.drop i).drop run.length := by rw [hrun, List.append_assoc]
  · rintro ⟨before, after, rfl, rfl⟩
    simp

/-- No slice that is taken on the way down is out of range. What carries the induction is that the run
does not occur where the search has been. -/
theorem searchBelow?_eq_lastRun? (hne : run ≠ []) (hroom : ∀ i < n, i + run.length ≤ dirs.length)
    (hlater : ∀ j, n ≤ j → ¬ OccursAt run dirs j) :
    searchBelow? run dirs n = some (lastRun? run dirs) := by
  induction n with
  | zero =>
    rw [searchBelow?, lastRun?_eq_none_iff.2 (.inr fun j => hlater j (Nat.zero_le j))]
  | succ i ih =>
    have hi : i + run.length ≤ dirs.length := hroom i (Nat.lt_succ_self i)
    simp only [searchBelow?, slice?_of_le hi]
    split
    · rename_i hrun
      have hocc : OccursAt run dirs i := (take_drop_eq_iff hi).1 hrun
      rw [lastRun?_eq_some_iff.2 ⟨hne, hocc, hlater⟩]
    · rename_i hrun
      refine ih (fun k hk => hroom k (Nat.lt_succ_of_lt hk)) fun j hj => ?_
      rcases Nat.eq_or_lt_of_le hj with rfl | hj
      · exact fun hocc => hrun ((take_drop_eq_iff hi).2 hocc)
      · exact hlater j hj

theorem search?_eq_lastRun? (run dirs : List Text) : search? run dirs = some (lastRun? run dirs) := by
  have hbeyond : ∀ j, dirs.length < j + run.length → ¬ OccursAt run dirs j :=
    fun j hj hocc => absurd hocc.length_le (Nat.not_le.2 hj)
  rw [search?]
  split
  · rename_i h
    rw [lastRun?_eq_none_iff.2 (h.imp_right fun hlen j => hbeyond j (by omega))]
  · rename_i h
    obtain ⟨hne, hlen⟩ := not_or.1 h
    exact searchBelow?_eq_lastRun? hne (by omega) fun j hj => hbeyond j (by omega)

/-- The place that is found for a run is the last one at which it occurs, and none is found just for the
empty run and for one that does not occur. A search that takes a slice at each index, from the last
that leaves room, finds the same place and never takes a slice that is out of range. What is put in
front of the list moves the place along. -/
theorem lastRun?_isLast (run dirs : List Text) :
    (∀ i, lastRun? run dirs = some i ↔
        run ≠ [] ∧ OccursAt run dirs i ∧ ∀ j, i < j → ¬ OccursAt run dirs j) ∧
      (lastRun? run dirs = none ↔ run = [] ∨ ∀ i, ¬ OccursAt run dirs i) ∧
      search? run dirs = some (lastRun? run dirs) ∧
      ∀ front i, lastRun? run dirs = some i → lastRun? run (front ++ dirs) = some (i + front.length) := by
  refine ⟨fun _ => lastRun?_eq_some_iff, lastRun?_eq_none_iff, search?_eq_lastRun? run dirs, ?_⟩
  intro front i h
  rw [lastRun?_append h front, Nat.add_comm]

/-- The last of two places that overlap, at the very end of the list and behind one more of them. -/
theorem lastRun?_isLast_overlapping :
    let run := ["ui".toList, "src".toList, "ui".toList]
    let dirs := ["ui".toList, "src".toList, "ui".toList, "src".toList, "ui".toList]
    let front := ["ui".toList, "src".toList]
    lastRun? run dirs = some 2 ∧ OccursAt run dirs 2 ∧ (∀ j, 2 < j → ¬ OccursAt run dirs j) ∧
      search? run dirs = some (some 2) ∧ lastRun? run (front ++ dirs) = some 4 := by
  intro run dirs front
  have hlast : lastRun? run dirs = some 2 := by decide
  obtain ⟨hsome, -, hsearch, hfront⟩ := lastRun?_isLast run dirs
  obtain ⟨-, hocc, hlater⟩ := (hsome 2).1 hlast
  exact ⟨hlast, hocc, hlater, hlast ▸ hsearch, hfront front 2 hlast⟩

end Transplant.Path
