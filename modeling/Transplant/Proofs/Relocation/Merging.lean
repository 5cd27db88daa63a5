import Transplant.Proofs.Relocation.SameFile

/-! Files that a move makes one. What lies below the directory that is moved goes along, and where something
lies already in the place it comes to, two imports name the same file from then on. This is the only way
in which two files become one. -/
namespace Transplant.Relocation
open Transplant.Path Source

variable {m : Relocation} {p q : Position} {r₁ r₂ s₁ s₂ : Text}

/-- The file at `p` comes to lie, together with the directory that is moved, where the one at `q` is and
stays. -/
def MovesOnto (m : Relocation) (p q : Position) : Prop :=
  m.source ≠ [] ∧ ∃ r, p = ⟨0, m.source ++ r⟩ ∧ q = ⟨0, m.dest ++ r⟩ ∧ ¬ m.source <+: q.segments

/-- A file in or below the directory that files are moved to, which is not moved itself. -/
def InTheWay (m : Relocation) (p : Position) : Prop :=
  p.ups = 0 ∧ m.dest <+: p.segments ∧ ¬ m.source <+: p.segments

theorem MovesOnto.inTheWay (h : m.MovesOnto p q) : m.InTheWay q := by
  obtain ⟨-, r, -, rfl, hnot⟩ := h
  exact ⟨rfl, List.prefix_append m.dest r, hnot⟩

/-- A file is moved or it stays. -/
theorem target_cases (m : Relocation) (p : Position) :
    (m.source ≠ [] ∧ ∃ r, p = ⟨0, m.source ++ r⟩ ∧ m.target p = ⟨0, m.dest ++ r⟩) ∨
      m.target p = p ∧ (m.source ≠ [] → p.ups = 0 → ¬ m.source <+: p.segments) := by
  by_cases h : m.source ≠ [] ∧ p.ups = 0 ∧ m.source <+: p.segments
  · obtain ⟨hsource, hups, r, hr⟩ := h
    obtain rfl : p = ⟨0, m.source ++ r⟩ := by
      rw [hr, ← hups]
    exact .inl ⟨hsource, r, rfl, target_source_append hsource r⟩
  · exact .inr ⟨if_neg h, fun hsource hups hprefix => h ⟨hsource, hups, hprefix⟩⟩

theorem MovesOnto.target_eq (h : m.MovesOnto p q) : m.target p = m.target q := by
  obtain ⟨hsource, r, rfl, rfl, hnot⟩ := h
  have hstays : m.target ⟨0, m.dest ++ r⟩ = ⟨0, m.dest ++ r⟩ := if_neg fun hq => hnot hq.2.2
  exact (target_source_append hsource r).trans hstays.symm

/-- Two files become one exactly if one is moved onto the other. -/
theorem target_eq_target_iff (hne : p ≠ q) :
    m.target p = m.target q ↔ m.MovesOnto p q ∨ m.MovesOnto q p := by
  constructor
  · intro h
    obtain ⟨hsource, r, rfl, hp⟩ | ⟨hp, hpstays⟩ := m.target_cases p
    · obtain ⟨-, t, rfl, hq⟩ | ⟨hq, hqstays⟩ := m.target_cases q
      · have hsegments := congrArg Position.segments (hp.symm.trans (h.trans hq))
        obtain rfl := List.append_cancel_left hsegments
        exact absurd rfl hne
      · obtain rfl : ⟨0, m.dest ++ r⟩ = q := hp.symm.trans (h.trans hq)
        exact .inl ⟨hsource, r, rfl, rfl, hqstays hsource rfl⟩
    · obtain ⟨hsource, t, rfl, hq⟩ | ⟨hq, -⟩ := m.target_cases q
      · obtain rfl : p = ⟨0, m.dest ++ t⟩ := hp.symm.trans (h.trans hq)
        exact .inr ⟨hsource, t, rfl, rfl, hpstays hsource rfl⟩
      · exact absurd (hp.symm.trans (h.trans hq)) hne
  · rintro (h | h)
    · exact h.target_eq
    · exact h.target_eq.symm

theorem eq_of_specifier?_eq_some (h : m.specifier? s₁ = some r₁) :
    r₁ = relativeSpecifier m.dest (m.target (resolve m.source s₁)) := by
  simp only [specifier?] at h
  split at h
  · cases h
  · exact (Option.some.inj h).symm

/-- Two specifiers that are written anew are the same just if their files have become one. -/
theorem specifier?_eq_iff_target_eq (hm : m.Named) (h₁ : m.specifier? s₁ = some r₁)
    (h₂ : m.specifier? s₂ = some r₂) :
    r₁ = r₂ ↔ m.target (resolve m.source s₁) = m.target (resolve m.source s₂) := by
  constructor
  · rintro rfl
    exact (resolve_of_specifier?_eq_some hm h₁).symm.trans (resolve_of_specifier?_eq_some hm h₂)
  · intro h
    rw [eq_of_specifier?_eq_some h₁, eq_of_specifier?_eq_some h₂, h]

/-- Two files that the imports of a source name are one file after its move exactly if one of them is
moved onto the other, and then the specifiers that are written for them are the same as well. So files
stay apart if none that is named lies where the directory comes to lie. -/
theorem target_eq_iff_movesOnto {source dest : Text} (root : DestinationRoot)
    (hs : ['.', '.'] ∉ (ofPaths source dest root).source)
    (hd : ['.', '.'] ∉ (ofPaths source dest root).dest) :
    let m := ofPaths source dest root
    (∀ s₁ s₂, resolve m.source s₁ ≠ resolve m.source s₂ →
      let t₁ := resolve m.source s₁
      let t₂ := resolve m.source s₂
      (m.target t₁ = m.target t₂ ↔ m.MovesOnto t₁ t₂ ∨ m.MovesOnto t₂ t₁) ∧
        ∀ r₁ r₂, m.specifier? s₁ = some r₁ → m.specifier? s₂ = some r₂ →
          (r₁ = r₂ ↔ m.MovesOnto t₁ t₂ ∨ m.MovesOnto t₂ t₁)) ∧
      ∀ content, let relative := (imports content).filter fun i =>
          Specifier.classify i.specifier = .relative
        (∀ i ∈ relative, ¬ m.InTheWay (resolve m.source i.specifier)) →
          ∀ i ∈ relative, ∀ j ∈ relative,
            resolve m.source i.specifier ≠ resolve m.source j.specifier →
              m.target (resolve m.source i.specifier) ≠ m.target (resolve m.source j.specifier) := by
  intro m
  have hm : m.Named := named_of_dirs root hs hd
  constructor
  · intro s₁ s₂ hne t₁ t₂
    have hiff := target_eq_target_iff hne (m := m)
    exact ⟨hiff, fun r₁ r₂ h₁ h₂ => (specifier?_eq_iff_target_eq hm h₁ h₂).trans hiff⟩
  · intro content relative hfree i hi j hj hne hsame
    rcases (target_eq_target_iff hne).1 hsame with h | h
    · exact hfree j hj h.inTheWay
    · exact hfree i hi h.inTheWay

/-- The types of the moved directory come to lie where others are, and both imports get one name. -/
theorem target_eq_iff_movesOnto_existing_types :
    let source := "ui/src/upload/Upload.tsx".toList
    let dest := "components/ui/files/upload.tsx".toList
    let root := DestinationRoot.alias "@/components/ui".toList
    let m := ofPaths source dest root
    let own := "./types".toList
    let other := "../files/types".toList
    (['.', '.'] ∉ m.source ∧ ['.', '.'] ∉ m.dest) ∧
      resolve m.source own ≠ resolve m.source other ∧
        m.target (resolve m.source own) = m.target (resolve m.source other) ∧
          m.mapImports "import a from './types'\nimport b from '../files/types'\n".toList =
            "import a from './types'\nimport b from './types'\n".toList := by
  intro source dest root m own other
  have hs : ['.', '.'] ∉ m.source := by decide
  have hd : ['.', '.'] ∉ m.dest := by decide
  have hne : resolve m.source own ≠ resolve m.source other := by decide
  have honto : m.MovesOnto (resolve m.source own) (resolve m.source other) :=
    ⟨by decide, ["types".toList], by decide, by decide, by decide⟩
  exact ⟨⟨hs, hd⟩, hne, (((target_eq_iff_movesOnto root hs hd).1 own other hne).1).2 (.inl honto),
    by decide +kernel⟩

end Transplant.Relocation
