import Mathlib.Data.Option.Basic
import Pasion.Relational.Table

/-! Two states of a table with the same keys, whose rows are related one by one. -/
namespace Relational.Table

variable {K S : Type} [LinearOrder K]

/-- The later table has the keys of the earlier one, and each row is related to the one it was. -/
def Evolves (R : S → S → Prop) (t t' : Table K S) : Prop := ∀ k, Option.Rel R (t.get? k) (t'.get? k)

namespace Evolves

variable {R : S → S → Prop} {t t' t'' : Table K S} {k : K} {f : S → S}

theorem refl (hR : ∀ r, R r r) (t : Table K S) : Evolves R t t := by
  intro k
  cases t.get? k with
  | none => exact .none
  | some r => exact .some (hR r)

theorem of_eq (hR : ∀ r, R r r) (h : t' = t) : Evolves R t t' := by
  rw [h]
  exact refl hR t

theorem get?_left (h : Evolves R t t') {r : S} (hr : t.get? k = some r) :
    ∃ r', t'.get? k = some r' ∧ R r r' := by
  have hk := h k
  rw [hr] at hk
  generalize t'.get? k = o at hk
  cases hk with
  | some hrel => exact ⟨_, rfl, hrel⟩

theorem get?_right (h : Evolves R t t') {r' : S} (hr' : t'.get? k = some r') :
    ∃ r, t.get? k = some r ∧ R r r' := by
  have hk := h k
  rw [hr'] at hk
  generalize t.get? k = o at hk
  cases hk with
  | some hrel => exact ⟨_, rfl, hrel⟩

theorem contains_iff (h : Evolves R t t') : t'.contains k ↔ t.contains k := by
  unfold contains
  rw [Option.isSome_iff_exists, Option.isSome_iff_exists]
  constructor
  · rintro ⟨r', hr'⟩
    obtain ⟨r, hr, -⟩ := h.get?_right hr'
    exact ⟨r, hr⟩
  · rintro ⟨r, hr⟩
    obtain ⟨r', hr', -⟩ := h.get?_left hr
    exact ⟨r', hr'⟩

theorem trans (hR : ∀ {a b c}, R a b → R b c → R a c) (h : Evolves R t t')
    (h' : Evolves R t' t'') : Evolves R t t'' := by
  intro k
  have h₁ := h k
  have h₂ := h' k
  generalize t.get? k = a at h₁
  generalize t''.get? k = c at h₂
  cases hb : t'.get? k with
  | none =>
    rw [hb] at h₁ h₂
    cases h₁
    cases h₂
    exact .none
  | some b =>
    rw [hb] at h₁ h₂
    cases h₁ with
    | some hab =>
      cases h₂ with
      | some hbc => exact .some (hR hab hbc)

theorem mapRows {f : K → S → S} (hf : ∀ k r, R r (f k r)) (t : Table K S) :
    Evolves R t (t.mapRows f) := by
  intro k
  rw [get?_mapRows]
  cases t.get? k with
  | none => exact .none
  | some r => exact .some (hf k r)

theorem update (hR : ∀ r, R r r) (hf : ∀ r, R r (f r)) (t : Table K S) (k : K) :
    Evolves R t (t.update k f) := by
  refine mapRows (fun k' r => ?_) t
  split_ifs
  · exact hf r
  · exact hR r

end Evolves

end Relational.Table
