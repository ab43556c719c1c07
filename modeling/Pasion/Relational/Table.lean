import Mathlib.Order.Basic
import Mathlib.Data.Int.Order.Basic
import Mathlib.Data.List.Pairwise
import Mathlib.Data.List.Sort
import Mathlib.Tactic.Common

/-! Tables keyed by a primary key, their rows held in key order. -/
namespace Relational

/-- The first element with the greatest key. -/
def maxBy {α : Type} (key : α → ℤ) : List α → Option α
  | [] => none
  | x :: rest =>
    match maxBy key rest with
    | none => some x
    | some y => if key x < key y then some y else some x

theorem mem_of_maxBy {α : Type} {key : α → ℤ} {l : List α} {x : α} (h : maxBy key l = some x) :
    x ∈ l := by
  induction l generalizing x with
  | nil => cases h
  | cons y rest ih =>
    rw [maxBy] at h
    cases hrest : maxBy key rest with
    | none =>
      rw [hrest] at h
      cases Option.some.inj h
      exact List.mem_cons_self
    | some z =>
      rw [hrest] at h
      dsimp only at h
      split_ifs at h
      · cases Option.some.inj h
        exact List.mem_cons_of_mem _ (ih hrest)
      · cases Option.some.inj h
        exact List.mem_cons_self

/-- The first `limit` elements by `key`; `ties` orders those of equal keys. -/
def orderLimit {α : Type} (key : α → ℤ) (ties : α → ℕ) (limit : ℕ) (l : List α) : List α :=
  (l.insertionSort (fun a b => key a < key b ∨ key a = key b ∧ ties a ≤ ties b)).take limit

theorem mem_of_mem_orderLimit {α : Type} {key : α → ℤ} {ties : α → ℕ} {limit : ℕ} {l : List α}
    {x : α} (h : x ∈ orderLimit key ties limit l) : x ∈ l :=
  (List.mem_insertionSort _).mp (List.mem_of_mem_take h)

/-- Rows stand in strictly increasing key order, so a key names at most one row. -/
structure Table (K R : Type) [LinearOrder K] where
  rows : List (K × R)
  sorted : rows.Pairwise (fun a b => a.1 < b.1)
  deriving DecidableEq

namespace Table

variable {K R S : Type} [LinearOrder K]
variable {k k' : K} {r r' : R} {t u : Table K R} {p : K → R → Bool}

def empty : Table K R := ⟨[], .nil⟩

def lookupRow (k : K) : List (K × R) → Option R
  | [] => none
  | (k', r) :: rest => if k = k' then some r else lookupRow k rest

def get? (t : Table K R) (k : K) : Option R := lookupRow k t.rows

def contains (t : Table K R) (k : K) : Bool := (t.get? k).isSome

def keys (t : Table K R) : List K := t.rows.map Prod.fst

/-- The first row in key order that satisfies `p`. -/
def find? (t : Table K R) (p : K → R → Bool) : Option (K × R) := t.rows.find? (fun r => p r.1 r.2)

def select (t : Table K R) (p : K → R → Bool) : List (K × R) := t.rows.filter (fun r => p r.1 r.2)

def any (t : Table K R) (p : K → R → Bool) : Bool := t.rows.any (fun r => p r.1 r.2)

def insertRow (k : K) (r : R) : List (K × R) → List (K × R)
  | [] => [(k, r)]
  | (k', r') :: rest =>
    if k < k' then (k, r) :: (k', r') :: rest
    else if k = k' then (k, r) :: rest
    else (k', r') :: insertRow k r rest

private theorem mem_insertRow {l : List (K × R)} {x : K × R}
    (h : x ∈ insertRow k r l) : x = (k, r) ∨ x ∈ l := by
  induction l with
  | nil => exact .inl (by simpa [insertRow] using h)
  | cons y rest ih =>
    simp only [insertRow] at h
    split_ifs at h with hlt heq
    · exact (List.mem_cons.mp h).imp_right id
    · exact (List.mem_cons.mp h).imp_right (List.mem_cons_of_mem _)
    · rcases List.mem_cons.mp h with rfl | h
      · exact .inr List.mem_cons_self
      · exact (ih h).imp_right (List.mem_cons_of_mem _)

private theorem sorted_insertRow (k : K) (r : R) {l : List (K × R)}
    (h : l.Pairwise (fun a b => a.1 < b.1)) :
    (insertRow k r l).Pairwise (fun a b => a.1 < b.1) := by
  induction l with
  | nil => simp [insertRow]
  | cons y rest ih =>
    obtain ⟨hy, hrest⟩ := List.pairwise_cons.mp h
    simp only [insertRow]
    split_ifs with hlt heq
    · refine List.pairwise_cons.mpr ⟨fun x hx => ?_, h⟩
      rcases List.mem_cons.mp hx with rfl | hx
      · exact hlt
      · exact lt_trans hlt (hy x hx)
    · exact List.pairwise_cons.mpr ⟨fun x hx => heq ▸ hy x hx, hrest⟩
    · refine List.pairwise_cons.mpr ⟨fun x hx => ?_, ih hrest⟩
      rcases mem_insertRow hx with rfl | hx
      · exact lt_of_le_of_ne (not_lt.mp hlt) (Ne.symm heq)
      · exact hy x hx

/-- Adds the row, in the place of the row that had its key. -/
def insert (t : Table K R) (k : K) (r : R) : Table K R :=
  ⟨insertRow k r t.rows, sorted_insertRow k r t.sorted⟩

/-- Rewrites every row in place; keys stay. -/
def mapRows (t : Table K R) (f : K → R → S) : Table K S where
  rows := t.rows.map (fun r => (r.1, f r.1 r.2))
  sorted := List.pairwise_map.mpr t.sorted

def update (t : Table K R) (k : K) (f : R → R) : Table K R :=
  t.mapRows (fun k' r => if k' = k then f r else r)

def delete (t : Table K R) (p : K → R → Bool) : Table K R where
  rows := t.rows.filter (fun r => !p r.1 r.2)
  sorted := t.sorted.filter _

theorem mem_rows : (k, r) ∈ t.rows ↔ t.get? k = some r := by
  obtain ⟨l, hl⟩ := t
  simp only [get?]
  induction l with
  | nil => simp [lookupRow]
  | cons y rest ih =>
    obtain ⟨hy, hrest⟩ := List.pairwise_cons.mp hl
    obtain ⟨k', r'⟩ := y
    by_cases hk : k = k'
    · subst hk
      have hnot : (k, r) ∉ rest := fun h => lt_irrefl k (hy _ h)
      simp [lookupRow, hnot, eq_comm]
    · simp [lookupRow, hk, ih hrest]

private theorem nodup_rows (t : Table K R) : t.rows.Nodup := by
  refine List.Pairwise.imp (fun {a b} hab => ?_) t.sorted
  rintro rfl
  exact lt_irrefl _ hab

@[ext]
theorem ext_get? (h : ∀ k, t.get? k = u.get? k) : t = u := by
  have hmem : ∀ x, x ∈ t.rows ↔ x ∈ u.rows := fun x => by rw [mem_rows, mem_rows, h]
  have hrows : t.rows = u.rows :=
    List.Perm.eq_of_pairwise (fun a b _ _ hab hba => absurd hba (lt_asymm hab)) t.sorted u.sorted
      ((List.perm_ext_iff_of_nodup t.nodup_rows u.nodup_rows).mpr hmem)
  cases t
  cases u
  cases hrows
  rfl

@[simp] theorem get?_empty (k : K) : (empty : Table K R).get? k = none := rfl

theorem get?_insert (t : Table K R) (k k' : K) (r : R) :
    (t.insert k r).get? k' = if k' = k then some r else t.get? k' := by
  obtain ⟨l, hl⟩ := t
  simp only [get?, insert]
  clear hl
  induction l with
  | nil => simp [insertRow, lookupRow]
  | cons y rest ih =>
    obtain ⟨k₁, r₁⟩ := y
    simp only [insertRow]
    rcases lt_trichotomy k k₁ with hlt | rfl | hgt
    · simp only [hlt, if_true, lookupRow]
    · by_cases hk : k' = k <;> simp [lookupRow, hk]
    · simp only [hgt.not_gt, hgt.ne', if_false, lookupRow, ih]
      by_cases hk : k' = k
      · subst hk; simp [hgt.ne']
      · simp [hk]

@[simp]
theorem get?_mapRows (t : Table K R) (f : K → R → S) (k : K) :
    (t.mapRows f).get? k = (t.get? k).map (f k) := by
  obtain ⟨l, hl⟩ := t
  simp only [get?, mapRows]
  clear hl
  induction l with
  | nil => rfl
  | cons y rest ih =>
    by_cases hk : k = y.1
    · subst hk; simp [lookupRow]
    · simpa [lookupRow, hk] using ih

@[simp]
theorem contains_mapRows (t : Table K R) (f : K → R → S) (k : K) :
    (t.mapRows f).contains k = t.contains k := by
  simp [contains]

theorem mapRows_mapRows {T : Type} (t : Table K R) (f : K → R → S) (g : K → S → T) :
    (t.mapRows f).mapRows g = t.mapRows (fun k r => g k (f k r)) := by
  refine ext_get? fun k => ?_
  rw [get?_mapRows, get?_mapRows, get?_mapRows, Option.map_map]
  rfl

theorem mapRows_eq_iff {f g : K → R → S} :
    t.mapRows f = t.mapRows g ↔ ∀ k r, t.get? k = some r → f k r = g k r := by
  constructor
  · intro h k r hr
    have hget := congrArg (fun u => u.get? k) h
    simpa [hr] using hget
  · intro h
    refine ext_get? fun k => ?_
    rw [get?_mapRows, get?_mapRows]
    cases hr : t.get? k with
    | none => rfl
    | some r => rw [Option.map_some, Option.map_some, h k r hr]

theorem get?_update (t : Table K R) (k k' : K) (f : R → R) :
    (t.update k f).get? k' = if k' = k then (t.get? k').map f else t.get? k' := by
  by_cases hk : k' = k <;> simp [update, hk]

theorem update_congr {f g : R → R}
    (h : ∀ r, t.get? k = some r → f r = g r) : t.update k f = t.update k g := by
  refine ext_get? fun k' => ?_
  rw [get?_update, get?_update]
  split_ifs with hk
  · subst hk
    exact Option.map_congr h
  · rfl

theorem update_insert (t : Table K R) (k : K) (r : R) (f : R → R) :
    (t.insert k r).update k f = t.insert k (f r) := by
  refine ext_get? fun k' => ?_
  rw [get?_update, get?_insert, get?_insert]
  split_ifs <;> rfl

theorem update_insert_of_ne (t : Table K R) (r : R) (f : R → R) (h : k ≠ k') :
    (t.insert k r).update k' f = (t.update k' f).insert k r := by
  refine ext_get? fun k'' => ?_
  simp only [get?_update, get?_insert]
  by_cases hk : k'' = k
  · rw [if_neg (hk ▸ h), if_pos hk, if_pos hk]
  · simp only [if_neg hk]

theorem update_update (t : Table K R) (k : K) (f g : R → R) :
    (t.update k f).update k g = t.update k (fun r => g (f r)) := by
  refine ext_get? fun k' => ?_
  simp only [get?_update]
  split_ifs
  · rw [Option.map_map]
    rfl
  · rfl

theorem update_comm (t : Table K R) (f g : R → R) (h : k ≠ k') :
    (t.update k f).update k' g = (t.update k' g).update k f := by
  refine ext_get? fun k'' => ?_
  simp only [get?_update]
  by_cases hk : k'' = k
  · have hk' : k'' ≠ k' := hk ▸ h
    simp only [if_pos hk, if_neg hk']
  · simp only [if_neg hk]

@[simp]
theorem update_id (t : Table K R) (k : K) : t.update k (fun r => r) = t := by
  refine ext_get? fun k' => ?_
  rw [get?_update]
  simp

@[simp]
theorem get?_delete (t : Table K R) (p : K → R → Bool) (k : K) :
    (t.delete p).get? k = (t.get? k).filter (fun r => !p k r) := by
  refine Option.ext fun r => ?_
  rw [← mem_rows, Option.filter_eq_some_iff, ← mem_rows]
  simp [delete]

theorem get?_delete_eq_some : (t.delete p).get? k = some r ↔ t.get? k = some r ∧ p k r = false := by
  rw [get?_delete, Option.filter_eq_some_iff, Bool.not_eq_true']

/-- A row after an insert is the new one or was there. -/
theorem of_get?_insert
    (h : (t.insert k r).get? k' = some r') : k' = k ∧ r' = r ∨ k' ≠ k ∧ t.get? k' = some r' := by
  rw [get?_insert] at h
  split_ifs at h with hk
  · exact .inl ⟨hk, (Option.some.inj h).symm⟩
  · exact .inr ⟨hk, h⟩

section Fold

variable {X : Type} {key : X → K} {val : X → R} {l : List X} {t : Table K R}

end Fold

theorem of_get?_update {f : R → R} (h : (t.update k f).get? k' = some r') :
    ∃ r, t.get? k' = some r ∧ r' = if k' = k then f r else r := by
  rw [get?_update] at h
  split_ifs at h with hk
  · obtain ⟨r, hr, rfl⟩ := Option.map_eq_some_iff.mp h
    exact ⟨r, hr, (if_pos hk).symm⟩
  · exact ⟨r', h, (if_neg hk).symm⟩

theorem contains_iff_exists : t.contains k ↔ ∃ r, t.get? k = some r := Option.isSome_iff_exists

theorem contains_update (t : Table K R) (k k' : K) (f : R → R) :
    (t.update k f).contains k' = t.contains k' := by
  rw [update, contains_mapRows]

theorem contains_insert : (t.insert k r).contains k' = (decide (k' = k) || t.contains k') := by
  unfold contains
  rw [get?_insert]
  by_cases h : k' = k <;> simp [h]

theorem mem_keys : k ∈ t.keys ↔ t.contains k := by
  rw [contains_iff_exists]
  simp only [keys, List.mem_map, Prod.exists, exists_and_right, exists_eq_right, mem_rows]

theorem contains_insert_of_contains (h : t.contains k') : (t.insert k r).contains k' := by
  unfold contains at h ⊢
  rw [get?_insert]
  split_ifs
  · rfl
  · exact h

theorem find?_some (h : t.find? p = some (k, r)) : t.get? k = some r ∧ p k r := by
  have hp := List.find?_some (p := fun x : K × R => p x.1 x.2) h
  exact ⟨mem_rows.mp (List.mem_of_find?_eq_some h), hp⟩

theorem find?_none : t.find? p = none ↔ ∀ k r, t.get? k = some r → p k r = false := by
  simp only [find?, List.find?_eq_none, Prod.forall, mem_rows, Bool.not_eq_true]

/-- The only row that passes the test is found. -/
theorem find?_insert_of_none (hp : p k r)
    (hnone : t.find? p = none) : (t.insert k r).find? p = some (k, r) := by
  cases hfind : (t.insert k r).find? p with
  | none =>
    have hself : (t.insert k r).get? k = some r := by rw [get?_insert, if_pos rfl]
    have hfalse := find?_none.mp hfind k r hself
    rw [hp] at hfalse
    cases hfalse
  | some row =>
    obtain ⟨k', r'⟩ := row
    obtain ⟨hget, hp'⟩ := find?_some hfind
    obtain ⟨rfl, rfl⟩ | ⟨-, hget⟩ := of_get?_insert hget
    · rfl
    · have hfalse := find?_none.mp hnone k' r' hget
      rw [hp'] at hfalse
      cases hfalse

/-- Which key is found depends only on the part of the rows that the test reads. -/
theorem find?_fst_congr {f : R → S} {q : K → S → Bool}
    (h : ∀ k, (t.get? k).map f = (u.get? k).map f) :
    (t.find? (fun k r => q k (f r))).map Prod.fst = (u.find? (fun k r => q k (f r))).map Prod.fst := by
  have hfind : ∀ v : Table K R, ((v.mapRows (fun _ => f)).find? q).map Prod.fst =
      (v.find? (fun k r => q k (f r))).map Prod.fst := by
    intro v
    simp only [find?, mapRows, List.find?_map, Option.map_map]
    rfl
  have heq : t.mapRows (fun _ => f) = u.mapRows (fun _ => f) := by
    refine ext_get? fun k => ?_
    rw [get?_mapRows, get?_mapRows, h k]
  rw [← hfind t, ← hfind u, heq]

/-- The key that is found, if the rows are the same as far as the test reads them. -/
theorem find?_same {f : R → S} {q : S → Bool} {g : K} {x : K × R}
    (h : ∀ k, (t.get? k).map f = (u.get? k).map f)
    (hg : ∀ k, (u.find? (fun _ r => q (f r))).map Prod.fst = some k → k = g)
    (hfind : t.find? (fun _ r => q (f r)) = some x) : x.1 = g ∧ (u.get? g).isSome := by
  have hfst := (find?_fst_congr (q := fun _ => q) h).symm.trans (congrArg (Option.map _) hfind)
  obtain ⟨y, hy, heq⟩ := Option.map_eq_some_iff.mp hfst
  have hid : x.1 = g := hg x.1 hfst
  rw [← hid, ← heq, (find?_some hy).1]
  exact ⟨rfl, rfl⟩

theorem any_iff : t.any p ↔ ∃ k r, t.get? k = some r ∧ p k r := by
  simp only [any, List.any_eq_true, Prod.exists, mem_rows]

theorem mem_select : (k, r) ∈ t.select p ↔ t.get? k = some r ∧ p k r := by
  simp only [select, List.mem_filter, mem_rows]

end Table
end Relational
