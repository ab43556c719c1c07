import Pasion.Relational.Table

/-! References from the cells of a table to the keys of another, and what a deletion leaves. -/
namespace Relational

namespace Table

variable {K R I : Type} [LinearOrder K]

/-- The keys that the cells of a column hold. -/
def column (t : Table K R) (cell : R → Option I) : List I := t.rows.filterMap (fun r => cell r.2)

/-- The keys of the rows that satisfy `p`. -/
def keysWhere (t : Table K R) (p : R → Bool) : List K := (t.select (fun _ r => p r)).map Prod.fst

def deleteKeys (t : Table K R) (gone : K → Bool) : Table K R := t.delete (fun k _ => gone k)

/-- The rows that refer to a key that goes, go with it. -/
def cascade (t : Table K R) (cell : R → Option I) (gone : I → Bool) : Table K R :=
  t.delete (fun _ r => (cell r).any gone)

/-- The rows that refer to a key that goes, lose the reference. -/
def setNull (t : Table K R) (cell : R → Option I) (clear : R → R) (gone : I → Bool) : Table K R :=
  t.mapRows (fun _ r => if (cell r).any gone then clear r else r)

variable {t : Table K R} {cell cell' : R → Option I} {gone : I → Bool} {clear : R → R} {x : I}
variable {p : R → Bool}

theorem mem_column : x ∈ t.column cell ↔ ∃ k r, t.get? k = some r ∧ cell r = some x := by
  simp only [column, List.mem_filterMap, Prod.exists, mem_rows]

theorem mem_keysWhere {k : K} : k ∈ t.keysWhere p ↔ ∃ r, t.get? k = some r ∧ p r := by
  simp only [keysWhere, List.mem_map, Prod.exists, exists_and_right, exists_eq_right, mem_select]

theorem contains_of_mem_keysWhere {k : K} (h : k ∈ t.keysWhere p) : t.contains k := by
  obtain ⟨r, hr, -⟩ := mem_keysWhere.mp h
  exact contains_iff_exists.mpr ⟨r, hr⟩

theorem nodup_keys_select (p : K → R → Bool) : ((t.select p).map Prod.fst).Nodup := by
  have hsorted : (t.select p).Pairwise (fun a b => a.1 < b.1) := t.sorted.filter _
  exact (List.pairwise_map.mpr hsorted).imp fun hlt => ne_of_lt hlt

@[simp]
theorem get?_deleteKeys (gone : K → Bool) (k : K) :
    (t.deleteKeys gone).get? k = if gone k then none else t.get? k := by
  rw [deleteKeys, get?_delete]
  cases gone k <;> cases t.get? k <;> rfl

theorem deleteKeys_keysWhere (p : R → Bool) :
    t.deleteKeys (· ∈ t.keysWhere p) = t.delete (fun _ r => p r) := by
  refine ext_get? fun k => ?_
  rw [get?_deleteKeys, get?_delete]
  cases hr : t.get? k with
  | none => simp
  | some r => cases hp : p r <;> simp [mem_keysWhere, hr, hp, Option.filter]

/-- What is left when the rows that satisfy `p` go. -/
theorem get?_deleteKeys_keysWhere {k : K} {r : R} :
    (t.deleteKeys (· ∈ t.keysWhere p)).get? k = some r ↔ t.get? k = some r ∧ p r = false := by
  rw [deleteKeys_keysWhere, get?_delete_eq_some]

@[simp]
theorem contains_deleteKeys (gone : K → Bool) (k : K) :
    (t.deleteKeys gone).contains k = (t.contains k && !gone k) := by
  unfold contains
  rw [get?_deleteKeys]
  cases gone k <;> simp

@[simp]
theorem contains_setNull (k : K) : (t.setNull cell clear gone).contains k = t.contains k :=
  contains_mapRows t _ k

theorem get?_setNull (put : Option I → R → R) (hput : ∀ r, put (cell r) r = r) (k : K) :
    (t.setNull cell (put none) gone).get? k =
      (t.get? k).map (fun r => put ((cell r).filter (!gone ·)) r) := by
  rw [setNull, get?_mapRows]
  refine congrArg (Option.map · _) (funext fun r => ?_)
  have hsame := hput r
  cases hcell : cell r with
  | none =>
    rw [hcell] at hsame
    exact hsame.symm
  | some x =>
    rw [hcell] at hsame
    cases hgone : gone x <;> simp [Option.filter, hgone, hsame]

theorem setNull_eq_self
    (h : ∀ k r x, t.get? k = some r → cell r = some x → gone x = false) :
    t.setNull cell clear gone = t := by
  refine ext_get? fun k => ?_
  rw [setNull, get?_mapRows]
  cases hr : t.get? k with
  | none => rfl
  | some r =>
    have hkept : (cell r).any gone = false := by
      cases hcell : cell r with
      | none => rfl
      | some x => exact h k r x hr hcell
    simp [hkept]

/-- Rows that lose a reference before they go leave what is left as if they had not. -/
theorem delete_setNull (hp : ∀ r, p (clear r) = p r)
    (h : ∀ k r x, t.get? k = some r → p r = false → cell r = some x → gone x = false) :
    (t.setNull cell clear gone).delete (fun _ r => p r) = t.delete (fun _ r => p r) := by
  have hcomm : (t.setNull cell clear gone).delete (fun _ r => p r) =
      (t.delete (fun _ r => p r)).setNull cell clear gone := by
    refine ext_get? fun k => ?_
    simp only [setNull, get?_delete, get?_mapRows]
    cases t.get? k with
    | none => rfl
    | some r =>
      cases hgone : (cell r).any gone <;> cases hpr : p r <;> simp [hgone, hp, hpr, Option.filter]
  rw [hcomm]
  refine setNull_eq_self fun k r x hr hcell => ?_
  obtain ⟨hr, hpr⟩ := get?_delete_eq_some.mp hr
  exact h k r x hr hpr hcell

theorem mem_keysWhere_setNull (hp : ∀ r, p (clear r) = p r) {k : K} :
    k ∈ (t.setNull cell clear gone).keysWhere p ↔ k ∈ t.keysWhere p := by
  simp only [mem_keysWhere, setNull, get?_mapRows]
  cases t.get? k with
  | none => simp
  | some r => cases hgone : (cell r).any gone <;> simp [hgone, hp]

theorem column_delete_subset (p : K → R → Bool) : (t.delete p).column cell ⊆ t.column cell := by
  intro x hx
  obtain ⟨k, r, hr, hcell⟩ := mem_column.mp hx
  exact mem_column.mpr ⟨k, r, (get?_delete_eq_some.mp hr).1, hcell⟩

/-- Clearing one column leaves every column as it is, or with fewer references. -/
theorem column_setNull_subset (hclear : ∀ r, cell' (clear r) = none ∨ cell' (clear r) = cell' r) :
    (t.setNull cell clear gone).column cell' ⊆ t.column cell' := by
  intro x hx
  obtain ⟨k, r', hr', hcell⟩ := mem_column.mp hx
  rw [setNull, get?_mapRows] at hr'
  obtain ⟨r, hr, rfl⟩ := Option.map_eq_some_iff.mp hr'
  refine mem_column.mpr ⟨k, r, hr, ?_⟩
  split_ifs at hcell with hgone
  · rcases hclear r with hnone | hsame
    · rw [hnone] at hcell
      cases hcell
    · rw [← hsame]
      exact hcell
  · exact hcell

theorem not_mem_column_cascade (hx : gone x) : x ∉ (t.cascade cell gone).column cell := by
  intro hmem
  obtain ⟨k, r, hr, hcell⟩ := mem_column.mp hmem
  have hkept := (get?_delete_eq_some.mp hr).2
  simp [hcell, hx] at hkept

theorem not_mem_column_delete {p : K → R → Bool}
    (h : ∀ k r, t.get? k = some r → cell r = some x → p k r) :
    x ∉ (t.delete p).column cell := by
  intro hmem
  obtain ⟨k, r, hr, hcell⟩ := mem_column.mp hmem
  obtain ⟨hr, hkept⟩ := get?_delete_eq_some.mp hr
  simp [h k r hr hcell] at hkept

theorem not_mem_column_deleteKeys (gone : K → Bool)
    (h : ∀ k r, t.get? k = some r → cell r = some x → gone k) :
    x ∉ (t.deleteKeys gone).column cell :=
  not_mem_column_delete h

theorem not_mem_column_setNull (hclear : ∀ r, cell (clear r) = none) (hx : gone x) :
    x ∉ (t.setNull cell clear gone).column cell := by
  intro hmem
  obtain ⟨k, r', hr', hcell⟩ := mem_column.mp hmem
  rw [setNull, get?_mapRows] at hr'
  obtain ⟨r, hr, rfl⟩ := Option.map_eq_some_iff.mp hr'
  split_ifs at hcell with hgone
  · rw [hclear] at hcell
    cases hcell
  · simp [hcell, hx] at hgone

end Table

/-- The cells of a column of the data `σ`, and the keys that they may hold. -/
structure Reference (σ : Type) where
  Key : Type
  cells : σ → List Key
  has : σ → Key → Bool

namespace Reference

variable {σ K R I S : Type} [LinearOrder K] [LinearOrder I]

def between (source : σ → Table K R) (cell : R → Option I) (target : σ → Table I S) :
    Reference σ where
  Key := I
  cells s := (source s).column cell
  has s := (target s).contains

def holds (f : Reference σ) (s : σ) : Bool := (f.cells s).all (f.has s)

/-- A row left in `s'` refers to a key that `s` had and `s'` has not. -/
def strands (f : Reference σ) (s s' : σ) : Bool :=
  (f.cells s').any (fun x => f.has s x && !f.has s' x)

variable {f : Reference σ} {s s' : σ}

theorem strands_eq_false : f.strands s s' = false ↔ ∀ x ∈ f.cells s', f.has s x → f.has s' x := by
  simp [strands]

variable {source : σ → Table K R} {cell : R → Option I} {target : σ → Table I S}
  {gone : I → Bool}

theorem not_strands_of_contains (h : ∀ x, (target s).contains x → (target s').contains x) :
    (between source cell target).strands s s' = false :=
  strands_eq_false.mpr fun x _ => h x

theorem strands_iff_gone (h : ∀ x, (target s').contains x = ((target s).contains x && !gone x)) :
    (between source cell target).strands s s' ↔
      ∃ x ∈ (source s').column cell, (target s).contains x ∧ gone x := by
  have hgone : ∀ x, ((target s).contains x && !(target s').contains x) =
      ((target s).contains x && gone x) := by
    intro x
    rw [h]
    cases (target s).contains x <;> simp
  simp only [strands, between, hgone, List.any_eq_true, Bool.and_eq_true]

theorem not_strands_iff (h : ∀ x, (target s').contains x = ((target s).contains x && !gone x))
    (hgone : ∀ x, gone x → (target s).contains x) :
    (between source cell target).strands s s' = false ↔
      ∀ k r x, (source s').get? k = some r → cell r = some x → gone x = false := by
  rw [Bool.eq_false_iff, ne_eq, strands_iff_gone h]
  constructor
  · intro hnone k r x hr hx
    rw [Bool.eq_false_iff]
    exact fun hg => hnone ⟨x, Table.mem_column.mpr ⟨k, r, hr, hx⟩, hgone x hg, hg⟩
  · rintro hall ⟨x, hx, _, hg⟩
    obtain ⟨k, r, hr, hcell⟩ := Table.mem_column.mp hx
    simp [hall k r x hr hcell] at hg

theorem not_strands_of_not_mem
    (h : ∀ x, (target s').contains x = ((target s).contains x && !gone x))
    (hcells : ∀ x, gone x → x ∉ (source s').column cell) :
    (between source cell target).strands s s' = false := by
  rw [Bool.eq_false_iff]
  intro hstrands
  obtain ⟨x, hx, _, hgone⟩ := (strands_iff_gone h).mp hstrands
  exact hcells x hgone hx

end Reference
end Relational
