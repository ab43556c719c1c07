import Pasion.Handlers.RegistrationAge
import Pasion.Relational.Sequential

/-! The data of the policy: each change adds a row, and the row with the highest id counts. -/
namespace Pasion.PolicyDataRepository

open Relational

variable {V : Type}

structure PolicyDataRow (V : Type) where
  createdAt : Time
  data : V

structure PolicyData (V : Type) where
  id : Ulid
  createdAt : Time
  data : V

abbrev PolicyDataTable (V : Type) := Table Ulid (PolicyDataRow V)

/-- `ORDER BY id DESC`, the first row. -/
def get (t : PolicyDataTable V) : Option (PolicyData V) :=
  t.rows.getLast?.map (fun r => ⟨r.1, r.2.createdAt, r.2.data⟩)

def set (now : Time) (random : ℕ) (data : V) (t : PolicyDataTable V) :
    Except DatabaseError (PolicyData V × PolicyDataTable V) :=
  let id := newId now random
  if t.contains id then .error .uniqueViolation
  else .ok (⟨id, now, data⟩, t.insert id ⟨now, data⟩)

/-- `ORDER BY id DESC OFFSET keep`; the offset is a 64-bit signed number. -/
def prune (keep : ℕ) (t : PolicyDataTable V) : Except DatabaseError (ℕ × PolicyDataTable V) :=
  let idsToDelete := t.keys.reverse.drop keep
  if 2 ^ 63 ≤ keep then .error .invalidOperation
  else if idsToDelete.isEmpty then .ok (0, t)
  else .ok (idsToDelete.length, t.delete (fun id _ => id ∈ idsToDelete))

inductive Call (V : Type) where
  | set (now : Time) (random : ℕ) (data : V)
  | prune (keep : ℕ)

/-- The table and, as history, the data that was set last. -/
structure State (V : Type) where
  table : PolicyDataTable V
  lastSet : Option V

def start : State V := ⟨.empty, none⟩

def step (s : State V) : Call V → State V
  | .set now random data =>
    match set now random data s.table with
    | .ok (_, t) => ⟨t, some data⟩
    | .error _ => s
  | .prune keep =>
    match prune keep s.table with
    | .ok (_, t) => { s with table := t }
    | .error _ => s

/-- The id that is drawn is above all ids of the table, and pruning keeps a row. -/
def DrawsAbove (s : State V) : Call V → Prop
  | .set now random _ => ∀ id ∈ s.table.keys, id < newId now random
  | .prune keep => 1 ≤ keep

def Recent (s : State V) : Prop := (get s.table).map (·.data) = s.lastSet

theorem insertRow_above {id : Ulid} {row : PolicyDataRow V} {rows : List (Ulid × PolicyDataRow V)}
    (h : ∀ k ∈ rows.map Prod.fst, k < id) : Table.insertRow id row rows = rows ++ [(id, row)] := by
  induction rows with
  | nil => rfl
  | cons r rest ih =>
    have hr : r.1 < id := h _ List.mem_cons_self
    have hrest := ih fun k hk => h k (List.mem_cons_of_mem _ hk)
    rw [Table.insertRow, if_neg hr.not_gt, if_neg hr.ne', hrest, List.cons_append]

theorem getLast?_delete {t : PolicyDataTable V} {keep : ℕ} (hkeep : 1 ≤ keep) :
    (t.delete (fun id _ => id ∈ t.keys.reverse.drop keep)).rows.getLast? = t.rows.getLast? := by
  obtain hnil | ⟨front, r, hrows⟩ := List.eq_nil_or_concat t.rows
  · simp [Table.delete, hnil]
  · obtain ⟨n, rfl⟩ := Nat.exists_eq_add_of_le' hkeep
    have hkeys : t.keys.reverse.drop (n + 1) = (front.map Prod.fst).reverse.drop n := by
      simp [Table.keys, hrows]
    have hkept : r.1 ∉ t.keys.reverse.drop (n + 1) := by
      rw [hkeys]
      intro hmem
      obtain ⟨r', hr', heq⟩ := List.mem_map.mp (List.mem_reverse.mp (List.mem_of_mem_drop hmem))
      have hsorted := t.sorted
      rw [hrows, List.concat_eq_append, List.pairwise_append] at hsorted
      exact (hsorted.2.2 r' hr' r (List.mem_singleton_self r)).ne heq
    simp [Table.delete, hrows, hkept]

theorem recent_step {s : State V} {call : Call V} (h : Recent s) (hdraws : DrawsAbove s call) :
    Recent (step s call) := by
  cases call with
  | set now random data =>
    by_cases hcontains : s.table.contains (newId now random)
    · simpa [step, set, hcontains] using h
    · simp [step, set, hcontains, Recent, get, Table.insert, insertRow_above hdraws]
  | prune keep =>
    simp only [step, prune]
    split_ifs
    · exact h
    · exact h
    · unfold Recent get
      rw [getLast?_delete hdraws]
      exact h

/-- Where each id drawn is above those in the table, the data is what was set last. -/
theorem recent_of_run (calls : List (Call V))
    (h : Sequential.Along step DrawsAbove start calls) :
    Recent (Sequential.run step start calls) :=
  Sequential.Along.run_invariant (fun _ _ => recent_step) rfl h

/-- The millisecond of a change, which its id begins with. -/
def Call.millisecond? : Call V → Option ℕ
  | .set now _ _ => some (now / 1000).toNat
  | .prune _ => none

theorem newId_lt {now : Time} {random m : ℕ} (h : (now / 1000).toNat < m) :
    newId now random < m * 2 ^ 80 := by
  unfold newId
  change (_ : ℕ) < _
  omega

theorem le_newId {now : Time} {random : ℕ} (h : (now / 1000).toNat < 2 ^ 48) :
    (now / 1000).toNat * 2 ^ 80 ≤ newId now random := by
  unfold newId
  change (_ : ℕ) ≤ _
  omega

theorem mem_keys_step {s : State V} {call : Call V} {id : Ulid}
    (h : id ∈ (step s call).table.keys) :
    id ∈ s.table.keys ∨ ∃ now random data, call = .set now random data ∧ id = newId now random := by
  rw [Table.mem_keys] at h ⊢
  cases call with
  | set now random data =>
    simp only [step, set] at h
    split_ifs at h with hcontains
    · exact .inl h
    · obtain ⟨row, hrow⟩ := Table.contains_iff_exists.mp h
      rcases Table.of_get?_insert hrow with ⟨rfl, -⟩ | ⟨-, hold⟩
      · exact .inr ⟨now, random, data, rfl, rfl⟩
      · exact .inl (Table.contains_iff_exists.mpr ⟨row, hold⟩)
  | prune keep =>
    simp only [step, prune] at h
    split_ifs at h
    · exact .inl h
    · exact .inl h
    · obtain ⟨row, hrow⟩ := Table.contains_iff_exists.mp h
      exact .inl (Table.contains_iff_exists.mpr ⟨row, (Table.get?_delete_eq_some.mp hrow).1⟩)

/-- Changes in milliseconds that rise draw ids that do, up to the last one of 48 bits. -/
theorem drawsAbove_of_apart {s : State V} {calls : List (Call V)}
    (hapart : (calls.filterMap Call.millisecond?).Pairwise (· < ·))
    (hbits : ∀ m ∈ calls.filterMap Call.millisecond?, m < 2 ^ 48)
    (hkeep : ∀ keep, Call.prune keep ∈ calls → 1 ≤ keep)
    (hids : ∀ id ∈ s.table.keys, ∀ m ∈ calls.filterMap Call.millisecond?, id < m * 2 ^ 80) :
    Sequential.Along step DrawsAbove s calls := by
  induction calls generalizing s with
  | nil => trivial
  | cons call rest ih =>
    have hkeep' : ∀ keep, Call.prune keep ∈ rest → 1 ≤ keep :=
      fun keep hmem => hkeep keep (List.mem_cons_of_mem _ hmem)
    cases call with
    | set now random data =>
      simp only [List.filterMap_cons, Call.millisecond?] at hapart hbits hids
      obtain ⟨hlater, hapart⟩ := List.pairwise_cons.mp hapart
      refine ⟨fun id hid => ?_, ih hapart (fun m hm => hbits m (List.mem_cons_of_mem _ hm)) hkeep' ?_⟩
      · exact (hids id hid _ List.mem_cons_self).trans_le (le_newId (hbits _ List.mem_cons_self))
      · intro id hid m hm
        rcases mem_keys_step hid with hold | ⟨_, _, _, hcall, rfl⟩
        · exact hids id hold m (List.mem_cons_of_mem _ hm)
        · cases hcall
          exact newId_lt (hlater m hm)
    | prune keep =>
      simp only [List.filterMap_cons, Call.millisecond?] at hapart hbits hids
      refine ⟨hkeep keep List.mem_cons_self, ih hapart hbits hkeep' fun id hid m hm => ?_⟩
      rcases mem_keys_step hid with hold | ⟨_, _, _, hcall, -⟩
      · exact hids id hold m hm
      · cases hcall

theorem recent_after_prune : Recent (Sequential.run step start
    [.set 0 1 "a", .set 1000 0 "b", .prune 1]) := by
  refine recent_of_run _ (drawsAbove_of_apart (by decide) (by decide) ?_ fun id hid => by cases hid)
  intro keep hmem
  simp only [List.mem_cons, List.not_mem_nil, or_false, reduceCtorEq, false_or,
    Call.prune.injEq] at hmem
  exact hmem.ge

/-- Two changes in one millisecond: the first one stays in force. -/
theorem later_data_hidden :
    let s := Sequential.run step start [.set 0 1 "a", .set 0 0 "b"]
    s.lastSet = some "b" ∧ (get s.table).map (·.data) = some "a" := by
  decide +kernel

end Pasion.PolicyDataRepository
