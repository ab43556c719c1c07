import Mathlib.Data.List.Sort

/-! Lists put in the order of a score, where equal scores keep the order of the list. -/
namespace Ranking

variable {α : Type} (score : α → ℕ)
variable {l : List α}

def byScore (l : List α) : List α := l.insertionSort (fun a b => score a ≤ score b)

instance total : Std.Total (fun a b => score a ≤ score b) := ⟨fun a b => Nat.le_total (score a) (score b)⟩

instance isTrans : IsTrans α (fun a b => score a ≤ score b) := ⟨fun _ _ _ => Nat.le_trans⟩

@[simp]
theorem mem_byScore {a : α} : a ∈ byScore score l ↔ a ∈ l := List.mem_insertionSort _

@[simp] theorem byScore_eq_nil {l : List α} : byScore score l = [] ↔ l = [] := by
  rw [← List.length_eq_zero_iff, byScore, List.length_insertionSort, List.length_eq_zero_iff]

/-- The last of the order has the highest score. -/
theorem le_of_getLast? {m a : α} (h : (byScore score l).getLast? = some m)
    (ha : a ∈ l) : score a ≤ score m := by
  have hsorted := List.pairwise_insertionSort (fun a b => score a ≤ score b) l
  obtain ⟨init, hinit⟩ := List.getLast?_eq_some_iff.mp h
  have hmem : a ∈ byScore score l := (mem_byScore score).mpr ha
  rw [hinit] at hmem
  change (byScore score l).Pairwise _ at hsorted
  rw [hinit, List.pairwise_append] at hsorted
  obtain hleft | hlast := List.mem_append.mp hmem
  · exact hsorted.2.2 a hleft m List.mem_cons_self
  · rw [List.mem_singleton.mp hlast]

theorem filter_orderedInsert (p : α → Bool) (a : α)
    (hl : l.Pairwise (fun a b => score a ≤ score b)) :
    (l.orderedInsert (fun a b => score a ≤ score b) a).filter p =
      if p a then (l.filter p).orderedInsert (fun a b => score a ≤ score b) a else l.filter p := by
  induction l with
  | nil => cases hp : p a <;> simp [hp]
  | cons b rest ih =>
    obtain ⟨hb, hrest⟩ := List.pairwise_cons.mp hl
    by_cases hab : score a ≤ score b
    · rw [List.orderedInsert_cons, if_pos hab]
      cases hp : p a with
      | false => simp [hp]
      | true =>
        rw [List.filter_cons_of_pos hp, if_pos rfl]
        -- everything that is left has at least the score of `b`, so `a` stays in front
        cases hfilter : (b :: rest).filter p with
        | nil => simp
        | cons c tail =>
          have hc : c ∈ b :: rest := List.mem_of_mem_filter (hfilter ▸ List.mem_cons_self)
          have hac : score a ≤ score c := by
            obtain rfl | hc := List.mem_cons.mp hc
            · exact hab
            · exact hab.trans (hb c hc)
          rw [List.orderedInsert_cons, if_pos hac]
    · rw [List.orderedInsert_cons, if_neg hab]
      cases hpb : p b with
      | false =>
        rw [List.filter_cons_of_neg (by simp [hpb]), List.filter_cons_of_neg (by simp [hpb])]
        exact ih hrest
      | true =>
        rw [List.filter_cons_of_pos hpb, List.filter_cons_of_pos hpb, ih hrest]
        cases hp : p a with
        | false => simp
        | true => rw [if_pos rfl, if_pos rfl, List.orderedInsert_cons, if_neg hab]

/-- Leaving elements out does not change the order of the others. -/
theorem filter_byScore (p : α → Bool) (l : List α) :
    (byScore score l).filter p = byScore score (l.filter p) := by
  induction l with
  | nil => rfl
  | cons a rest ih =>
    have hsorted := List.pairwise_insertionSort (fun a b => score a ≤ score b) rest
    unfold byScore at ih ⊢
    rw [List.insertionSort_cons, filter_orderedInsert score p a hsorted, ih]
    cases hp : p a with
    | false => rw [List.filter_cons_of_neg (by simp [hp]), if_neg (by simp)]
    | true => rw [List.filter_cons_of_pos hp, if_pos rfl, List.insertionSort_cons]

section Leader

variable [DecidableEq α]

/-- One element comes before another: by its score, or with the same score by its place. -/
def Before (l : List α) (a b : α) : Prop :=
  score a < score b ∨ score a = score b ∧ l.idxOf a < l.idxOf b

theorem before_of_head? {l : List α} {m : α} (h : (byScore score l).head? = some m) :
    ∀ a ∈ l, a ≠ m → Before score l m a := by
  induction l generalizing m with
  | nil => simp
  | cons b rest ih =>
    intro a ha hne
    unfold byScore at h ih
    rw [List.insertionSort_cons] at h
    cases hsort : rest.insertionSort (fun a b => score a ≤ score b) with
    | nil =>
      have hrest : rest = [] := (byScore_eq_nil score).mp hsort
      rw [hsort] at h
      cases h
      rw [hrest] at ha
      exact absurd (List.mem_singleton.mp ha) hne
    | cons c tail =>
      have hhead : (rest.insertionSort (fun a b => score a ≤ score b)).head? = some c := by
        rw [hsort]
        rfl
      have hc := ih hhead
      have hmin : ∀ d ∈ rest, score c ≤ score d := by
        intro d hd
        by_cases hdc : d = c
        · rw [hdc]
        · obtain hlt | ⟨heq, -⟩ := hc d hd hdc
          · exact hlt.le
          · exact heq.le
      rw [hsort] at h
      by_cases hbc : score b ≤ score c
      · rw [List.orderedInsert_cons, if_pos hbc] at h
        cases h
        have hrest : a ∈ rest := (List.mem_cons.mp ha).resolve_left hne
        have hle : score b ≤ score a := hbc.trans (hmin a hrest)
        obtain hlt | heq := hle.lt_or_eq
        · exact Or.inl hlt
        · refine Or.inr ⟨heq, ?_⟩
          rw [List.idxOf_cons_self, List.idxOf_cons_ne _ (Ne.symm hne)]
          exact Nat.succ_pos _
      · rw [List.orderedInsert_cons, if_neg hbc] at h
        cases h
        have hbm : b ≠ m := fun heq => hbc (by rw [heq])
        obtain rfl | hrest := List.mem_cons.mp ha
        · exact Or.inl (Nat.lt_of_not_le hbc)
        · by_cases hab : a = b
          · rw [hab]
            exact Or.inl (Nat.lt_of_not_le hbc)
          · obtain hlt | ⟨heq, hidx⟩ := hc a hrest hne
            · exact Or.inl hlt
            · refine Or.inr ⟨heq, ?_⟩
              rw [List.idxOf_cons_ne _ hbm, List.idxOf_cons_ne _ (Ne.symm hab)]
              exact Nat.succ_lt_succ hidx

theorem Before.asymm {l : List α} {a b : α} (h : Before score l a b) : ¬Before score l b a := by
  unfold Before at h ⊢
  omega

/-- The first passes a test if and only if all that fail it come after one that passes. -/
theorem head?_satisfies_iff (P : α → Prop) (l : List α) :
    (∀ m, (byScore score l).head? = some m → P m) ↔
      ∀ a ∈ l, ¬P a → ∃ b ∈ l, P b ∧ Before score l b a := by
  constructor
  · intro hhead a ha hP
    cases hsort : byScore score l with
    | nil =>
      rw [(byScore_eq_nil score).mp hsort] at ha
      cases ha
    | cons m tail =>
      have hm : (byScore score l).head? = some m := by rw [hsort]; rfl
      have hmem : m ∈ l := (mem_byScore score).mp (hsort ▸ List.mem_cons_self)
      have hne : a ≠ m := fun heq => hP (heq ▸ hhead m hm)
      exact ⟨m, hmem, hhead m hm, before_of_head? score hm a ha hne⟩
  · intro hafter m hm
    by_contra hP
    have hmem : m ∈ l := (mem_byScore score).mp (List.mem_of_mem_head? hm)
    obtain ⟨b, hb, hPb, hbefore⟩ := hafter m hmem hP
    have hne : b ≠ m := fun heq => hP (heq ▸ hPb)
    exact (before_of_head? score hm b hb hne).asymm score hbefore

end Leader

end Ranking
