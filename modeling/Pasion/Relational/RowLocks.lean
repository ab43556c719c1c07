import Pasion.Relational.Rely

/-! Rows that are written only under their locks, and tables whose rows are never lost. -/
namespace Relational

variable {ι σ κ ε α K U R : Type}

/-- The effect works row by row, and only on rows whose lock it takes. -/
structure Effect.RowWise (row : σ → K → Option R) (lockOf : K → κ) (e : Effect σ κ) : Prop where
  untouched : ∀ s k, lockOf k ∉ e.locks → row (e.write s) k = row s k
  byRow : ∀ s s' k, row s k = row s' k → row (e.write s) k = row (e.write s') k

namespace Effect

variable {row : σ → K → Option R} {lockOf : K → κ} {e w w' : Effect σ κ}

theorem rowWise_of_eq (h : ∀ s, row (e.write s) = row s) : e.RowWise row lockOf where
  untouched s k _ := congrFun (h s) k
  byRow s s' k heq := by rw [h s, h s', heq]

/-- Each row becomes what `f` makes of it, and stays where its lock is not taken. -/
theorem rowWise_of_forall (f : K → Option R → Option R)
    (hrow : ∀ s k, row (e.write s) k = f k (row s k))
    (hlock : ∀ k r, lockOf k ∉ e.locks → f k r = r) : e.RowWise row lockOf where
  untouched s k hk := (hrow s k).trans (hlock k _ hk)
  byRow s s' k heq := by rw [hrow, hrow, heq]

theorem rowWise_idle : (idle : Effect σ κ).RowWise row lockOf := rowWise_of_eq fun _ => rfl

theorem RowWise.seq (hw : w.RowWise row lockOf) (he : e.RowWise row lockOf) :
    (w.seq e).RowWise row lockOf where
  untouched s k hk := by
    obtain ⟨hkw, hke⟩ := not_or.mp (fun h => hk (List.mem_append.mpr h))
    exact (he.untouched _ k hke).trans (hw.untouched s k hkw)
  byRow s s' k heq := he.byRow _ _ k (hw.byRow s s' k heq)

/-- Writes under disjoint locks merge: each row is as the one that holds its lock leaves it. -/
theorem RowWise.merge [DecidableEq κ] (hw : w.RowWise row lockOf) (hw' : w'.RowWise row lockOf)
    (hdisjoint : w.locks.Disjoint w'.locks) (s : σ) (k : K) :
    row (w.write (w'.write s)) k =
      if lockOf k ∈ w.locks then row (w.write s) k else row (w'.write s) k := by
  split_ifs with hk
  · exact hw.byRow _ _ k (hw'.untouched s k (hdisjoint hk))
  · exact hw.untouched _ k hk

end Effect

/-- A table whose rows evolve by `Step` and stay `Good`, with a unique column. -/
structure Keyed (σ κ K U R : Type) where
  row : σ → K → Option R
  lockOf : K → κ
  col : R → U
  colLock : U → κ
  Step : R → R → Prop
  Good : R → Prop
  step_refl : ∀ r, Step r r
  step_trans : ∀ {r r' r''}, Step r r' → Step r' r'' → Step r r''
  col_step : ∀ {r r'}, Step r r' → col r' = col r
  good_step : ∀ {r r'}, Step r r' → Good r → Good r'

namespace Keyed

variable (T : Keyed σ κ K U R)

def Evolves (s s' : σ) : Prop := ∀ k r, T.row s k = some r → ∃ r', T.row s' k = some r' ∧ T.Step r r'

def Unique (s : σ) : Prop :=
  ∀ k k' r r', T.row s k = some r → T.row s k' = some r' → T.col r = T.col r' → k = k'

/-- New rows are good, alone with their value of the unique column, and that is locked. -/
def Adds (locks : List κ) (s s' : σ) : Prop :=
  ∀ k r, T.row s k = none → T.row s' k = some r → T.colLock (T.col r) ∈ locks ∧ T.Good r ∧
    ∀ k' r', T.row s' k' = some r' → T.col r' = T.col r → k' = k

structure Pend (d : σ) (w : Effect σ κ) : Prop where
  rowWise : w.RowWise T.row T.lockOf
  evolves : T.Evolves d (w.write d)
  adds : T.Adds w.locks d (w.write d)

structure Guar (s : σ) (e : Effect σ κ) : Prop where
  rowWise : e.RowWise T.row T.lockOf
  evolves : T.Evolves s (e.write s)
  adds : T.Adds e.locks s (e.write s)

structure Rely (s s' : σ) : Prop where
  evolves : T.Evolves s s'
  unique : T.Unique s'

def protocol : Protocol ι σ κ ε α where
  Rely _ := T.Rely
  Guar _ := T.Guar
  Pend := T.Pend
  Hist _ d := T.Unique d ∧ ∀ k r, T.row d k = some r → T.Good r

variable {T} {s s' s'' d : σ} {w w' e : Effect σ κ}

theorem Evolves.refl (s : σ) : T.Evolves s s := fun _ r hr => ⟨r, hr, T.step_refl r⟩

theorem Evolves.trans (h : T.Evolves s s') (h' : T.Evolves s' s'') : T.Evolves s s'' := by
  intro k r hr
  obtain ⟨r', hr', hstep⟩ := h k r hr
  obtain ⟨r'', hr'', hstep'⟩ := h' k r' hr'
  exact ⟨r'', hr'', T.step_trans hstep hstep'⟩

/-- Writes that leave the table alone. -/
theorem guar_of_eq (h : ∀ s, T.row (e.write s) = T.row s) : T.Guar s e where
  rowWise := Effect.rowWise_of_eq h
  evolves k r hr := ⟨r, (congrFun (h s) k).trans hr, T.step_refl r⟩
  adds k r hnone hr := by
    rw [h s, hnone] at hr
    cases hr

theorem unique_of_adds {ks : List κ} (hevolves : T.Evolves s s') (hadds : T.Adds ks s s')
    (hunique : T.Unique s) : T.Unique s' := by
  have hcases : ∀ k r, T.row s' k = some r → (∃ r₀, T.row s k = some r₀ ∧ T.col r = T.col r₀) ∨
      T.row s k = none := by
    intro k r hr
    cases hk : T.row s k with
    | none => exact .inr rfl
    | some r₀ =>
      obtain ⟨r', hr', hstep⟩ := hevolves k r₀ hk
      cases hr.symm.trans hr'
      exact .inl ⟨r₀, rfl, T.col_step hstep⟩
  intro k k' r r' hr hr' hcol
  rcases hcases k r hr with ⟨r₀, hr₀, hcol₀⟩ | hnone
  · rcases hcases k' r' hr' with ⟨r₀', hr₀', hcol₀'⟩ | hnone'
    · exact hunique k k' r₀ r₀' hr₀ hr₀' (hcol₀.symm.trans (hcol.trans hcol₀'))
    · exact (hadds k' r' hnone' hr').2.2 k r hr hcol
  · exact ((hadds k r hnone hr).2.2 k' r' hr' hcol.symm).symm

theorem Pend.write (hw : T.Pend d w) (he : T.Guar (w.write d) e) : T.Pend d (w.seq e) where
  rowWise := hw.rowWise.seq he.rowWise
  evolves := hw.evolves.trans he.evolves
  adds := by
    intro k r hnone hr
    cases hk : T.row (w.write d) k with
    | none =>
      obtain ⟨hlock, hgood, halone⟩ := he.adds k r hk hr
      exact ⟨List.mem_append_right _ hlock, hgood, halone⟩
    | some r₀ =>
      -- the transaction added the row itself, and has changed it since
      obtain ⟨hlock, hgood, halone⟩ := hw.adds k r₀ hnone hk
      obtain ⟨r₁, hr₁, hstep⟩ := he.evolves k r₀ hk
      cases hr.symm.trans hr₁
      rw [T.col_step hstep]
      refine ⟨List.mem_append_left _ hlock, T.good_step hstep hgood, fun k' r' hr' hcol => ?_⟩
      cases hk' : T.row (w.write d) k' with
      | none =>
        have hother := (he.adds k' r' hk' hr').2.2 k r hr ((T.col_step hstep).trans hcol.symm)
        exact hother.symm
      | some r₀' =>
        obtain ⟨r₁', hr₁', hstep'⟩ := he.evolves k' r₀' hk'
        cases hr'.symm.trans hr₁'
        exact halone k' r₀' hk' ((T.col_step hstep').symm.trans hcol)

section Others

variable [DecidableEq κ] (hw : T.Pend d w) (hw' : T.Pend d w')
  (hdisjoint : w.locks.Disjoint w'.locks)
include hw hw' hdisjoint

theorem Pend.evolves_view : T.Evolves (w.write d) (w.write (w'.write d)) := by
  intro k r hr
  rw [hw.rowWise.merge hw'.rowWise hdisjoint]
  split_ifs with hk
  · exact ⟨r, hr, T.step_refl r⟩
  · rw [hw.rowWise.untouched d k hk] at hr
    exact hw'.evolves k r hr

theorem Pend.others : T.Pend (w'.write d) w where
  rowWise := hw.rowWise
  evolves := by
    intro k r hr
    rw [hw.rowWise.merge hw'.rowWise hdisjoint]
    split_ifs with hk
    · rw [hw'.rowWise.untouched d k (hdisjoint hk)] at hr
      exact hw.evolves k r hr
    · exact ⟨r, hr, T.step_refl r⟩
  adds := by
    intro k r hnone hr
    rw [hw.rowWise.merge hw'.rowWise hdisjoint] at hr
    split_ifs at hr with hk
    · rw [hw'.rowWise.untouched d k (hdisjoint hk)] at hnone
      obtain ⟨hlock, hgood, halone⟩ := hw.adds k r hnone hr
      refine ⟨hlock, hgood, fun k' r' hr' hcol => ?_⟩
      rw [hw.rowWise.merge hw'.rowWise hdisjoint] at hr'
      split_ifs at hr' with hk'
      · exact halone k' r' hr' hcol
      · cases hrow : T.row d k' with
        | none =>
          -- the other transaction holds the lock of the same value
          have hlock' := (hw'.adds k' r' hrow hr').1
          rw [hcol] at hlock'
          exact absurd hlock' (hdisjoint hlock)
        | some r₀ =>
          obtain ⟨r₁, hr₁, hstep⟩ := hw'.evolves k' r₀ hrow
          cases hr'.symm.trans hr₁
          refine halone k' r₀ ?_ ((T.col_step hstep).symm.trans hcol)
          rw [hw.rowWise.untouched d k' hk', hrow]
    · rw [hnone] at hr
      cases hr

end Others

theorem Pend.good (hw : T.Pend d w) (hd : ∀ k r, T.row d k = some r → T.Good r) :
    ∀ k r, T.row (w.write d) k = some r → T.Good r := by
  intro k r hr
  cases hk : T.row d k with
  | none => exact (hw.adds k r hk hr).2.1
  | some r₀ =>
    obtain ⟨r', hr', hstep⟩ := hw.evolves k r₀ hk
    cases hr.symm.trans hr'
    exact T.good_step hstep (hd k r₀ hk)

theorem sound [DecidableEq κ] : (T.protocol : Protocol ι σ κ ε α).Sound where
  idle _ := ⟨Effect.rowWise_idle, .refl _, fun k r hnone hr => by
    rw [show T.row (Effect.idle.write _) k = none from hnone] at hr
    cases hr⟩
  write _ hw he := hw.write he
  refl hist hw := ⟨.refl _, unique_of_adds hw.evolves hw.adds hist.1⟩
  trans h h' := ⟨h.evolves.trans h'.evolves, h'.unique⟩
  others hist hw hw' hdisjoint := by
    have hunique := unique_of_adds hw'.evolves hw'.adds hist.1
    have hothers := hw.others hw' hdisjoint
    exact ⟨hothers, hw.evolves_view hw' hdisjoint,
      unique_of_adds hothers.evolves hothers.adds hunique⟩

/-- Every commit keeps the rows good. -/
theorem records {role : ι → Role σ κ ε α} : T.protocol.Records role where
  commit hist hw _ _ _ := ⟨unique_of_adds hw.evolves hw.adds hist.1, hw.good hist.2⟩
  commitError hist hw _ _ _ := ⟨unique_of_adds hw.evolves hw.adds hist.1, hw.good hist.2⟩

end Keyed
end Relational
