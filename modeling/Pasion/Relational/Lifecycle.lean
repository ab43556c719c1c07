import Pasion.Relational.RowLocks

/-! One row of a table through an interleaving: it is added once at most, and what has been seen of
it does not come undone. -/
namespace Relational

variable {ι σ κ ε α β K R : Type}

/-- Committed rows are `Good`, and one that is `Done` stays so until it is deleted. -/
structure Lifecycle (σ κ K R : Type) where
  row : σ → K → Option R
  lockOf : K → κ
  Good : R → Prop
  Done : R → Prop

/-- What a transaction knows of a row: that it may add it, has seen it, or found it done or gone. -/
structure Notes where
  (mayAdd seen settled : Prop)

namespace Lifecycle

variable (T : Lifecycle σ κ K R) (k : K)

/-- The row is done or gone. -/
def Settled (s : σ) : Prop := ∀ r, T.row s k = some r → T.Done r

/-- The notes after a look at the data. -/
def look (n : Notes) (s : σ) : Notes where
  mayAdd := n.mayAdd ∧ T.row s k = none
  seen := n.seen ∨ T.row s k ≠ none
  settled := n.settled ∨ (n.seen ∨ T.row s k ≠ none) ∧ T.Settled k s

structure Agrees (n : Notes) (s : σ) : Prop where
  good : ∀ r, T.row s k = some r → T.Good r
  mayAdd : n.mayAdd → T.row s k = none
  settled : n.settled → T.Settled k s

structure Guar (n : Notes) (s : σ) (e : Effect σ κ) : Prop where
  good : ∀ r, T.row (e.write s) k = some r → T.Good r
  done : ∀ r, T.row s k = some r → T.Done r → T.Settled k (e.write s)
  adds : T.row s k = none → T.row (e.write s) k ≠ none → n.mayAdd

/-- Writes are under locks and meet the guarantee or roll back; a commit of `a` meets `Q a`. -/
def Uses (Q : α → Notes → Prop) : Txn σ κ ε α → Notes → Prop
  | .commit a, n => Q a n
  | .rollback _, _ => True
  | .commitError _, _ => True
  | .read next, n => ∀ s, T.Agrees k n s → Uses Q (next s) (T.look k n s)
  | .write effect next, n => ∀ s, T.Agrees k n s → (effect s).RowWise T.row T.lockOf ∧
    ((∃ e, next s = .rollback e) ∨ T.Guar k n s (effect s) ∧
      Uses Q (next s) (T.look k (T.look k n s) ((effect s).write s)))

variable {T k} {n : Notes} {s : σ} {w e : Effect σ κ}

theorem Uses.bind {Q : β → Notes → Prop} {x : Txn σ κ ε α} {f : α → Txn σ κ ε β}
    (h : T.Uses k (fun a n => T.Uses k Q (f a) n) x n) : T.Uses k Q (x >>= f) n := by
  change T.Uses k Q (x.bind f) n
  induction x generalizing n with
  | commit a => exact h
  | rollback e => trivial
  | commitError e => trivial
  | read next ih => exact fun s hs => ih s (h s hs)
  | write effect next ih =>
    intro s hs
    obtain ⟨hrow, ⟨e, he⟩ | ⟨hguar, hnext⟩⟩ := h s hs
    · refine ⟨hrow, .inl ⟨e, ?_⟩⟩
      change (next s).bind f = .rollback e
      rw [he]
      rfl
    · exact ⟨hrow, .inr ⟨hguar, ih s hnext⟩⟩

theorem Uses.mono {Q Q' : α → Notes → Prop} {x : Txn σ κ ε α} (h : T.Uses k Q x n)
    (hQ : ∀ a n, Q a n → Q' a n) : T.Uses k Q' x n := by
  induction x generalizing n with
  | commit a => exact hQ a n h
  | rollback e => trivial
  | commitError e => trivial
  | read next ih => exact fun s hs => ih s (h s hs)
  | write effect next ih =>
    intro s hs
    obtain ⟨hrow, hend | ⟨hguar, hnext⟩⟩ := h s hs
    · exact ⟨hrow, .inl hend⟩
    · exact ⟨hrow, .inr ⟨hguar, ih s hnext⟩⟩

theorem guar_of_eq (hs : T.Agrees k n s) (h : T.row (e.write s) k = T.row s k) :
    T.Guar k n s e where
  good r hr := hs.good r (h ▸ hr)
  done r hr hdone r' hr' := by
    rw [h, hr] at hr'
    exact Option.some.inj hr' ▸ hdone
  adds hnone hsome := absurd (h.trans hnone) hsome

/-- The place of a running transaction; only the `owner` of the row may have added it. -/
structure Stands (T : Lifecycle σ κ K R) (k : K) (owner : Prop) (n : Notes) (d : σ)
    (w : Effect σ κ) : Prop where
  agrees : T.Agrees k n (w.write d)
  done : ∀ r, T.row d k = some r → T.Done r → T.Settled k (w.write d)
  adds : T.row d k = none → T.row (w.write d) k ≠ none → owner
  seen : n.settled → n.seen
  unseen : n.mayAdd → owner ∧ ¬n.seen

namespace Stands

variable {owner : Prop} {d : σ}

theorem look (h : T.Stands k owner n d w) : T.Stands k owner (T.look k n (w.write d)) d w where
  agrees := ⟨h.agrees.good, fun hmay => hmay.2, fun hset => hset.elim h.agrees.settled And.right⟩
  done := h.done
  adds := h.adds
  seen hset := hset.elim (fun hn => .inl (h.seen hn)) And.left
  unseen hmay := ⟨(h.unseen hmay.1).1,
    fun hseen => hseen.elim (h.unseen hmay.1).2 (fun hsome => hsome hmay.2)⟩

/-- A write that meets the guarantee, and a look at what it leaves. -/
theorem write (h : T.Stands k owner n d w) (he : T.Guar k n (w.write d) e)
    (hdata : owner → T.row d k = none) :
    T.Stands k owner (T.look k (T.look k n (w.write d)) (e.write (w.write d))) d (w.seq e) := by
  have hseen : (n.seen ∨ T.row (w.write d) k ≠ none) → T.row (w.write d) k = none →
      T.row (e.write (w.write d)) k = none := by
    intro hseen hnone
    by_contra hsome
    exact (h.unseen (he.adds hnone hsome)).2 (hseen.resolve_right fun hne => hne hnone)
  have hsettled : (n.seen ∨ T.row (w.write d) k ≠ none) → T.Settled k (w.write d) →
      T.Settled k (e.write (w.write d)) := by
    intro hs hset r' hr'
    cases hr : T.row (w.write d) k with
    | none =>
      rw [hseen hs hr] at hr'
      cases hr'
    | some r => exact he.done r hr (hset r hr) r' hr'
  refine ⟨⟨he.good, fun hmay => hmay.2, fun hset => ?_⟩, fun r hr hdone r' hr' => ?_,
    fun hnone hsome => ?_, fun hset => ?_, fun hmay => ?_⟩
  · rcases hset with (hset | hset) | hset
    · exact hsettled (.inl (h.seen hset)) (h.agrees.settled hset)
    · exact hsettled hset.1 hset.2
    · exact hset.2
  · cases hw : T.row (w.write d) k with
    | none =>
      -- the row was deleted, and only its owner could add it
      have howner : owner := by
        refine (h.unseen (he.adds hw ?_)).1
        rw [show T.row (e.write (w.write d)) k = some r' from hr']
        simp
      rw [hdata howner] at hr
      cases hr
    | some r₁ => exact he.done r₁ hw (h.done r hr hdone r₁ hw) r' hr'
  · cases hw : T.row (w.write d) k with
    | none => exact (h.unseen (he.adds hw hsome)).1
    | some r => exact h.adds hnone (by simp [hw])
  · exact hset.elim (fun hset => .inl (h.look.seen hset)) And.left
  · refine ⟨(h.unseen hmay.1.1).1, fun hseen => ?_⟩
    exact hseen.elim (h.look.unseen hmay.1).2 (fun hsome => hsome hmay.2)

/-- The commit of another transaction, under other locks. -/
theorem others [DecidableEq κ] {owner' : Prop} {n' : Notes} {w' : Effect σ κ}
    (h : T.Stands k owner n d w) (h' : T.Stands k owner' n' d w')
    (hw : w.RowWise T.row T.lockOf) (hw' : w'.RowWise T.row T.lockOf)
    (hdisjoint : w.locks.Disjoint w'.locks) (hunseen : owner' → ¬n.seen)
    (howner : owner → ¬owner') (hdata : owner → T.row d k = none) :
    T.Stands k owner n (w'.write d) w := by
  have hview := hw.merge hw' hdisjoint d k
  by_cases hlock : T.lockOf k ∈ w.locks
  · rw [if_pos hlock] at hview
    have hdk := hw'.untouched d k (hdisjoint hlock)
    refine ⟨⟨fun r hr => ?_, fun hmay => ?_, fun hset r hr => ?_⟩, fun r hr hdone r' hr' => ?_,
      fun hnone hsome => ?_, h.seen, h.unseen⟩
    · exact h.agrees.good r (hview ▸ hr)
    · exact hview.trans (h.agrees.mayAdd hmay)
    · exact h.agrees.settled hset r (hview ▸ hr)
    · exact h.done r (hdk ▸ hr) hdone r' (hview ▸ hr')
    · exact h.adds (hdk ▸ hnone) (hview ▸ hsome)
  · rw [if_neg hlock] at hview
    have hwk := hw.untouched d k hlock
    refine ⟨⟨fun r hr => ?_, fun hmay => ?_, fun hset r hr => ?_⟩, fun r hr hdone r' hr' => ?_,
      fun hnone hsome => ?_, h.seen, h.unseen⟩
    · exact h'.agrees.good r (hview ▸ hr)
    · by_contra hsome
      have hown := (h.unseen hmay).1
      exact howner hown (h'.adds (hdata hown) (hview ▸ hsome))
    · have hdset := h.agrees.settled hset
      cases hd : T.row d k with
      | none =>
        refine absurd (h.seen hset) (hunseen (h'.adds hd ?_))
        rw [← hview, hr]
        simp
      | some r₀ => exact h'.done r₀ hd (hdset r₀ (hwk.trans hd)) r (hview ▸ hr)
    · rw [hview] at hr'
      exact Option.some.inj (hr.symm.trans hr') ▸ hdone
    · exact absurd (hview.trans hnone) hsome

end Stands

/-- Every transaction in flight keeps to its notes on the row, or is about to roll back. -/
structure Lives (T : Lifecycle σ κ K R) (k : K) (owner : ι → Prop) (n : ι → Notes)
    (c : Config ι σ κ ε α) : Prop where
  good : ∀ r, T.row c.data k = some r → T.Good r
  rowWise : ∀ i, (c.threads i).phase = .running → (c.threads i).pending.RowWise T.row T.lockOf
  fresh : ∀ i, (c.threads i).phase = .running → owner i →
    T.row c.data k = none ∧ ∀ j, j ≠ i → (c.threads j).phase = .running → ¬(n j).seen
  todo : ∀ i, (c.threads i).phase = .running → (∃ e, (c.threads i).rest = .rollback e) ∨
    T.Stands k (owner i) (n i) c.data (c.threads i).pending ∧
      T.Uses k (fun _ _ => True) (c.threads i).rest (n i)
  locks : c.LocksHeld

namespace Lives

variable {owner : ι → Prop} {notes : ι → Notes} {c c' : Config ι σ κ ε α} {i : ι}
  {p : ι → Txn σ κ ε α}

theorem start (hgood : ∀ r, T.row s k = some r → T.Good r)
    (howner : ∀ i, owner i → T.row s k = none)
    (hp : ∀ i, T.Uses k (fun _ _ => True) (p i) ⟨owner i, False, False⟩) :
    T.Lives k owner (fun i => ⟨owner i, False, False⟩) (Config.start s p) where
  good := hgood
  rowWise _ _ := Effect.rowWise_idle
  fresh i _ hi := ⟨howner i hi, fun _ _ _ h => h⟩
  todo i _ := .inr ⟨⟨⟨hgood, howner i, False.elim⟩, fun _ hr hdone _ hr' =>
    Option.some.inj (hr.symm.trans hr') ▸ hdone, fun hnone hsome => absurd hnone hsome,
    False.elim, fun h => ⟨h, id⟩⟩, hp i⟩
  locks := .start s p

/-- No other transaction in flight owns a row that one of them sees. -/
theorem not_owner (howner : ∀ i j, owner i → owner j → i = j) (h : T.Lives k owner notes c)
    (hi : (c.threads i).phase = .running)
    (hstands : T.Stands k (owner i) (notes i) c.data (c.threads i).pending)
    (hseen : (T.look k (notes i) (c.view i)).seen) {j : ι} (hji : j ≠ i)
    (hj : (c.threads j).phase = .running) : ¬owner j := by
  intro hown
  obtain ⟨hnone, hunseen⟩ := h.fresh j hj hown
  rcases hseen with hseen | hsome
  · exact hunseen i (Ne.symm hji) hi hseen
  · exact hji (howner j i hown (hstands.adds hnone hsome))

variable [DecidableEq ι]

theorem rolledBack (h : T.Lives k owner notes c) (e : Option ε) :
    T.Lives k owner notes (c.finish i c.data (.rolledBack e)) := by
  have hrunning : ∀ j, ((c.finish i c.data (.rolledBack e)).threads j).phase = .running →
      j ≠ i ∧ (c.finish i c.data (.rolledBack e)).threads j = c.threads j :=
    fun j hj => Config.running_of_finish (by simp) hj
  refine ⟨h.good, fun j hj => ?_, fun j hj hown => ?_, fun j hj => ?_, h.locks.finish (by simp)⟩
  · obtain ⟨-, heq⟩ := hrunning j hj
    rw [heq] at hj ⊢
    exact h.rowWise j hj
  · obtain ⟨-, heq⟩ := hrunning j hj
    rw [heq] at hj
    refine ⟨(h.fresh j hj hown).1, fun m hm hrun => ?_⟩
    obtain ⟨-, heqm⟩ := hrunning m hrun
    exact (h.fresh j hj hown).2 m hm (heqm ▸ hrun)
  · obtain ⟨-, heq⟩ := hrunning j hj
    rw [heq] at hj ⊢
    exact h.todo j hj

/-- A statement of one transaction, with the notes that it leaves. -/
theorem advance (h : T.Lives k owner notes c) (hi : (c.threads i).phase = .running)
    {rest : Txn σ κ ε α} (ks : List κ)
    (hrow : w.RowWise T.row T.lockOf)
    (hlocks : ∀ k ∈ w.locks, k ∈ (c.threads i).pending.locks ∨ k ∈ ks)
    (hfree : ∀ k ∈ ks, ∀ j, (k, j) ∈ c.held → j = i)
    (hseen : n.seen → ∀ j, j ≠ i → (c.threads j).phase = .running → ¬owner j)
    (htodo : (∃ e, rest = .rollback e) ∨ T.Stands k (owner i) n c.data w ∧
      T.Uses k (fun _ _ => True) rest n) :
    T.Lives k owner (fun j => if j = i then n else notes j)
      { c.setThread i ⟨rest, w, .running⟩ with
        held := c.held ++ ks.map (fun k => (k, i)) } := by
  have hne : ∀ j, j ≠ i → (c.setThread i ⟨rest, w, .running⟩).threads j = c.threads j :=
    fun j hj => Config.setThread_ne _ _ hj
  have hrun : ∀ j, ((c.setThread i ⟨rest, w, .running⟩).threads j).phase = .running →
      (c.threads j).phase = .running := by
    intro j hj
    by_cases hji : j = i
    · exact hji ▸ hi
    · exact hne j hji ▸ hj
  refine ⟨h.good, fun j hj => ?_, fun j hj hown => ⟨(h.fresh j (hrun j hj) hown).1, ?_⟩,
    fun j hj => ?_, h.locks.advance hi hlocks hfree⟩
  · by_cases hji : j = i
    · subst hji
      simpa using hrow
    · simpa [hne j hji] using h.rowWise j (hrun j hj)
  · intro m hm hmrun hmseen
    by_cases hmi : m = i
    · subst hmi
      rw [if_pos rfl] at hmseen
      exact hseen hmseen j (Ne.symm hm) (hrun j hj) hown
    · rw [if_neg hmi] at hmseen
      exact (h.fresh j (hrun j hj) hown).2 m hm (hrun m hmrun) hmseen
  · by_cases hji : j = i
    · subst hji
      simpa [Config.setThread] using htodo
    · simpa [hne j hji, hji, Config.setThread] using h.todo j (hrun j hj)

variable [DecidableEq κ] (howner : ∀ i j, owner i → owner j → i = j)
include howner

theorem committed (h : T.Lives k owner notes c) (hi : (c.threads i).phase = .running)
    (hstands : T.Stands k (owner i) (notes i) c.data (c.threads i).pending) (r : Except ε α) :
    T.Lives k owner notes (c.finish i (c.view i) (.committed r)) := by
  have hrunning : ∀ j, ((c.finish i (c.view i) (.committed r)).threads j).phase = .running →
      j ≠ i ∧ (c.finish i (c.view i) (.committed r)).threads j = c.threads j :=
    fun j hj => Config.running_of_finish (by simp) hj
  have hdata : ∀ j, j ≠ i → (c.threads j).phase = .running → owner j →
      T.row (c.view i) k = none := by
    intro j hji hj hown
    by_contra hsome
    exact hji (howner j i hown (hstands.adds (h.fresh j hj hown).1 hsome))
  refine ⟨hstands.agrees.good, fun j hj => ?_, fun j hj hown => ?_, fun j hj => ?_,
    h.locks.finish (by simp)⟩
  · obtain ⟨-, heq⟩ := hrunning j hj
    rw [heq] at hj ⊢
    exact h.rowWise j hj
  · obtain ⟨hji, heq⟩ := hrunning j hj
    rw [heq] at hj
    refine ⟨hdata j hji hj hown, fun m hm hrun => ?_⟩
    obtain ⟨-, heqm⟩ := hrunning m hrun
    exact (h.fresh j hj hown).2 m hm (heqm ▸ hrun)
  · obtain ⟨hji, heq⟩ := hrunning j hj
    rw [heq] at hj ⊢
    refine (h.todo j hj).imp_right fun ⟨hs, huses⟩ => ⟨?_, huses⟩
    exact hs.others hstands (h.rowWise j hj) (h.rowWise i hi) (h.locks.disjoint hji hj hi)
      (fun hown => (h.fresh i hi hown).2 j hji hj) (fun hj' hi' => hji (howner j i hj' hi'))
      (fun hown => (h.fresh j hj hown).1)

theorem step (h : T.Lives k owner notes c) {x : ι × Action}
    (hstep : c.step? x.1 x.2 = some c') : ∃ notes', T.Lives k owner notes' c' := by
  obtain ⟨i, a⟩ := x
  obtain ⟨hi, hcases⟩ := Config.step?_cases hstep
  have htodo := h.todo i hi
  have hrow := h.rowWise i hi
  rcases hcases with ⟨next, -, hrest, rfl⟩ | ⟨effect, next, -, hrest, hfree, rfl⟩ |
    ⟨r, hr, rfl⟩ | ⟨e, rfl⟩
  · rw [hrest] at htodo
    obtain ⟨e, he⟩ | ⟨hstands, huses⟩ := htodo
    · cases he
    have hnext := h.advance hi [] hrow (fun k hk => .inl hk) (by simp)
      (fun hseen j hji hj => not_owner howner h hi hstands hseen hji hj)
      (.inr ⟨hstands.look, huses _ hstands.agrees⟩)
    exact ⟨_, by simpa [hi, Config.setThread, Config.view] using hnext⟩
  · rw [hrest] at htodo
    obtain ⟨e, he⟩ | ⟨hstands, huses⟩ := htodo
    · cases he
    obtain ⟨heffect, ⟨e, he⟩ | ⟨hguar, hnext⟩⟩ := huses _ hstands.agrees
    · exact ⟨_, h.advance hi _ (hrow.seq heffect) (fun k hk => List.mem_append.mp hk)
        (Config.free_of_unlocked hfree)
        (fun hseen j hji hj => not_owner howner h hi hstands (.inl hseen) hji hj) (.inl ⟨e, he⟩)⟩
    · refine ⟨_, h.advance hi _ (hrow.seq heffect) (fun k hk => List.mem_append.mp hk)
        (Config.free_of_unlocked hfree) (fun hseen j hji hj hown => ?_)
        (.inr ⟨hstands.write hguar fun hown => (h.fresh i hi hown).1, hnext⟩)⟩
      rcases hseen with hseen | hsome
      · exact not_owner howner h hi hstands hseen hji hj hown
      · by_cases hnone : T.row (c.view i) k = none
        · exact hji (howner j i hown (hstands.unseen (hguar.adds hnone hsome)).1)
        · exact not_owner howner h hi hstands (.inr hnone) hji hj hown
  · rcases htodo with ⟨e, he⟩ | ⟨hstands, -⟩
    · rcases hr with ⟨x, -, hrest⟩ | ⟨e', -, hrest⟩ <;> rw [hrest] at he <;> cases he
    · exact ⟨notes, h.committed howner hi hstands r⟩
  · exact ⟨notes, h.rolledBack e⟩

/-- However the transactions interleave, the committed row stays good. -/
theorem good_of_run {xs : List (ι × Action)}
    (hgood : ∀ r, T.row s k = some r → T.Good r) (hnone : ∀ i, owner i → T.row s k = none)
    (hp : ∀ i, T.Uses k (fun _ _ => True) (p i) ⟨owner i, False, False⟩)
    (hrun : (Config.start s p).run xs = some c) : ∀ r, T.row c.data k = some r → T.Good r := by
  obtain ⟨notes, hlives⟩ := Config.run_induct (P := fun _ _ => true)
    (I := fun c => ∃ notes, T.Lives k owner notes c)
    (fun c x c' ⟨_, hc⟩ _ hstep => hc.step howner hstep) ⟨_, Lives.start hgood hnone hp⟩
    (Config.along_true _ xs) hrun
  exact hlives.good

end Lives
end Lifecycle
end Relational
