import Pasion.Relational.Guarantee
import Pasion.Relational.Rely

/-! A proof rule for transactions that race to mark one row under its lock. -/
namespace Relational

variable {ι σ κ ε α β : Type}

/-- The effect keeps `V`, never clears the mark, and sets it only under the lock `k`. -/
structure Effect.Guards (V mark : σ → Prop) (k : κ) (e : Effect σ κ) : Prop where
  keeps : ∀ s, V s → V (e.write s)
  persists : ∀ s, V s → mark s → mark (e.write s)
  frame : k ∉ e.locks → ∀ s, V s → mark (e.write s) → mark s

/-- After these writes the mark is set, and the lock is held. -/
def Effect.Marks (V mark : σ → Prop) (k : κ) (e : Effect σ κ) : Prop :=
  k ∈ e.locks ∧ ∀ s, V s → mark (e.write s)

namespace Effect

variable {V mark : σ → Prop} {k : κ} {e f : Effect σ κ}

theorem guards_idle : (idle : Effect σ κ).Guards V mark k :=
  ⟨fun _ h => h, fun _ _ h => h, fun _ _ _ h => h⟩

theorem Guards.seq (he : e.Guards V mark k) (hf : f.Guards V mark k) :
    (e.seq f).Guards V mark k where
  keeps s hs := hf.keeps _ (he.keeps s hs)
  persists s hs hm := hf.persists _ (he.keeps s hs) (he.persists s hs hm)
  frame hk s hs hm := by
    obtain ⟨hke, hkf⟩ := not_or.mp (fun h => hk (List.mem_append.mpr h))
    exact he.frame hke s hs (hf.frame hkf _ (he.keeps s hs) hm)

/-- A mark set by a statement stays set by the statements after it. -/
theorem Marks.seq_left (he : e.Marks V mark k) (hke : e.Guards V mark k) (hf : f.Guards V mark k) :
    (e.seq f).Marks V mark k :=
  ⟨List.mem_append_left _ he.1, fun s hs => hf.persists _ (hke.keeps s hs) (he.2 s hs)⟩

theorem Marks.seq_right (he : e.Guards V mark k) (hf : f.Marks V mark k) :
    (e.seq f).Marks V mark k :=
  ⟨List.mem_append_right _ hf.1, fun s hs => hf.2 _ (he.keeps s hs)⟩

end Effect

namespace Txn

variable {V mark : σ → Prop} {k : κ} {p : Txn σ κ ε α} {w w₀ : Effect σ κ}
variable {f : α → Txn σ κ ε β}

/-- Every statement of the transaction keeps to the rules of the race. -/
structure Guarded (V mark : σ → Prop) (k : κ) (p : Txn σ κ ε α) : Prop where
  satisfies : p.Satisfies V (fun _ => Effect.Guards V mark k) (fun _ _ => True) .idle

theorem Satisfies.guards (hp : p.Satisfies V (fun _ => Effect.Guards V mark k) (fun _ _ => True) w₀)
    (hw : w.Guards V mark k) :
    p.Satisfies V (fun _ => Effect.Guards V mark k) (fun _ w' => w'.Guards V mark k) w := by
  induction p generalizing w w₀ with
  | commit a => exact hw
  | rollback e => trivial
  | commitError e => trivial
  | read next ih => exact fun s hs => ih s (hp s hs) hw
  | write effect next ih =>
    exact fun s hs => ⟨(hp s hs).1, ih s (hp s hs).2 (hw.seq (hp s hs).1)⟩

/-- What follows a guarded part may count on the writes so far being guarded. -/
theorem Guarded.bind {Q : β → Effect σ κ → Prop} (hp : p.Guarded V mark k) (hw : w.Guards V mark k)
    (hf : ∀ a w', w'.Guards V mark k → (f a).Satisfies V (fun _ => Effect.Guards V mark k) Q w') :
    (p >>= f).Satisfies V (fun _ => Effect.Guards V mark k) Q w :=
  satisfies_bind.mpr ((hp.satisfies.guards hw).mono fun a w' => hf a w')

theorem Guarded.after (hp : p.Guarded V mark k) (hw : w.Guards V mark k) :
    p.Satisfies V (fun _ => Effect.Guards V mark k) (fun _ _ => True) w :=
  (hp.satisfies.guards hw).mono fun _ _ _ => trivial

/-- What follows a mark keeps it. -/
theorem Guarded.marks (hp : p.Guarded V mark k) (hw : w.Guards V mark k) {P : Prop}
    (hmarks : P → w.Marks V mark k) :
    p.Satisfies V (fun _ => Effect.Guards V mark k) (fun _ w' => P → w'.Marks V mark k) w := by
  have hsatisfies := hp.satisfies
  generalize Effect.idle = w₀ at hsatisfies
  clear hp
  induction p generalizing w w₀ with
  | commit a => exact hmarks
  | rollback e => trivial
  | commitError e => trivial
  | read next ih => exact fun s hs => ih s hw hmarks w₀ (hsatisfies s hs)
  | write effect next ih =>
    intro s hs
    obtain ⟨heffect, hnext⟩ := hsatisfies s hs
    exact ⟨heffect, ih s (hw.seq heffect) (fun hP => (hmarks hP).seq_left hw heffect) _ hnext⟩

theorem Guarded.seq (hp : p.Guarded V mark k)
    (hf : ∀ a, (f a).Guarded V mark k) : (p >>= f).Guarded V mark k :=
  ⟨hp.bind Effect.guards_idle fun a _ hw => (hf a).after hw⟩

theorem guarded_pure (a : α) : (pure a : Txn σ κ ε α).Guarded V mark k := ⟨trivial⟩

theorem guarded_rollback (e : ε) : (rollback e : Txn σ κ ε α).Guarded V mark k := ⟨trivial⟩

theorem guarded_commitError (e : ε) : (commitError e : Txn σ κ ε α).Guarded V mark k := ⟨trivial⟩

theorem guarded_require (c : Bool) (e : ε) : (require c e : Txn σ κ ε Unit).Guarded V mark k :=
  ⟨satisfies_require.mpr fun _ => trivial⟩

theorem guarded_ofOption (o : Option α) (e : ε) :
    (ofOption o e : Txn σ κ ε α).Guarded V mark k :=
  ⟨satisfies_ofOption.mpr fun _ _ => trivial⟩

theorem guarded_ofExcept {δ : Type} (x : Except δ α) (h : δ → ε) :
    (ofExcept x h : Txn σ κ ε α).Guarded V mark k :=
  ⟨satisfies_ofExcept.mpr fun _ _ => trivial⟩

/-- A transaction whose every write is guarded is guarded. -/
theorem Issues.guarded (h : p.Issues (Effect.Guards V mark k)) : p.Guarded V mark k := by
  constructor
  generalize Effect.idle = w
  induction p generalizing w with
  | commit a => trivial
  | rollback e => trivial
  | commitError e => trivial
  | read next ih => exact fun s _ => ih s (h s) w
  | write effect next ih => exact fun s _ => ⟨(h s).1, ih s (h s).2 _⟩

end Txn

/-- Rows with a column that stays as it is and a mark, each row under a lock of its own. -/
structure Markable (σ κ K R C : Type) where
  row : σ → K → Option R
  lockOf : K → κ
  col : R → C
  marked : R → Prop

namespace Markable

variable {K R C : Type} (m : Markable σ κ K R C) (s₀ : σ) (g : K)

/-- The same rows as in `s₀`, with the same values in the column. -/
def Same (s : σ) : Prop := ∀ k, (m.row s k).map m.col = (m.row s₀ k).map m.col

def Marked (s : σ) : Prop := ∃ r, m.row s g = some r ∧ m.marked r

variable {m s₀ g} {e : Effect σ κ}

theorem guards_of_row_eq (h : ∀ s, m.row (e.write s) = m.row s) :
    e.Guards (m.Same s₀) (m.Marked g) (m.lockOf g) where
  keeps s hs := by
    unfold Same
    rw [h]
    exact hs
  persists s _ hm := by
    unfold Marked
    rw [h]
    exact hm
  frame _ s _ hm := by
    unfold Marked at hm
    rwa [h] at hm

variable [DecidableEq K] {k : K} {f : R → R}

/-- An update of one row that keeps the column and sets the mark. -/
theorem guards_of_update
    (hrow : ∀ s k', m.row (e.write s) k' = if k' = k then (m.row s k').map f else m.row s k')
    (hcol : ∀ r, m.col (f r) = m.col r) (hmark : ∀ r, m.marked (f r))
    (hlock : m.lockOf k ∈ e.locks) : e.Guards (m.Same s₀) (m.Marked g) (m.lockOf g) where
  keeps s hs := by
    intro k'
    rw [← hs k', hrow]
    split_ifs
    · rw [Option.map_map]
      exact Option.map_congr fun r _ => hcol r
    · rfl
  persists s _ hm := by
    obtain ⟨r, hr, hmarked⟩ := hm
    unfold Marked
    rw [hrow, hr]
    split_ifs
    · exact ⟨f r, rfl, hmark r⟩
    · exact ⟨r, rfl, hmarked⟩
  frame hk s _ hm := by
    have hne : g ≠ k := by
      rintro rfl
      exact hk hlock
    unfold Marked at hm
    rwa [hrow, if_neg hne] at hm

theorem marks_of_update
    (hrow : ∀ s k', m.row (e.write s) k' = if k' = g then (m.row s k').map f else m.row s k')
    (hmark : ∀ r, m.marked (f r)) (hlock : m.lockOf g ∈ e.locks) (hg : (m.row s₀ g).isSome) :
    e.Marks (m.Same s₀) (m.Marked g) (m.lockOf g) := by
  refine ⟨hlock, fun s hs => ?_⟩
  obtain ⟨r₀, hr₀⟩ := Option.isSome_iff_exists.mp hg
  have hmap := hs g
  rw [hr₀] at hmap
  obtain ⟨r, hr, -⟩ := Option.map_eq_some_iff.mp hmap
  exact ⟨f r, by rw [hrow, if_pos rfl, hr]; rfl, hmark r⟩

end Markable

namespace Config

variable {c : Config ι σ κ ε α}

/-- A statement that takes the lock `k` finds the committed data unmarked. -/
def TakesUnmarked (mark : σ → Prop) (k : κ) (c : Config ι σ κ ε α) (x : ι × Action) : Prop :=
  x.2 = .advance → ∀ e, c.nextEffect x.1 = some e → k ∈ e.locks → ¬mark c.data

theorem takesUnmarked_of_writesWhere {mark : σ → Prop} {k : κ} {test : κ → σ → Bool}
    {x : ι × Action} (hmark : ∀ s, test k s → ¬mark s)
    (h : c.writesWhere test x) : c.TakesUnmarked mark k x := by
  intro hadvance e he hk
  unfold writesWhere at h
  rw [hadvance, he] at h
  exact hmark c.data (List.all_eq_true.mp h k hk)

/-- At most one transaction holds the lock, and at most one contender has committed a result. -/
structure Race (V mark : σ → Prop) (k : κ) (W : ι → Prop) (c : Config ι σ κ ε α) : Prop where
  valid : V c.data
  guards : ∀ i, (c.threads i).pending.Guards V mark k
  todo : ∀ i, (c.threads i).phase = .running →
    (c.threads i).rest.Satisfies V (fun _ => Effect.Guards V mark k)
      (fun _ w => W i → w.Marks V mark k) (c.threads i).pending
  held : ∀ i, (c.threads i).phase = .running → k ∈ (c.threads i).pending.locks → (k, i) ∈ c.held
  exclusive : ∀ i j, (k, i) ∈ c.held → (k, j) ∈ c.held → i = j
  unmarked : ∀ i, (k, i) ∈ c.held → ¬mark c.data
  marked : ∀ i a, W i → (c.threads i).phase = .committed (.ok a) → mark c.data
  unique : ∀ i j a b, W i → W j → (c.threads i).phase = .committed (.ok a) →
    (c.threads j).phase = .committed (.ok b) → i = j

namespace Race

variable {V mark : σ → Prop} {k : κ} {W : ι → Prop} {c c' : Config ι σ κ ε α} {i : ι}

theorem start {s : σ} {p : ι → Txn σ κ ε α} (hs : V s)
    (hp : ∀ i, (p i).Satisfies V (fun _ => Effect.Guards V mark k)
      (fun _ w => W i → w.Marks V mark k) .idle) :
    (Config.start s p).Race V mark k W where
  valid := hs
  guards _ := Effect.guards_idle
  todo i _ := hp i
  held i _ hk := absurd hk List.not_mem_nil
  exclusive i _ hi := absurd hi List.not_mem_nil
  unmarked i hi := absurd hi List.not_mem_nil
  marked i a _ h := by cases h
  unique i j a b _ _ h := by cases h

theorem view (h : c.Race V mark k W) (i : ι) : V (c.view i) := (h.guards i).keeps _ h.valid

variable [DecidableEq ι]

/-- Ending a transaction keeps the race when what it commits keeps `V` and the mark. -/
theorem finish (h : c.Race V mark k W) {s : σ} {phase : Phase ε α} (hph : phase ≠ .running)
    (hs : V s) (hmark : mark c.data → mark s)
    (hframe : (∃ j, j ≠ i ∧ (k, j) ∈ c.held) → mark s → mark c.data)
    (hwin : ∀ a, W i → phase = .committed (.ok a) → mark s ∧ ¬mark c.data) :
    (c.finish i s phase).Race V mark k W := by
  have hphase : ∀ j, (c.finish i s phase).threads j =
      if j = i then { c.threads i with phase } else c.threads j := fun j => rfl
  have hheld : ∀ j, (k, j) ∈ (c.finish i s phase).held ↔ (k, j) ∈ c.held ∧ j ≠ i := by
    intro j
    simp [Config.finish]
  refine ⟨hs, fun j => ?_, fun j hj => ?_, fun j hj hk => ?_, fun j l hj hl => ?_,
    fun j hj hm => ?_, fun j a hW hj => ?_, fun j l a b hWj hWl hj hl => ?_⟩
  · rw [hphase]
    split_ifs with hji
    · exact h.guards i
    · exact h.guards j
  · by_cases hji : j = i
    · rw [hphase, if_pos hji] at hj
      exact absurd hj hph
    · rw [hphase, if_neg hji] at hj ⊢
      exact h.todo j hj
  · by_cases hji : j = i
    · rw [hphase, if_pos hji] at hj
      exact absurd hj hph
    · rw [hphase, if_neg hji] at hj hk
      exact (hheld j).mpr ⟨h.held j hj hk, hji⟩
  · exact h.exclusive j l ((hheld j).mp hj).1 ((hheld l).mp hl).1
  · obtain ⟨hj, hji⟩ := (hheld j).mp hj
    exact h.unmarked j hj (hframe ⟨j, hji, hj⟩ hm)
  · by_cases hji : j = i
    · subst hji
      rw [hphase, if_pos rfl] at hj
      exact (hwin a hW hj).1
    · rw [hphase, if_neg hji] at hj
      exact hmark (h.marked j a hW hj)
  · rw [hphase] at hj hl
    by_cases hji : j = i <;> by_cases hli : l = i
    · rw [hji, hli]
    · -- a contender that committed earlier has marked the data the winner found unmarked
      subst hji
      rw [if_pos rfl] at hj
      rw [if_neg hli] at hl
      exact absurd (h.marked l b hWl hl) (hwin a hWj hj).2
    · subst hli
      rw [if_neg hji] at hj
      rw [if_pos rfl] at hl
      exact absurd (h.marked j a hWj hj) (hwin b hWl hl).2
    · rw [if_neg hji] at hj
      rw [if_neg hli] at hl
      exact h.unique j l a b hWj hWl hj hl

/-- A statement keeps the race when it takes the lock only from nobody and over unmarked data. -/
theorem advance (h : c.Race V mark k W) (hrun : (c.threads i).phase = .running)
    {rest : Txn σ κ ε α} {w : Effect σ κ} (ks : List κ) (hw : w.Guards V mark k)
    (hrest : rest.Satisfies V (fun _ => Effect.Guards V mark k) (fun _ w => W i → w.Marks V mark k) w)
    (hlocks : k ∈ w.locks → k ∈ (c.threads i).pending.locks ∨ k ∈ ks)
    (hfree : k ∈ ks → (∀ j, (k, j) ∈ c.held → j = i) ∧ ¬mark c.data) :
    Race V mark k W { c.setThread i ⟨rest, w, .running⟩ with
      held := c.held ++ ks.map (fun k => (k, i)) } := by
  have hheld : ∀ j, (k, j) ∈ c.held ++ ks.map (fun k => (k, i)) ↔
      (k, j) ∈ c.held ∨ j = i ∧ k ∈ ks := by
    intro j
    constructor
    · intro hj
      rcases List.mem_append.mp hj with hj | hj
      · exact .inl hj
      · obtain ⟨k', hk', heq⟩ := List.mem_map.mp hj
        cases heq
        exact .inr ⟨rfl, hk'⟩
    · rintro (hj | ⟨rfl, hk⟩)
      · exact List.mem_append_left _ hj
      · exact List.mem_append_right _ (List.mem_map_of_mem hk)
  have hself : (c.setThread i ⟨rest, w, .running⟩).threads i = ⟨rest, w, .running⟩ :=
    setThread_self ..
  have hne : ∀ j, j ≠ i → (c.setThread i ⟨rest, w, .running⟩).threads j = c.threads j :=
    fun j hj => setThread_ne _ _ hj
  have hcommitted : ∀ j r, ((c.setThread i ⟨rest, w, .running⟩).threads j).phase = .committed r →
      (c.threads j).phase = .committed r := by
    intro j r hj
    by_cases hji : j = i
    · rw [hji, hself] at hj
      cases hj
    · rwa [hne j hji] at hj
  refine ⟨h.valid, fun j => ?_, fun j hj => ?_, fun j hj hk => (hheld j).mpr ?_,
    fun j l hj hl => ?_, fun j hj => ?_, fun j a hW hj => h.marked j a hW (hcommitted j _ hj),
    fun j l a b hWj hWl hj hl => h.unique j l a b hWj hWl (hcommitted j _ hj) (hcommitted l _ hl)⟩
  · by_cases hji : j = i
    · simpa [hji] using hw
    · simpa [hne j hji] using h.guards j
  · by_cases hji : j = i
    · simpa [hji] using hrest
    · rw [hne j hji] at hj
      simpa [hne j hji] using h.todo j hj
  · by_cases hji : j = i
    · subst hji
      rw [hself] at hk
      exact (hlocks hk).imp (h.held j hrun) (fun hk => ⟨rfl, hk⟩)
    · rw [hne j hji] at hj hk
      exact .inl (h.held j hj hk)
  · rcases (hheld j).mp hj with hj₁ | ⟨hji, hk⟩ <;> rcases (hheld l).mp hl with hl₁ | ⟨hli, hk'⟩
    · exact h.exclusive j l hj₁ hl₁
    · rw [hli]
      exact (hfree hk').1 j hj₁
    · rw [hji]
      exact ((hfree hk).1 l hl₁).symm
    · rw [hji, hli]
  · rcases (hheld j).mp hj with hj | ⟨-, hk⟩
    · exact h.unmarked j hj
    · exact (hfree hk).2

variable [DecidableEq κ]

theorem step (h : c.Race V mark k W) {x : ι × Action} (hx : c.TakesUnmarked mark k x)
    (hstep : c.step? x.1 x.2 = some c') : c'.Race V mark k W := by
  obtain ⟨i, a⟩ := x
  obtain ⟨hrun, hcases⟩ := step?_cases hstep
  have htodo := h.todo i hrun
  rcases hcases with ⟨next, rfl, hrest, rfl⟩ | ⟨effect, next, rfl, hrest, hfree, rfl⟩ |
    ⟨r, hr, rfl⟩ | ⟨e, rfl⟩
  · rw [hrest] at htodo
    have hnext := h.advance hrun [] (h.guards i) (htodo _ (h.view i)) .inl (by simp)
    simpa [hrun, setThread] using hnext
  · rw [hrest] at htodo
    obtain ⟨heff, hnext⟩ := htodo _ (h.view i)
    refine h.advance hrun _ ((h.guards i).seq heff) hnext List.mem_append.mp fun hk => ⟨?_, ?_⟩
    · intro j hj
      have := List.all_eq_true.mp hfree _ hj
      simpa [hk] using this
    · exact hx rfl _ (by simp [nextEffect, hrun, hrest]) hk
  · have hi := h.guards i
    refine h.finish (by simp) (hi.keeps _ h.valid) (hi.persists _ h.valid) ?_ ?_
    · -- the lock is held by another transaction, so this one wrote no mark
      rintro ⟨j, hji, hj⟩
      refine hi.frame (fun hk => hji ?_) _ h.valid
      exact h.exclusive j i hj (h.held i hrun hk)
    · intro x hW hx
      rcases hr with ⟨y, rfl, hrest⟩ | ⟨e, rfl, hrest⟩
      · rw [hrest] at htodo
        obtain ⟨hk, hmark⟩ := htodo hW
        exact ⟨hmark _ h.valid, h.unmarked i (h.held i hrun hk)⟩
      · cases hx
  · exact h.finish (by simp) h.valid id (fun _ => id) (fun a _ ha => by cases ha)

end Race

/-- If every statement that takes the lock finds the row unmarked, one contender commits. -/
theorem race_unique {V mark : σ → Prop} {k : κ} {W : ι → Prop} {s : σ} {p : ι → Txn σ κ ε α}
    [DecidableEq ι] [DecidableEq κ] (hs : V s)
    (hp : ∀ i, (p i).Satisfies V (fun _ => Effect.Guards V mark k) (fun _ w => W i → w.Marks V mark k) .idle)
    {P : Config ι σ κ ε α → ι × Action → Bool}
    (hP : ∀ c x, P c x → c.TakesUnmarked mark k x) {xs : List (ι × Action)}
    (hfree : (start s p).along P xs) (hrun : (start s p).run xs = some c)
    {i j : ι} {a b : α} (hi : W i) (hj : W j)
    (hci : (c.threads i).phase = .committed (.ok a))
    (hcj : (c.threads j).phase = .committed (.ok b)) : i = j := by
  have hrace : c.Race V mark k W :=
    run_induct (fun _ _ _ h hx hstep => h.step (hP _ _ hx) hstep) (Race.start hs hp) hfree hrun
  exact hrace.unique i j a b hi hj hci hcj

end Config
end Relational
