import Pasion.Relational.ReadCommitted

/-! Rely-guarantee reasoning for transactions at read committed isolation. -/
namespace Relational

variable {ι σ κ ε α β : Type}

/-- `Rely w` bounds what others do under the writes `w`; `Allowed` writes meet `Guar`. -/
structure Rules (σ κ : Type) where
  Rely : Effect σ κ → σ → σ → Prop
  Allowed : Effect σ κ → σ → Effect σ κ → Prop
  Guar : Effect σ κ → σ → Effect σ κ → Prop

namespace Txn

/-- The transaction keeps to the rules, and commits where `Post` or `PostE` holds. -/
def Relies (R : Rules σ κ) (PostE : ε → σ → Effect σ κ → Prop) (Post : α → σ → Effect σ κ → Prop) :
    Txn σ κ ε α → σ → Effect σ κ → Prop
  | .commit a, s, w => Post a s w
  | .commitError e, s, w => PostE e s w
  | .rollback _, _, _ => True
  | .read next, s, w => ∀ s', R.Rely w s s' → (next s').Relies R PostE Post s' w
  | .write effect next, s, w => ∀ s', R.Rely w s s' → R.Allowed w s' (effect s') →
    R.Guar w s' (effect s') ∧
      (next s').Relies R PostE Post ((effect s').write s') (w.seq (effect s'))

variable {R : Rules σ κ} {PostE : ε → σ → Effect σ κ → Prop} {Post : α → σ → Effect σ κ → Prop}
  {s : σ} {w : Effect σ κ}
variable {f : α → Txn σ κ ε β}

@[simp]
theorem relies_bind {Post : β → σ → Effect σ κ → Prop} {x : Txn σ κ ε α} :
    (x >>= f).Relies R PostE Post s w ↔
      x.Relies R PostE (fun a s w => (f a).Relies R PostE Post s w) s w := by
  change (x.bind f).Relies R PostE Post s w ↔ _
  induction x generalizing s w with
  | commit a => rfl
  | rollback e => rfl
  | commitError e => rfl
  | read next ih => exact forall₂_congr fun s' _ => ih s'
  | write effect next ih =>
    exact forall₃_congr fun s' _ _ => and_congr_right fun _ => ih s'

@[simp]
theorem relies_pure {a : α} : (pure a : Txn σ κ ε α).Relies R PostE Post s w ↔ Post a s w := Iff.rfl

@[simp]
theorem relies_rollback {e : ε} : (rollback e : Txn σ κ ε α).Relies R PostE Post s w := trivial

@[simp]
theorem relies_query {f : σ → α} :
    (query f : Txn σ κ ε α).Relies R PostE Post s w ↔
      ∀ s', R.Rely w s s' → Post (f s') s' w := Iff.rfl

@[simp]
theorem relies_execute {effect : σ → Effect σ κ} {f : σ → α} :
    (execute effect f : Txn σ κ ε α).Relies R PostE Post s w ↔
      ∀ s', R.Rely w s s' → R.Allowed w s' (effect s') →
        R.Guar w s' (effect s') ∧ Post (f s') ((effect s').write s') (w.seq (effect s')) := Iff.rfl

@[simp]
theorem relies_require {c : Bool} {e : ε} {Post : Unit → σ → Effect σ κ → Prop} :
    (require c e : Txn σ κ ε Unit).Relies R PostE Post s w ↔ (c → Post () s w) := by
  cases c <;> simp [require, Relies]

@[simp]
theorem relies_ofOption {o : Option α} {e : ε} :
    (ofOption o e : Txn σ κ ε α).Relies R PostE Post s w ↔ ∀ a, o = some a → Post a s w := by
  cases o <;> simp [ofOption, Relies]

@[simp]
theorem relies_ofExcept {δ : Type} {x : Except δ α} {h : δ → ε} :
    (ofExcept x h : Txn σ κ ε α).Relies R PostE Post s w ↔ ∀ a, x = .ok a → Post a s w := by
  cases x <;> simp [ofExcept, Relies]

theorem Relies.mono {Post' : α → σ → Effect σ κ → Prop} {p : Txn σ κ ε α}
    (h : p.Relies R PostE Post s w) (hpost : ∀ a s w, Post a s w → Post' a s w) :
    p.Relies R PostE Post' s w := by
  induction p generalizing s w with
  | commit a => exact hpost a s w h
  | rollback e => trivial
  | commitError e => exact h
  | read next ih => exact fun s' hrely => ih s' (h s' hrely)
  | write effect next ih =>
    exact fun s' hrely hallowed => ⟨(h s' hrely hallowed).1, ih s' (h s' hrely hallowed).2⟩

/-- A part with a known postcondition, and what follows it. -/
theorem Relies.bind {Post' : β → σ → Effect σ κ → Prop} {p : Txn σ κ ε α}
    (h : p.Relies R PostE Post s w)
    (hf : ∀ a s w, Post a s w → (f a).Relies R PostE Post' s w) :
    (p >>= f).Relies R PostE Post' s w :=
  relies_bind.mpr (h.mono hf)

section Bind

variable {Post : β → σ → Effect σ κ → Prop}

theorem relies_require_bind {c : Bool} {e : ε} {g : Unit → Txn σ κ ε β} :
    (require c e >>= g).Relies R PostE Post s w ↔ (c → (g ()).Relies R PostE Post s w) := by
  rw [relies_bind, relies_require]

theorem relies_ofOption_bind {o : Option α} {e : ε} {g : α → Txn σ κ ε β} :
    (ofOption o e >>= g).Relies R PostE Post s w ↔
      ∀ a, o = some a → (g a).Relies R PostE Post s w := by
  rw [relies_bind, relies_ofOption]

end Bind

/-- Every write that a statement may make meets `E`. -/
def Issues (E : Effect σ κ → Prop) : Txn σ κ ε α → Prop
  | .commit _ => True
  | .rollback _ => True
  | .commitError _ => True
  | .read next => ∀ s, (next s).Issues E
  | .write effect next => ∀ s, E (effect s) ∧ (next s).Issues E

section Issues

variable {E : Effect σ κ → Prop} {p : Txn σ κ ε α}

theorem Issues.bind {f : α → Txn σ κ ε β} (hp : p.Issues E) (hf : ∀ a, (f a).Issues E) :
    (p >>= f).Issues E := by
  change (p.bind f).Issues E
  induction p with
  | commit a => exact hf a
  | rollback e => trivial
  | commitError e => trivial
  | read next ih => exact fun s => ih s (hp s)
  | write effect next ih => exact fun s => ⟨(hp s).1, ih s (hp s).2⟩

theorem Issues.mono {E' : Effect σ κ → Prop} (hp : p.Issues E) (h : ∀ e, E e → E' e) :
    p.Issues E' := by
  induction p with
  | commit a => trivial
  | rollback e => trivial
  | commitError e => trivial
  | read next ih => exact fun s => ih s (hp s)
  | write effect next ih => exact fun s => ⟨h _ (hp s).1, ih s (hp s).2⟩

theorem issues_pure (a : α) : (pure a : Txn σ κ ε α).Issues E := trivial

theorem issues_commitError (e : ε) : (commitError e : Txn σ κ ε α).Issues E := trivial

theorem issues_query (f : σ → α) : (query f : Txn σ κ ε α).Issues E := fun _ => trivial

theorem issues_execute {effect : σ → Effect σ κ} {f : σ → α} (h : ∀ s, E (effect s)) :
    (execute effect f : Txn σ κ ε α).Issues E := fun s => ⟨h s, trivial⟩

theorem issues_require (c : Bool) (e : ε) : (require c e : Txn σ κ ε Unit).Issues E := by
  cases c <;> trivial

theorem issues_ofOption (o : Option α) (e : ε) : (ofOption o e : Txn σ κ ε α).Issues E := by
  cases o <;> trivial

theorem issues_ofExcept {δ : Type} (x : Except δ α) (h : δ → ε) :
    (ofExcept x h : Txn σ κ ε α).Issues E := by
  cases x <;> trivial

/-- A part of the data that no write changes is the same in the end. -/
theorem Issues.exec_eq {γ : Type} {part : σ → γ}
    (hp : p.Issues (fun e => ∀ s, part (e.write s) = part s)) (s : σ) :
    part (p.exec s).2 = part s := by
  induction p generalizing s with
  | commit a => rfl
  | rollback e => rfl
  | commitError e => rfl
  | read next ih => exact ih s (hp s) s
  | write effect next ih => exact (ih s (hp s).2 _).trans ((hp s).1 s)

theorem Issues.returns_eq {γ : Type} {part : σ → γ} {s' : σ} {a : α}
    (hp : p.Issues (fun e => ∀ s, part (e.write s) = part s)) (h : p.Returns s a s') :
    part s' = part s := by
  have hexec := hp.exec_eq s
  rw [h] at hexec
  exact hexec

/-- Neither the commits of others nor allowed writes with `E` undo it. -/
structure Stable (R : Rules σ κ) (E : Effect σ κ → Prop) (I : σ → Effect σ κ → Prop) : Prop where
  rely : ∀ s s' w, I s w → R.Rely w s s' → I s' w
  write : ∀ s w e, I s w → E e → R.Allowed w s e → R.Guar w s e ∧ I (e.write s) (w.seq e)

/-- A part of a transaction that only makes writes with `E` keeps what is known before it. -/
theorem Issues.relies {I : σ → Effect σ κ → Prop} (hp : p.Issues E) (hI : Stable R E I)
    (hs : I s w) (hpost : ∀ a s w, I s w → Post a s w) (herror : ∀ e s w, I s w → PostE e s w) :
    p.Relies R PostE Post s w := by
  induction p generalizing s w with
  | commit a => exact hpost a s w hs
  | rollback e => trivial
  | commitError e => exact herror e s w hs
  | read next ih => exact fun s' hrely => ih s' (hp s') (hI.rely s s' w hs hrely)
  | write effect next ih =>
    intro s' hrely hallowed
    obtain ⟨hguar, hs'⟩ := hI.write s' w (effect s') (hI.rely s s' w hs hrely) (hp s').1 hallowed
    exact ⟨hguar, ih s' (hp s').2 hs'⟩

end Issues

end Txn

/-- `Hist l d` holds after the commits `l`, and `Pend d w` of writes not yet committed. -/
structure Protocol (ι σ κ ε α : Type) where
  Rely : Effect σ κ → σ → σ → Prop
  Guar : Effect σ κ → σ → Effect σ κ → Prop
  Pend : σ → Effect σ κ → Prop
  Hist : List (ι × Except ε α) → σ → Prop

/-- Writes that meet the guarantee stay in order, and commits stay within what others rely on. -/
structure Protocol.Sound (P : Protocol ι σ κ ε α) : Prop where
  idle : ∀ {l d}, P.Hist l d → P.Pend d .idle
  write : ∀ {l d w e}, P.Hist l d → P.Pend d w → P.Guar w (w.write d) e → P.Pend d (w.seq e)
  refl : ∀ {l d w}, P.Hist l d → P.Pend d w → P.Rely w (w.write d) (w.write d)
  trans : ∀ {w s s' s''}, P.Rely w s s' → P.Rely w s' s'' → P.Rely w s s''
  others : ∀ {l d w w'}, P.Hist l d → P.Pend d w → P.Pend d w' → w.locks.Disjoint w'.locks →
    P.Pend (w'.write d) w ∧ P.Rely w (w.write d) (w.write (w'.write d))

/-- The part of each transaction: the writes it is allowed, and what it commits. -/
structure Role (σ κ ε α : Type) where
  Allowed : Effect σ κ → σ → Effect σ κ → Prop
  PostE : ε → σ → Effect σ κ → Prop
  Post : α → σ → Effect σ κ → Prop

def Protocol.rules (P : Protocol ι σ κ ε α) (role : Role σ κ ε α) : Rules σ κ :=
  ⟨P.Rely, role.Allowed, P.Guar⟩

/-- The transaction plays its role. -/
def Protocol.Plays (P : Protocol ι σ κ ε α) (role : Role σ κ ε α) (p : Txn σ κ ε α) :
    σ → Effect σ κ → Prop :=
  p.Relies (P.rules role) role.PostE role.Post

/-- What a role promises at its commit puts the commit on the record. -/
structure Protocol.Records (P : Protocol ι σ κ ε α) (role : ι → Role σ κ ε α) : Prop where
  commit : ∀ {i l d w s a}, P.Hist l d → P.Pend d w → P.Rely w s (w.write d) →
    (role i).Post a s w → (∀ r, (i, r) ∉ l) → P.Hist ((i, .ok a) :: l) (w.write d)
  commitError : ∀ {i l d w s e}, P.Hist l d → P.Pend d w → P.Rely w s (w.write d) →
    (role i).PostE e s w → (∀ r, (i, r) ∉ l) → P.Hist ((i, .error e) :: l) (w.write d)

namespace Config

variable {c : Config ι σ κ ε α}

/-- Each lock that is about to be taken passes the test of its transaction. -/
def writesSeeing (test : ι → κ → σ → Bool) (c : Config ι σ κ ε α) (x : ι × Action) : Bool :=
  match x.2, c.nextEffect x.1 with
  | .advance, some e => e.locks.all (fun k => test x.1 k (c.view x.1))
  | _, _ => true

theorem locks_of_writesSeeing {test : ι → κ → σ → Bool} {i : ι}
    {e : Effect σ κ} (h : c.writesSeeing test (i, .advance)) (he : c.nextEffect i = some e) :
    ∀ k ∈ e.locks, test i k (c.view i) := by
  unfold writesSeeing at h
  rw [he] at h
  exact List.all_eq_true.mp h

/-- The commits of the run so far are `l`, and every transaction is where its role says. -/
structure Follows (P : Protocol ι σ κ ε α) (role : ι → Role σ κ ε α) (l : List (ι × Except ε α))
    (c : Config ι σ κ ε α) : Prop where
  hist : P.Hist l c.data
  log : ∀ i r, (i, r) ∈ l ↔ (c.threads i).phase = .committed r
  once : (l.map Prod.fst).Nodup
  pend : ∀ i, (c.threads i).phase = .running → P.Pend c.data (c.threads i).pending
  todo : ∀ i, (c.threads i).phase = .running → ∃ s, P.Rely (c.threads i).pending s (c.view i) ∧
      P.Plays (role i) (c.threads i).rest s (c.threads i).pending
  held : ∀ i k, (c.threads i).phase = .running → k ∈ (c.threads i).pending.locks → (k, i) ∈ c.held
  exclusive : ∀ k i j, (k, i) ∈ c.held → (k, j) ∈ c.held → i = j

namespace Follows

variable {P : Protocol ι σ κ ε α} {role : ι → Role σ κ ε α} {l : List (ι × Except ε α)}
  {c c' : Config ι σ κ ε α} {i : ι}

theorem start {s : σ} {p : ι → Txn σ κ ε α} (hP : P.Sound) (hs : P.Hist [] s)
    (hp : ∀ i, P.Plays (role i) (p i) s .idle) : Follows P role [] (Config.start s p) where
  hist := hs
  log i r := ⟨fun h => absurd h List.not_mem_nil, fun h => by cases h⟩
  once := List.nodup_nil
  pend i _ := hP.idle hs
  todo i _ := ⟨s, hP.refl hs (hP.idle hs), hp i⟩
  held i k _ hk := absurd hk List.not_mem_nil
  exclusive k i j hi := absurd hi List.not_mem_nil

theorem locks (h : Follows P role l c) : c.LocksHeld := ⟨h.held, h.exclusive⟩

theorem not_mem (h : Follows P role l c) (hi : (c.threads i).phase = .running)
    (r : Except ε α) : (i, r) ∉ l := by
  intro hmem
  rw [(h.log i r).mp hmem] at hi
  cases hi

variable [DecidableEq ι]

/-- The end of a transaction, with nothing written or with its commit on the record. -/
theorem finish (h : Follows P role l c) {l' : List (ι × Except ε α)} {d : σ} {phase : Phase ε α}
    (hphase : phase ≠ .running) (hist : P.Hist l' d) (hlog : ∀ j r, (j, r) ∈ l' ↔
      ((c.finish i d phase).threads j).phase = .committed r) (honce : (l'.map Prod.fst).Nodup)
    (hothers : ∀ j, j ≠ i → (c.threads j).phase = .running →
      P.Pend d (c.threads j).pending ∧ ∃ s, P.Rely (c.threads j).pending s
        ((c.threads j).pending.write d) ∧
          P.Plays (role j) (c.threads j).rest s (c.threads j).pending) :
    Follows P role l' (c.finish i d phase) := by
  have hrunning : ∀ j, ((c.finish i d phase).threads j).phase = .running →
      j ≠ i ∧ (c.finish i d phase).threads j = c.threads j :=
    fun j hj => running_of_finish hphase hj
  have hlocks := h.locks.finish (i := i) (d := d) hphase
  refine ⟨hist, hlog, honce, fun j hj => ?_, fun j hj => ?_, hlocks.held, hlocks.exclusive⟩
  · obtain ⟨hji, heq⟩ := hrunning j hj
    rw [heq] at hj ⊢
    exact (hothers j hji hj).1
  · obtain ⟨hji, heq⟩ := hrunning j hj
    unfold Config.view
    rw [heq] at hj ⊢
    exact (hothers j hji hj).2

theorem rolledBack (h : Follows P role l c) (hi : (c.threads i).phase = .running) (e : Option ε) :
    Follows P role l (c.finish i c.data (.rolledBack e)) := by
  refine h.finish (by simp) h.hist (fun j r => ?_) h.once
    fun j _ hj => ⟨h.pend j hj, h.todo j hj⟩
  rw [h.log]
  by_cases hji : j = i
  · simp [Config.finish, setThread, hji, hi]
  · simp [Config.finish, setThread, hji]

theorem committed (h : Follows P role l c) (hP : P.Sound) (hi : (c.threads i).phase = .running)
    {r : Except ε α} (hist : P.Hist ((i, r) :: l) (c.view i)) :
    Follows P role ((i, r) :: l) (c.finish i (c.view i) (.committed r)) := by
  refine h.finish (by simp) hist (fun j r' => ?_) ?_ fun j hji hj => ?_
  · by_cases hji : j = i
    · subst hji
      have hnot := h.not_mem hi r'
      simp [Config.finish, setThread, hnot, eq_comm]
    · simp [Config.finish, setThread, hji, h.log]
  · refine List.nodup_cons.mpr ⟨fun hmem => ?_, h.once⟩
    obtain ⟨⟨j, r'⟩, hj, rfl⟩ := List.mem_map.mp hmem
    exact h.not_mem hi r' hj
  · obtain ⟨hpend, hrely⟩ := hP.others h.hist (h.pend j hj) (h.pend i hi) (h.locks.disjoint hji hj hi)
    obtain ⟨s, hs, hplays⟩ := h.todo j hj
    exact ⟨hpend, s, hP.trans hs hrely, hplays⟩

/-- A statement that takes only free locks, with what it leaves to do. -/
theorem advance (h : Follows P role l c) (hi : (c.threads i).phase = .running)
    {rest : Txn σ κ ε α} {w : Effect σ κ} {s : σ} (ks : List κ) (hpend : P.Pend c.data w)
    (hs : P.Rely w s (w.write c.data)) (hrest : P.Plays (role i) rest s w)
    (hlocks : ∀ k ∈ w.locks, k ∈ (c.threads i).pending.locks ∨ k ∈ ks)
    (hfree : ∀ k ∈ ks, ∀ j, (k, j) ∈ c.held → j = i) :
    Follows P role l { c.setThread i ⟨rest, w, .running⟩ with
      held := c.held ++ ks.map (fun k => (k, i)) } := by
  have hne : ∀ j, j ≠ i → (c.setThread i ⟨rest, w, .running⟩).threads j = c.threads j :=
    fun j hj => setThread_ne _ _ hj
  have hdata : (c.setThread i ⟨rest, w, .running⟩).data = c.data := rfl
  have hheld : LocksHeld { c.setThread i ⟨rest, w, .running⟩ with
      held := c.held ++ ks.map (fun k => (k, i)) } := h.locks.advance hi hlocks hfree
  refine ⟨h.hist, fun j r => ?_, h.once, fun j hj => ?_, fun j hj => ?_, hheld.held,
    hheld.exclusive⟩
  · rw [h.log]
    by_cases hji : j = i
    · simp [hji, hi]
    · simp [hne j hji]
  · by_cases hji : j = i
    · simpa [hji, hdata] using hpend
    · rw [hne j hji] at hj
      simpa [hne j hji, hdata] using h.pend j hj
  · by_cases hji : j = i
    · subst hji
      refine ⟨s, ?_⟩
      simpa [Config.view, hdata] using ⟨hs, hrest⟩
    · rw [hne j hji] at hj
      simpa [Config.view, hne j hji, hdata] using h.todo j hj

variable [DecidableEq κ]

theorem step (h : Follows P role l c) (hP : P.Sound) (hrecords : P.Records role)
    {x : ι × Action} (hx : x.2 = .advance → ∀ e, c.nextEffect x.1 = some e →
      (role x.1).Allowed (c.threads x.1).pending (c.view x.1) e)
    (hstep : c.step? x.1 x.2 = some c') : ∃ l', Follows P role l' c' := by
  obtain ⟨i, a⟩ := x
  obtain ⟨hi, hcases⟩ := step?_cases hstep
  obtain ⟨s, hs, hplays⟩ := h.todo i hi
  have hpend := h.pend i hi
  rcases hcases with ⟨next, rfl, hrest, rfl⟩ | ⟨effect, next, rfl, hrest, hfree, rfl⟩ |
    ⟨r, hr, rfl⟩ | ⟨e, rfl⟩
  · rw [hrest] at hplays
    have hnext := h.advance hi [] hpend (hP.refl h.hist hpend) (hplays _ hs) (fun k hk => .inl hk)
      (by simp)
    exact ⟨l, by simpa [hi, setThread, Config.view] using hnext⟩
  · rw [hrest] at hplays
    have hallowed := hx rfl (effect (c.view i)) (by simp [nextEffect, hi, hrest])
    obtain ⟨hguar, hnext⟩ := hplays _ hs hallowed
    have hpend' := hP.write h.hist hpend hguar
    exact ⟨l, h.advance hi _ hpend' (hP.refl h.hist hpend') hnext
      (fun k hk => List.mem_append.mp hk) (free_of_unlocked hfree)⟩
  · refine ⟨(i, r) :: l, h.committed hP hi ?_⟩
    rcases hr with ⟨x, rfl, hrest⟩ | ⟨e, rfl, hrest⟩
    · rw [hrest] at hplays
      exact hrecords.commit h.hist hpend hs hplays (h.not_mem hi)
    · rw [hrest] at hplays
      exact hrecords.commitError h.hist hpend hs hplays (h.not_mem hi)
  · exact ⟨l, h.rolledBack hi e⟩

end Follows

/-- Transactions that play their roles commit one after the other as the protocol says. -/
theorem follows_of_run [DecidableEq ι] [DecidableEq κ] (P : Protocol ι σ κ ε α)
    (role : ι → Role σ κ ε α) (hP : P.Sound) (hrecords : P.Records role)
    {s : σ} {p : ι → Txn σ κ ε α} (hs : P.Hist [] s) (hp : ∀ i, P.Plays (role i) (p i) s .idle)
    {test : Config ι σ κ ε α → ι × Action → Bool}
    (htest : ∀ c i e, test c (i, .advance) → c.nextEffect i = some e →
      (role i).Allowed (c.threads i).pending (c.view i) e)
    {xs : List (ι × Action)} (hfree : (Config.start s p).along test xs)
    (hrun : (Config.start s p).run xs = some c) : ∃ l, Follows P role l c := by
  refine run_induct (I := fun c => ∃ l, Follows P role l c) ?_ ⟨[], .start hP hs hp⟩ hfree hrun
  rintro c ⟨i, a⟩ c' ⟨l, h⟩ hx hstep
  refine h.step hP hrecords ?_ hstep
  rintro rfl e he
  exact htest c i e hx he

end Config
end Relational
