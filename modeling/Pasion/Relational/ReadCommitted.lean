import Pasion.Relational.Transaction

/-! Interleavings of transactions at read committed isolation. -/
namespace Relational

variable {ι σ κ ε α β : Type}

/-- A transaction that the server stopped rolls back with no error of its own. -/
inductive Phase (ε α : Type) where
  | running
  | committed (r : Except ε α)
  | rolledBack (e : Option ε)

/-- A transaction in flight: the statements still to run and the writes made so far. -/
structure Thread (σ κ ε α : Type) where
  rest : Txn σ κ ε α
  pending : Effect σ κ
  phase : Phase ε α

def Thread.start (p : Txn σ κ ε α) : Thread σ κ ε α := ⟨p, .idle, .running⟩

structure Config (ι σ κ ε α : Type) where
  data : σ
  held : List (κ × ι)
  threads : ι → Thread σ κ ε α

inductive Action where
  | advance
  | abort

namespace Config

def start (s : σ) (p : ι → Txn σ κ ε α) : Config ι σ κ ε α := ⟨s, [], fun i => .start (p i)⟩

/-- What a statement of thread `i` sees: the committed data under the thread's own writes. -/
def view (c : Config ι σ κ ε α) (i : ι) : σ := (c.threads i).pending.write c.data

/-- The effect of the writing statement that thread `i` is about to run. -/
def nextEffect (c : Config ι σ κ ε α) (i : ι) : Option (Effect σ κ) :=
  match (c.threads i).phase, (c.threads i).rest with
  | .running, .write effect _ => some (effect (c.view i))
  | _, _ => none

/-- Thread `i` has committed a result. -/
def hasCommitted (c : Config ι σ κ ε α) (i : ι) : Bool :=
  match (c.threads i).phase with
  | .committed (.ok _) => true
  | _ => false

theorem phase_of_hasCommitted {c : Config ι σ κ ε α} {i : ι} (h : c.hasCommitted i) :
    ∃ a, (c.threads i).phase = .committed (.ok a) := by
  unfold hasCommitted at h
  split at h
  · exact ⟨_, ‹_›⟩
  · cases h

/-- Two transactions that have both committed a result. -/
theorem exists_both_committed {o : Option (Config ι σ κ ε α)} {i j : ι}
    (h : o.any (fun c => c.hasCommitted i && c.hasCommitted j)) :
    ∃ c a b, o = some c ∧ (c.threads i).phase = .committed (.ok a) ∧
      (c.threads j).phase = .committed (.ok b) := by
  obtain ⟨c, hc, hboth⟩ := (Option.any_eq_true _ _).mp h
  obtain ⟨hi, hj⟩ := Bool.and_eq_true_iff.mp hboth
  obtain ⟨a, ha⟩ := phase_of_hasCommitted hi
  obtain ⟨b, hb⟩ := phase_of_hasCommitted hj
  exact ⟨c, a, b, hc, ha, hb⟩

/-- Each lock that the writing statement about to run takes passes `test` on the committed data. -/
def writesWhere (test : κ → σ → Bool) (c : Config ι σ κ ε α) (x : ι × Action) : Bool :=
  match x.2, c.nextEffect x.1 with
  | .advance, some e => e.locks.all (fun k => test k c.data)
  | _, _ => true

variable [DecidableEq ι] [DecidableEq κ]

def setThread (c : Config ι σ κ ε α) (i : ι) (t : Thread σ κ ε α) : Config ι σ κ ε α :=
  { c with threads := fun j => if j = i then t else c.threads j }

/-- Ends the transaction of thread `i`, which gives up its locks. -/
def finish (c : Config ι σ κ ε α) (i : ι) (data : σ) (phase : Phase ε α) : Config ι σ κ ε α :=
  { c.setThread i { c.threads i with phase } with
    data
    held := c.held.filter (fun h => h.2 ≠ i) }

def unlocked (c : Config ι σ κ ε α) (i : ι) (ks : List κ) : Bool :=
  c.held.all (fun h => h.2 = i || h.1 ∉ ks)

/-- A writing statement waits for its locks, and then runs against the data committed by then. -/
def step? (c : Config ι σ κ ε α) (i : ι) : Action → Option (Config ι σ κ ε α)
  | .abort =>
    match (c.threads i).phase with
    | .running => some (c.finish i c.data (.rolledBack none))
    | _ => none
  | .advance =>
    match (c.threads i).phase with
    | .running =>
      match (c.threads i).rest with
      | .commit a => some (c.finish i (c.view i) (.committed (.ok a)))
      | .commitError e => some (c.finish i (c.view i) (.committed (.error e)))
      | .rollback e => some (c.finish i c.data (.rolledBack (some e)))
      | .read next => some (c.setThread i { c.threads i with rest := next (c.view i) })
      | .write effect next =>
        let e := effect (c.view i)
        if c.unlocked i e.locks then
          some { c.setThread i ⟨next (c.view i), (c.threads i).pending.seq e, .running⟩ with
            held := c.held ++ e.locks.map (fun k => (k, i)) }
        else none
    | _ => none

def run (c : Config ι σ κ ε α) : List (ι × Action) → Option (Config ι σ κ ε α)
  | [] => some c
  | x :: rest => (c.step? x.1 x.2).bind (fun c' => c'.run rest)

/-- The test `P` passes before each step of the run. -/
def along (P : Config ι σ κ ε α → ι × Action → Bool) (c : Config ι σ κ ε α) :
    List (ι × Action) → Bool
  | [] => true
  | x :: rest => P c x && (c.step? x.1 x.2).all (fun c' => c'.along P rest)

theorem along_true (c : Config ι σ κ ε α) (xs : List (ι × Action)) :
    c.along (fun _ _ => true) xs := by
  induction xs generalizing c with
  | nil => rfl
  | cons x rest ih =>
    simp only [along, Bool.true_and]
    cases c.step? x.1 x.2 with
    | none => rfl
    | some c' => exact ih c'

/-- An invariant that every step passing `P` keeps holds at the end of every run along `P`. -/
theorem run_induct {P : Config ι σ κ ε α → ι × Action → Bool} {I : Config ι σ κ ε α → Prop}
    (hstep : ∀ c x c', I c → P c x → c.step? x.1 x.2 = some c' → I c')
    {c c' : Config ι σ κ ε α} {xs : List (ι × Action)} (hI : I c) (hP : c.along P xs)
    (hrun : c.run xs = some c') : I c' := by
  induction xs generalizing c with
  | nil =>
    cases hrun
    exact hI
  | cons x rest ih =>
    obtain ⟨c₁, hc₁, hrest⟩ := Option.bind_eq_some_iff.mp hrun
    obtain ⟨hx, hall⟩ := Bool.and_eq_true_iff.mp hP
    rw [hc₁] at hall
    exact ih (hstep c x c₁ hI hx hc₁) hall hrest

omit [DecidableEq κ] in
@[simp]
theorem setThread_self (c : Config ι σ κ ε α) (i : ι) (t : Thread σ κ ε α) :
    (c.setThread i t).threads i = t := by simp [setThread]

omit [DecidableEq κ] in
theorem setThread_ne (c : Config ι σ κ ε α) {i j : ι} (t : Thread σ κ ε α) (h : j ≠ i) :
    (c.setThread i t).threads j = c.threads j := by simp [setThread, h]

/-- A step runs a read or a write whose locks are free, or ends the transaction. -/
theorem step?_cases {c c' : Config ι σ κ ε α} {i : ι} {a : Action} (h : c.step? i a = some c') :
    (c.threads i).phase = .running ∧ ((∃ next, a = .advance ∧ (c.threads i).rest = .read next ∧
          c' = c.setThread i { c.threads i with rest := next (c.view i) }) ∨
        (∃ effect next, a = .advance ∧ (c.threads i).rest = .write effect next ∧
          c.unlocked i (effect (c.view i)).locks ∧
          c' = { c.setThread i ⟨next (c.view i),
              (c.threads i).pending.seq (effect (c.view i)), .running⟩ with
            held := c.held ++ (effect (c.view i)).locks.map (fun k => (k, i)) }) ∨
        (∃ r, ((∃ x, r = .ok x ∧ (c.threads i).rest = .commit x) ∨
            ∃ e, r = .error e ∧ (c.threads i).rest = .commitError e) ∧
          c' = c.finish i (c.view i) (.committed r)) ∨
        ∃ e, c' = c.finish i c.data (.rolledBack e)) := by
  cases hp : (c.threads i).phase with
  | committed r => cases a <;> simp [step?, hp] at h
  | rolledBack e => cases a <;> simp [step?, hp] at h
  | running =>
    refine ⟨rfl, ?_⟩
    cases a with
    | abort => exact .inr (.inr (.inr ⟨none, by simpa [step?, hp] using h.symm⟩))
    | advance =>
      cases hr : (c.threads i).rest with
      | commit x =>
        refine .inr (.inr (.inl ⟨.ok x, .inl ⟨x, rfl, rfl⟩, ?_⟩))
        simpa [step?, hp, hr] using h.symm
      | commitError e =>
        refine .inr (.inr (.inl ⟨.error e, .inr ⟨e, rfl, rfl⟩, ?_⟩))
        simpa [step?, hp, hr] using h.symm
      | rollback e => exact .inr (.inr (.inr ⟨some e, by simpa [step?, hp, hr] using h.symm⟩))
      | read next => exact .inl ⟨next, rfl, rfl, by simpa [step?, hp, hr] using h.symm⟩
      | write effect next =>
        simp only [step?, hp, hr] at h
        split_ifs at h with hu
        exact .inr (.inl ⟨effect, next, rfl, rfl, hu, (Option.some.inj h).symm⟩)

end Config

namespace Config

/-- Every transaction in flight holds the locks of its writes, and no two hold the same. -/
structure LocksHeld (c : Config ι σ κ ε α) : Prop where
  held : ∀ i k, (c.threads i).phase = .running → k ∈ (c.threads i).pending.locks → (k, i) ∈ c.held
  exclusive : ∀ k i j, (k, i) ∈ c.held → (k, j) ∈ c.held → i = j

theorem LocksHeld.start (s : σ) (p : ι → Txn σ κ ε α) : (Config.start s p).LocksHeld where
  held _ _ _ hk := absurd hk List.not_mem_nil
  exclusive _ _ _ hi := absurd hi List.not_mem_nil

theorem LocksHeld.disjoint {c : Config ι σ κ ε α} (h : c.LocksHeld) {i j : ι} (hij : i ≠ j)
    (hi : (c.threads i).phase = .running) (hj : (c.threads j).phase = .running) :
    (c.threads i).pending.locks.Disjoint (c.threads j).pending.locks :=
  fun k hki hkj => hij (h.exclusive k i j (h.held i k hi hki) (h.held j k hj hkj))

variable [DecidableEq ι]

/-- A transaction in flight after another one has ended was so before. -/
theorem running_of_finish {c : Config ι σ κ ε α} {i j : ι} {d : σ} {phase : Phase ε α}
    (hphase : phase ≠ .running) (hj : ((c.finish i d phase).threads j).phase = .running) :
    j ≠ i ∧ (c.finish i d phase).threads j = c.threads j := by
  have hthread : (c.finish i d phase).threads j =
      if j = i then { c.threads i with phase } else c.threads j := rfl
  rw [hthread] at hj ⊢
  by_cases hji : j = i
  · rw [if_pos hji] at hj
    exact absurd hj hphase
  · exact ⟨hji, if_neg hji⟩

theorem LocksHeld.finish {c : Config ι σ κ ε α} (h : c.LocksHeld) {i : ι} {d : σ}
    {phase : Phase ε α} (hphase : phase ≠ .running) : (c.finish i d phase).LocksHeld := by
  have hheld : ∀ k j, (k, j) ∈ (c.finish i d phase).held ↔ (k, j) ∈ c.held ∧ j ≠ i := by
    intro k j
    simp [Config.finish]
  refine ⟨fun j k hj hk => ?_, fun k j j' hj hj' => ?_⟩
  · obtain ⟨hji, heq⟩ := running_of_finish hphase hj
    rw [heq] at hj hk
    exact (hheld k j).mpr ⟨h.held j k hj hk, hji⟩
  · exact h.exclusive k j j' ((hheld k j).mp hj).1 ((hheld k j').mp hj').1

theorem free_of_unlocked [DecidableEq κ] {c : Config ι σ κ ε α} {i : ι}
    {ks : List κ} (h : c.unlocked i ks) : ∀ k ∈ ks, ∀ j, (k, j) ∈ c.held → j = i := by
  intro k hk j hj
  have hall := List.all_eq_true.mp h (k, j) hj
  simpa [hk] using hall

/-- A statement that takes the free locks `ks`. -/
theorem LocksHeld.advance {c : Config ι σ κ ε α} (h : c.LocksHeld) {i : ι}
    (hi : (c.threads i).phase = .running) {rest : Txn σ κ ε α} {w : Effect σ κ} {ks : List κ}
    (hlocks : ∀ k ∈ w.locks, k ∈ (c.threads i).pending.locks ∨ k ∈ ks)
    (hfree : ∀ k ∈ ks, ∀ j, (k, j) ∈ c.held → j = i) :
    LocksHeld { c.setThread i ⟨rest, w, .running⟩ with
      held := c.held ++ ks.map (fun k => (k, i)) } := by
  have hheld : ∀ k j, (k, j) ∈ c.held ++ ks.map (fun k => (k, i)) ↔
      (k, j) ∈ c.held ∨ j = i ∧ k ∈ ks := by
    intro k j
    simp [eq_comm, and_comm]
  refine ⟨fun j k hj hk => (hheld k j).mpr ?_, fun k j j' hj hj' => ?_⟩
  · by_cases hji : j = i
    · subst hji
      rw [show (c.setThread j ⟨rest, w, .running⟩).threads j = _ from setThread_self ..] at hk
      exact (hlocks k hk).imp (h.held j k hi) fun hk => ⟨rfl, hk⟩
    · rw [show (c.setThread i ⟨rest, w, .running⟩).threads j = _ from setThread_ne _ _ hji] at hj hk
      exact .inl (h.held j k hj hk)
  · rcases (hheld k j).mp hj with hj₁ | ⟨hji, hk⟩ <;>
      rcases (hheld k j').mp hj' with hj₁' | ⟨hji', hk'⟩
    · exact h.exclusive k j j' hj₁ hj₁'
    · rw [hji']
      exact hfree k hk' j hj₁
    · rw [hji]
      exact (hfree k hk j' hj₁').symm
    · rw [hji, hji']

end Config
end Relational
