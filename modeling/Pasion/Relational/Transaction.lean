import Mathlib.Tactic.Common

/-! Transactions as programs of statements, and their meaning when one runs alone. -/
namespace Relational

/-- What a writing statement does to the data, and the locks it keeps until its transaction ends. -/
structure Effect (σ κ : Type) where
  write : σ → σ
  locks : List κ

/-- A transaction commits, rolls back, or commits and reports an error. -/
inductive Txn (σ κ ε α : Type) where
  | commit (a : α)
  | rollback (e : ε)
  | commitError (e : ε)
  | read (next : σ → Txn σ κ ε α)
  | write (effect : σ → Effect σ κ) (next : σ → Txn σ κ ε α)

inductive Outcome (ε α : Type) where
  | committed (a : α)
  | rolledBack (e : ε)
  | committedError (e : ε)
  deriving DecidableEq

/-- A committed result passes a test. -/
def Outcome.any {ε α : Type} (test : α → Bool) : Outcome ε α → Bool
  | committed a => test a
  | rolledBack _ => false
  | committedError _ => false

namespace Effect

variable {σ κ : Type}

def idle : Effect σ κ := ⟨id, []⟩

def seq (e f : Effect σ κ) : Effect σ κ := ⟨fun s => f.write (e.write s), e.locks ++ f.locks⟩

end Effect

namespace Txn

variable {σ κ ε α β : Type}

def bind : Txn σ κ ε α → (α → Txn σ κ ε β) → Txn σ κ ε β
  | commit a, f => f a
  | rollback e, _ => rollback e
  | commitError e, _ => commitError e
  | read next, f => read (fun s => (next s).bind f)
  | write effect next, f => write effect (fun s => (next s).bind f)

instance : Monad (Txn σ κ ε) where
  pure := commit
  bind := bind

/-- Runs the statements one after the other with no other transaction in between. -/
def exec : Txn σ κ ε α → σ → Outcome ε α × σ
  | commit a, s => (.committed a, s)
  | rollback e, s => (.rolledBack e, s)
  | commitError e, s => (.committedError e, s)
  | read next, s => (next s).exec s
  | write effect next, s => (next s).exec ((effect s).write s)

/-- The result and the data left behind: a rollback undoes every write. -/
def transact (p : Txn σ κ ε α) (s : σ) : Except ε α × σ :=
  match p.exec s with
  | (.committed a, s') => (.ok a, s')
  | (.rolledBack e, _) => (.error e, s)
  | (.committedError e, s') => (.error e, s')

/-- The connection is given back without a commit, which undoes every write. -/
def dropped (p : Txn σ κ ε α) (s : σ) : Except ε α × σ :=
  match p.exec s with
  | (.committed a, _) => (.ok a, s)
  | (.rolledBack e, _) => (.error e, s)
  | (.committedError e, s') => (.error e, s')

def query (f : σ → α) : Txn σ κ ε α := read (fun s => commit (f s))

/-- One writing statement that answers with a value computed from the data it saw. -/
def execute (effect : σ → Effect σ κ) (f : σ → α) : Txn σ κ ε α :=
  write effect (fun s => commit (f s))

def require (c : Bool) (e : ε) : Txn σ κ ε Unit := if c then commit () else rollback e

def ofOption (o : Option α) (e : ε) : Txn σ κ ε α :=
  match o with
  | some a => commit a
  | none => rollback e

def ofExcept {δ : Type} (x : Except δ α) (e : δ → ε) : Txn σ κ ε α :=
  match x with
  | .ok a => commit a
  | .error d => rollback (e d)

def mapError {δ : Type} (f : ε → δ) : Txn σ κ ε α → Txn σ κ δ α
  | commit a => commit a
  | rollback e => rollback (f e)
  | commitError e => commitError (f e)
  | read next => read (fun s => (next s).mapError f)
  | write effect next => write effect (fun s => (next s).mapError f)

/-- Running alone from `s`, the transaction commits `a` and leaves `s'`. -/
def Returns (p : Txn σ κ ε α) (s : σ) (a : α) (s' : σ) : Prop := p.exec s = (.committed a, s')

/-- Running alone from `s`, the transaction returns a result. -/
def Succeeds (p : Txn σ κ ε α) (s : σ) : Prop := ∃ a s', p.Returns s a s'

/-- Running alone from `s`, the transaction commits `s'` and reports `e`. -/
def SavesError (p : Txn σ κ ε α) (s : σ) (e : ε) (s' : σ) : Prop :=
  p.exec s = (.committedError e, s')

section Rules

variable {s s' : σ} {a : α} {b : β} {e : ε}
variable {p x : Txn σ κ ε α} {f : α → Txn σ κ ε β} {c : Bool} {o : Option α} {δ : Type} {e' : ε}

theorem exec_bind (x : Txn σ κ ε α) (f : α → Txn σ κ ε β) (s : σ) :
    (x >>= f).exec s = match x.exec s with
      | (.committed a, s₁) => (f a).exec s₁
      | (.rolledBack e, s₁) => (.rolledBack e, s₁)
      | (.committedError e, s₁) => (.committedError e, s₁) := by
  change (x.bind f).exec s = _
  induction x generalizing s with
  | commit a => rfl
  | rollback e => rfl
  | commitError e => rfl
  | read next ih => exact ih s s
  | write effect next ih => exact ih s ((effect s).write s)

theorem exists_returns (p : Txn σ κ ε α) (s : σ) (test : α → Bool) (h : (p.exec s).1.any test) :
    ∃ a, p.Returns s a (p.exec s).2 ∧ test a := by
  cases hp : (p.exec s).1 with
  | committed a =>
    rw [hp] at h
    exact ⟨a, Prod.ext hp rfl, h⟩
  | rolledBack e => simp [hp, Outcome.any] at h
  | committedError e => simp [hp, Outcome.any] at h

theorem succeeds_iff_any : p.Succeeds s ↔ (p.exec s).1.any (fun _ => true) := by
  constructor
  · rintro ⟨a, s', h⟩
    rw [h]
    rfl
  · intro h
    obtain ⟨a, ha, -⟩ := exists_returns p s _ h
    exact ⟨a, _, ha⟩

instance (p : Txn σ κ ε α) (s : σ) : Decidable (p.Succeeds s) :=
  decidable_of_iff _ succeeds_iff_any.symm

/-- What does not succeed and commits no error leaves the data as it was. -/
theorem transact_of_not_succeeds (h : ¬p.Succeeds s)
    (hsaves : ∀ e s', ¬p.SavesError s e s') : ∃ e, p.transact s = (.error e, s) := by
  unfold transact
  match hp : p.exec s with
  | (.committed a, s') => exact absurd ⟨a, s', hp⟩ h
  | (.rolledBack e, s') => exact ⟨e, rfl⟩
  | (.committedError e, s') => exact absurd hp (hsaves e s')

@[simp]
theorem returns_bind :
    (x >>= f).Returns s b s' ↔ ∃ a s₁, x.Returns s a s₁ ∧ (f a).Returns s₁ b s' := by
  simp only [Returns, exec_bind]
  rcases x.exec s with ⟨a | e | e, s₁⟩ <;> simp

@[simp]
theorem savesError_bind : (x >>= f).SavesError s e s' ↔
      x.SavesError s e s' ∨ ∃ a s₁, x.Returns s a s₁ ∧ (f a).SavesError s₁ e s' := by
  simp only [Returns, SavesError, exec_bind]
  rcases x.exec s with ⟨a | e' | e', s₁⟩ <;> simp

@[simp]
theorem returns_pure {a' : α} : (pure a' : Txn σ κ ε α).Returns s a s' ↔ a' = a ∧ s = s' := by
  simp [Returns, pure, exec]

@[simp]
theorem returns_rollback : ¬(rollback e : Txn σ κ ε α).Returns s a s' := by simp [Returns, exec]

@[simp]
theorem returns_commitError : ¬(commitError e : Txn σ κ ε α).Returns s a s' := by
  simp [Returns, exec]

@[simp]
theorem returns_query {f : σ → α} :
    (query f : Txn σ κ ε α).Returns s a s' ↔ f s = a ∧ s = s' := by
  simp [Returns, query, exec]

@[simp]
theorem returns_execute {w : σ → Effect σ κ} {f : σ → α} :
    (execute w f : Txn σ κ ε α).Returns s a s' ↔ f s = a ∧ (w s).write s = s' := by
  simp [Returns, execute, exec]

@[simp]
theorem returns_require {u : Unit} :
    (require c e : Txn σ κ ε Unit).Returns s u s' ↔ c ∧ s = s' := by
  cases c <;> simp [require, Returns, exec]

@[simp]
theorem returns_ofOption : (ofOption o e : Txn σ κ ε α).Returns s a s' ↔ o = some a ∧ s = s' := by
  cases o <;> simp [ofOption, Returns, exec]

@[simp]
theorem returns_ofExcept {x : Except δ α} {h : δ → ε} :
    (ofExcept x h : Txn σ κ ε α).Returns s a s' ↔ x = .ok a ∧ s = s' := by
  cases x <;> simp [ofExcept, Returns, exec]

@[simp]
theorem returns_mapError {f : ε → δ} : (p.mapError f).Returns s a s' ↔ p.Returns s a s' := by
  unfold Returns
  induction p generalizing s with
  | commit a' => simp [mapError, exec]
  | rollback e => simp [mapError, exec]
  | commitError e => simp [mapError, exec]
  | read next ih => exact ih s
  | write effect next ih => exact ih s

@[simp]
theorem savesError_mapError {f : ε → δ} {e : δ} :
    (p.mapError f).SavesError s e s' ↔ ∃ e', p.SavesError s e' s' ∧ f e' = e := by
  unfold SavesError
  induction p generalizing s with
  | commit a' => simp [mapError, exec]
  | rollback e => simp [mapError, exec]
  | commitError e => simp [mapError, exec, and_comm]
  | read next ih => exact ih s
  | write effect next ih => exact ih s

@[simp]
theorem savesError_pure : ¬(pure a : Txn σ κ ε α).SavesError s e s' := by
  simp [SavesError, pure, exec]

@[simp]
theorem savesError_rollback : ¬(rollback e' : Txn σ κ ε α).SavesError s e s' := by
  simp [SavesError, exec]

@[simp]
theorem savesError_commitError :
    (commitError e' : Txn σ κ ε α).SavesError s e s' ↔ e' = e ∧ s = s' := by
  simp [SavesError, exec]

@[simp]
theorem savesError_query {f : σ → α} : ¬(query f : Txn σ κ ε α).SavesError s e s' := by
  simp [SavesError, query, exec]

@[simp]
theorem savesError_execute {w : σ → Effect σ κ} {f : σ → α} :
    ¬(execute w f : Txn σ κ ε α).SavesError s e s' := by
  simp [SavesError, execute, exec]

@[simp]
theorem savesError_require : ¬(require c e' : Txn σ κ ε Unit).SavesError s e s' := by
  cases c <;> simp [require, SavesError, exec]

@[simp]
theorem savesError_ofOption : ¬(ofOption o e' : Txn σ κ ε α).SavesError s e s' := by
  cases o <;> simp [ofOption, SavesError, exec]

@[simp]
theorem savesError_ofExcept {x : Except δ α} {h : δ → ε} :
    ¬(ofExcept x h : Txn σ κ ε α).SavesError s e s' := by
  cases x <;> simp [ofExcept, SavesError, exec]

/-! A check or a read in front of a program leaves the state of the program as it is. -/

theorem returns_require_bind {f : Unit → Txn σ κ ε β} :
    (require c e >>= f).Returns s b s' ↔ c ∧ (f ()).Returns s b s' := by
  cases c <;> simp [require, Returns, exec_bind, exec]

theorem returns_ofOption_bind :
    (ofOption o e >>= f).Returns s b s' ↔ ∃ a, o = some a ∧ (f a).Returns s b s' := by
  simp

theorem returns_ofExcept_bind {x : Except δ α} {h : δ → ε} :
    (ofExcept x h >>= f).Returns s b s' ↔ ∃ a, x = .ok a ∧ (f a).Returns s b s' := by
  simp

theorem returns_query_bind {g : σ → α} :
    (query g >>= f).Returns s b s' ↔ (f (g s)).Returns s b s' := by
  simp

theorem savesError_require_bind {f : Unit → Txn σ κ ε β} :
    (require c e' >>= f).SavesError s e s' ↔ c ∧ (f ()).SavesError s e s' := by
  cases c <;> simp [require, SavesError, exec_bind, exec]

theorem savesError_ofOption_bind :
    (ofOption o e' >>= f).SavesError s e s' ↔ ∃ a, o = some a ∧ (f a).SavesError s e s' := by
  simp

theorem savesError_ofExcept_bind {x : Except δ α} {h : δ → ε} :
    (ofExcept x h >>= f).SavesError s e s' ↔ ∃ a, x = .ok a ∧ (f a).SavesError s e s' := by
  simp

theorem savesError_query_bind {g : σ → α} :
    (query g >>= f).SavesError s e s' ↔ (f (g s)).SavesError s e s' := by
  simp

theorem succeeds_pure : (pure a : Txn σ κ ε α).Succeeds s := by simp [Succeeds]

end Rules

theorem transact_ok {p : Txn σ κ ε α} {s s' : σ} {a : α} :
    p.transact s = (.ok a, s') ↔ p.Returns s a s' := by
  simp only [transact, Returns]
  rcases p.exec s with ⟨a' | e | e, s₁⟩ <;> simp

/-- What holds before a transaction, and after each of the two ways to commit, holds after it. -/
theorem transact_induct {P : σ → Prop} {p : Txn σ κ ε α} {s : σ} (hs : P s)
    (hreturns : ∀ a s', p.Returns s a s' → P s') (hsaves : ∀ e s', p.SavesError s e s' → P s') :
    P (p.transact s).2 := by
  rcases hx : p.exec s with ⟨a | e | e, s₁⟩
  · simpa only [transact, hx] using hreturns a s₁ hx
  · simpa only [transact, hx] using hs
  · simpa only [transact, hx] using hsaves e s₁ hx

end Txn
end Relational
