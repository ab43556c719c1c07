import Pasion.Pg.Schema
import Pasion.Relational.RowLocks
import Pasion.Relational.RowRace

/-! Statements of the repositories: reads that decode, inserts under constraints, keyed updates. -/
namespace Pasion

open Relational Txn

/-- The first five are reported by the driver. -/
inductive DatabaseError where
  | uniqueViolation
  | foreignKeyViolation
  | notNullViolation
  | numericValueOutOfRange
  | notFound
  | inconsistency (table : String) (column : Option String) (row : Ulid)
  | invalidOperation
  | rowsAffected (expected actual : ℕ)
  deriving DecidableEq

/-- The error types that a failing repository call turns into. -/
class FromRepository (ε : Type) where
  repository : DatabaseError → ε

instance : FromRepository DatabaseError := ⟨id⟩

export FromRepository (repository)

abbrev Repo (ε α : Type) := Txn Database LockKey ε α

theorem toOption_eq_some {δ α : Type} {x : Except δ α} {a : α} :
    x.toOption = some a ↔ x = .ok a := by
  cases x <;> simp [Except.toOption]

theorem mapM_eq_ok_some {R α δ : Type} {o : Option R} {f : R → Except δ α} {a : α} :
    o.mapM f = .ok (some a) ↔ o.bind (fun r => (f r).toOption) = some a := by
  cases o with
  | none => simp [pure, Except.pure]
  | some r => cases h : f r <;> simp [h, Except.toOption]

namespace Repo

variable {ε α : Type} [FromRepository ε]

/-- A read whose rows may fail to decode. -/
def fetch (f : Database → Except DatabaseError α) : Repo ε α := do
  let res ← Txn.query f
  Txn.ofExcept res repository

/-- A writing statement, refused when `violation` finds a constraint broken. -/
def statement (violation : Database → Option DatabaseError)
    (effect : Database → Effect Database LockKey) (f : Database → α) : Repo ε α := do
  let res ← Txn.execute (fun db => if (violation db).isNone then effect db else .idle)
    (fun db => match violation db with
      | none => Except.ok (f db)
      | some e => Except.error e)
  Txn.ofExcept res repository

def insert (violation : Database → Option DatabaseError) (locks : List LockKey)
    (write : Database → Database) : Repo ε Unit :=
  statement violation (fun _ => ⟨write, locks⟩) (fun _ => ())

def ensureAffectedRows (actual expected : ℕ) : Repo ε Unit :=
  Txn.require (actual = expected) (repository (.rowsAffected expected actual))

/-- An update of the one row with a given key, which must be there. -/
def updateRow (present : Database → Bool) (violation : Database → Option DatabaseError)
    (lock : LockKey) (write : Database → Database) : Repo ε Unit := do
  let rowsAffected ← statement (fun db => if present db then violation db else none)
    (fun db => if present db then ⟨write, [lock]⟩ else .idle)
    (fun db => if present db then 1 else 0)
  ensureAffectedRows rowsAffected 1

/-- The columns that an update sets are free of constraints. -/
def unconstrained (_ : Database) : Option DatabaseError := none

/-- A transition of a loaded value, made in memory. -/
def transition (res : Except InvalidTransitionError α) : Repo ε α :=
  Txn.ofExcept res (fun _ => repository .invalidOperation)

section Rules

variable {db db' : Database} {a : α} {e : ε} {u : Unit}
  {violation : Database → Option DatabaseError} {effect : Database → Effect Database LockKey}
  {present : Database → Bool} {locks : List LockKey} {lock : LockKey} {write : Database → Database}
variable {f : Database → Except DatabaseError α} {β : Type} {res : Except InvalidTransitionError α}

@[simp]
theorem returns_fetch : (fetch f : Repo ε α).Returns db a db' ↔ f db = .ok a ∧ db = db' := by
  unfold fetch
  simp only [returns_bind, returns_query, returns_ofExcept]
  constructor
  · rintro ⟨_, _, ⟨rfl, rfl⟩, h, rfl⟩
    exact ⟨h, rfl⟩
  · rintro ⟨h, rfl⟩
    exact ⟨_, _, ⟨rfl, rfl⟩, h, rfl⟩

@[simp]
theorem savesError_fetch : ¬(fetch f : Repo ε α).SavesError db e db' := by
  simp [fetch]

theorem returns_fetch_bind {b : β} {g : α → Repo ε β} :
    (fetch f >>= g).Returns db b db' ↔ ∃ a, f db = .ok a ∧ (g a).Returns db b db' := by
  simp

theorem returns_fetch_ofOption {b : β}
    {f : Database → Except DatabaseError (Option α)} {g : α → Repo ε β} :
    (fetch f >>= fun o => Txn.ofOption o e >>= g).Returns db b db' ↔
      ∃ a, f db = .ok (some a) ∧ (g a).Returns db b db' := by
  simp

theorem savesError_fetch_bind {g : α → Repo ε β} :
    (fetch f >>= g).SavesError db e db' ↔ ∃ a, f db = .ok a ∧ (g a).SavesError db e db' := by
  simp

@[simp]
theorem returns_statement {f : Database → α} :
    (statement violation effect f : Repo ε α).Returns db a db' ↔
      violation db = none ∧ f db = a ∧ (effect db).write db = db' := by
  unfold statement
  simp only [returns_bind, returns_execute, returns_ofExcept]
  cases hv : violation db with
  | none => simp
  | some e => simp

@[simp]
theorem savesError_statement {f : Database → α} :
    ¬(statement violation effect f : Repo ε α).SavesError db e db' := by
  simp [statement]

theorem exec_statement {f : Database → α} :
    (statement violation effect f : Repo ε α).exec db =
      (violation db).elim (.committed (f db), (effect db).write db)
        (fun e => (.rolledBack (repository e), db)) := by
  unfold statement
  rw [exec_bind]
  cases hv : violation db <;>
    simp [Txn.execute, Txn.exec, hv, Txn.ofExcept, Effect.idle]

@[simp]
theorem returns_insert :
    (insert violation locks write : Repo ε Unit).Returns db u db' ↔
      violation db = none ∧ write db = db' := by
  simp [insert]

theorem exec_insert :
    (insert violation locks write : Repo ε Unit).exec db =
      (violation db).elim (.committed (), write db) (fun e => (.rolledBack (repository e), db)) :=
  exec_statement

@[simp]
theorem savesError_insert : ¬(insert violation locks write : Repo ε Unit).SavesError db e db' := by
  simp [insert]

@[simp]
theorem returns_updateRow :
    (updateRow present violation lock write : Repo ε Unit).Returns db u db' ↔
      present db ∧ violation db = none ∧ write db = db' := by
  unfold updateRow ensureAffectedRows
  simp only [returns_bind, returns_statement, returns_require]
  cases present db <;> simp

theorem returns_updateRow_bind {g : Unit → Repo ε α} :
    (updateRow present violation lock write >>= g).Returns db a db' ↔
      present db ∧ violation db = none ∧ (g ()).Returns (write db) a db' := by
  simp [and_assoc, Unique.exists_iff]

@[simp]
theorem savesError_updateRow :
    ¬(updateRow present violation lock write : Repo ε Unit).SavesError db e db' := by
  simp [updateRow, ensureAffectedRows]

@[simp]
theorem returns_transition :
    (transition res : Repo ε α).Returns db a db' ↔ res = .ok a ∧ db = db' := by
  simp [transition]

@[simp]
theorem savesError_transition : ¬(transition res : Repo ε α).SavesError db e db' := by
  simp [transition]

end Rules

section Guarantees

variable {V : Database → Prop} {G : Database → Effect Database LockKey → Prop}
  {w : Effect Database LockKey} {violation : Database → Option DatabaseError}
  {effect : Database → Effect Database LockKey} {present : Database → Bool}
  {locks : List LockKey} {lock : LockKey} {write : Database → Database}
variable {Q : α → Effect Database LockKey → Prop}

@[simp]
theorem satisfies_fetch {f : Database → Except DatabaseError α} :
    (fetch f : Repo ε α).Satisfies V G Q w ↔ ∀ db, V db → ∀ a, f db = .ok a → Q a w := by
  simp [fetch]

@[simp]
theorem satisfies_transition {res : Except InvalidTransitionError α} :
    (transition res : Repo ε α).Satisfies V G Q w ↔ ∀ a, res = .ok a → Q a w := by
  simp [transition]

/-- A statement meets the guarantee when its effect does, and the refused form does. -/
@[simp]
theorem satisfies_statement {f : Database → α} :
    (statement violation effect f : Repo ε α).Satisfies V G Q w ↔
      ∀ db, V db → (violation db ≠ none → G db .idle) ∧
        (violation db = none → G db (effect db) ∧ Q (f db) (w.seq (effect db))) := by
  unfold statement
  simp only [satisfies_bind, satisfies_execute, satisfies_ofExcept]
  refine forall₂_congr fun db _ => ?_
  cases hv : violation db with
  | none => simp
  | some e => simp

@[simp]
theorem satisfies_insert {Q : Unit → Effect Database LockKey → Prop} :
    (insert violation locks write : Repo ε Unit).Satisfies V G Q w ↔
      ∀ db, V db → (violation db ≠ none → G db .idle) ∧
        (violation db = none → G db ⟨write, locks⟩ ∧ Q () (w.seq ⟨write, locks⟩)) := by
  simp [insert]

@[simp]
theorem satisfies_updateRow {Q : Unit → Effect Database LockKey → Prop} :
    (updateRow present violation lock write : Repo ε Unit).Satisfies V G Q w ↔
      ∀ db, V db → (¬(present db ∧ violation db = none) → G db .idle) ∧
        (present db → violation db = none →
          G db ⟨write, [lock]⟩ ∧ Q () (w.seq ⟨write, [lock]⟩)) := by
  unfold updateRow ensureAffectedRows
  simp only [satisfies_bind, satisfies_statement, satisfies_require]
  refine forall₂_congr fun db _ => ?_
  cases hp : present db <;> simp

end Guarantees

section Rely

variable {R : Rules Database LockKey} {PostE : ε → Database → Effect Database LockKey → Prop}
  {Post : α → Database → Effect Database LockKey → Prop} {db : Database}
  {w : Effect Database LockKey} {violation : Database → Option DatabaseError}
  {effect : Database → Effect Database LockKey} {present : Database → Bool}
  {locks : List LockKey} {lock : LockKey} {write : Database → Database}
  {f : Database → Except DatabaseError α}

@[simp]
theorem relies_fetch :
    (fetch f : Repo ε α).Relies R PostE Post db w ↔
      ∀ db', R.Rely w db db' → ∀ a, f db' = .ok a → Post a db' w := by
  simp [fetch]

theorem relies_fetch_bind {β : Type} {g : α → Repo ε β}
    {Post : β → Database → Effect Database LockKey → Prop} :
    (fetch f >>= g).Relies R PostE Post db w ↔ ∀ db', R.Rely w db db' → ∀ a, f db' = .ok a →
      (g a).Relies R PostE Post db' w := by
  rw [relies_bind, relies_fetch]

@[simp]
theorem relies_transition {res : Except InvalidTransitionError α} :
    (transition res : Repo ε α).Relies R PostE Post db w ↔ ∀ a, res = .ok a → Post a db w := by
  simp [transition]

@[simp]
theorem relies_statement {f : Database → α} :
    (statement violation effect f : Repo ε α).Relies R PostE Post db w ↔ ∀ db', R.Rely w db db' →
        (violation db' ≠ none → R.Allowed w db' .idle → R.Guar w db' .idle) ∧
        (violation db' = none → R.Allowed w db' (effect db') → R.Guar w db' (effect db') ∧
          Post (f db') ((effect db').write db') (w.seq (effect db'))) := by
  unfold statement
  simp only [relies_bind, relies_execute, relies_ofExcept]
  refine forall₂_congr fun db' _ => ?_
  cases hv : violation db' with
  | none => simp
  | some e => simp

@[simp]
theorem relies_insert {Post : Unit → Database → Effect Database LockKey → Prop} :
    (insert violation locks write : Repo ε Unit).Relies R PostE Post db w ↔ ∀ db', R.Rely w db db' →
        (violation db' ≠ none → R.Allowed w db' .idle → R.Guar w db' .idle) ∧
        (violation db' = none → R.Allowed w db' ⟨write, locks⟩ → R.Guar w db' ⟨write, locks⟩ ∧
          Post () (write db') (w.seq ⟨write, locks⟩)) := by
  simp [insert]

@[simp]
theorem relies_updateRow {Post : Unit → Database → Effect Database LockKey → Prop} :
    (updateRow present violation lock write : Repo ε Unit).Relies R PostE Post db w ↔
      ∀ db', R.Rely w db db' →
        (¬(present db' ∧ violation db' = none) → R.Allowed w db' .idle → R.Guar w db' .idle) ∧
        (present db' → violation db' = none → R.Allowed w db' ⟨write, [lock]⟩ →
          R.Guar w db' ⟨write, [lock]⟩ ∧ Post () (write db') (w.seq ⟨write, [lock]⟩)) := by
  unfold updateRow ensureAffectedRows
  simp only [relies_bind, relies_statement, relies_require]
  refine forall₂_congr fun db' _ => ?_
  cases hp : present db' <;> simp

variable {E : Effect Database LockKey → Prop}

theorem issues_fetch (f : Database → Except DatabaseError α) : (fetch f : Repo ε α).Issues E :=
  (issues_query f).bind fun _ => issues_ofExcept _ _

theorem issues_transition (res : Except InvalidTransitionError α) :
    (transition res : Repo ε α).Issues E :=
  issues_ofExcept _ _

theorem issues_statement {f : Database → α} (hidle : E .idle) (h : ∀ db, E (effect db)) :
    (statement violation effect f : Repo ε α).Issues E := by
  refine (issues_execute fun db => ?_).bind fun _ => issues_ofExcept _ _
  split_ifs
  · exact h db
  · exact hidle

theorem issues_insert (hidle : E .idle) (h : E ⟨write, locks⟩) :
    (insert violation locks write : Repo ε Unit).Issues E :=
  issues_statement hidle fun _ => h

theorem issues_updateRow (hidle : E .idle) (h : E ⟨write, [lock]⟩) :
    (updateRow present violation lock write : Repo ε Unit).Issues E := by
  refine (issues_statement hidle fun db => ?_).bind fun _ => issues_require _ _
  split_ifs
  · exact h
  · exact hidle

end Rely

end Repo
end Pasion
