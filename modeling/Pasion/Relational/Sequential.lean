import Mathlib.Tactic.Common

/-! Runs of a deterministic machine, one call after the other. -/
namespace Relational.Sequential

variable {σ α : Type} (step : σ → α → σ)

def run (s : σ) (calls : List α) : σ := calls.foldl step s

/-- Every call of the run satisfies `P` in the state that it meets. -/
def Along (P : σ → α → Prop) : σ → List α → Prop
  | _, [] => True
  | s, a :: rest => P s a ∧ Along P (step s a) rest

instance decidableAlong (P : σ → α → Prop) [∀ s a, Decidable (P s a)] :
    (s : σ) → (calls : List α) → Decidable (Along step P s calls)
  | _, [] => .isTrue trivial
  | s, a :: rest => @instDecidableAnd _ _ _ (decidableAlong P (step s a) rest)

variable {step} {s : σ} {calls : List α} {I : σ → Prop} {C P : σ → α → Prop}

theorem run_invariant (hstep : ∀ s, ∀ a ∈ calls, I s → I (step s a)) (hs : I s) :
    I (run step s calls) := by
  induction calls generalizing s with
  | nil => exact hs
  | cons a rest ih =>
    have hnext : I (step s a) := hstep s a List.mem_cons_self hs
    exact ih (fun s b hb => hstep s b (List.mem_cons_of_mem _ hb)) hnext

/-- A fact about each call may use an invariant of the states that the run goes through. -/
theorem Along.of_invariant (hstep : ∀ s a, I s → C s a → I (step s a))
    (hP : ∀ s a, I s → C s a → P s a) (hs : I s) (h : Along step C s calls) :
    Along step P s calls := by
  induction calls generalizing s with
  | nil => trivial
  | cons a rest ih => exact ⟨hP s a hs h.1, ih (hstep s a hs h.1) h.2⟩

theorem Along.run_invariant (hstep : ∀ s a, I s → C s a → I (step s a)) (hs : I s)
    (h : Along step C s calls) : I (run step s calls) := by
  induction calls generalizing s with
  | nil => exact hs
  | cons a rest ih => exact ih (hstep s a hs h.1) h.2

theorem Along.of_append {rest : List α} (h : Along step C s (calls ++ rest)) :
    Along step C (run step s calls) rest := by
  induction calls generalizing s with
  | nil => exact h
  | cons b calls ih => exact ih h.2

end Relational.Sequential
