import Mathlib.Data.List.Forall2
import Mathlib.Tactic.Common

/-! When computations that may fail succeed. -/
namespace Fallible

variable {ε δ α β : Type}
variable {x : Except ε α}

theorem bind_eq_ok_iff {f : α → Except ε β} {b : β} :
    (x >>= f) = .ok b ↔ ∃ a, x = .ok a ∧ f a = .ok b := by
  cases x <;> simp [bind, Except.bind]

theorem map_eq_ok_iff {f : α → β} {b : β} : x.map f = .ok b ↔ ∃ a, x = .ok a ∧ f a = b := by
  cases x <;> simp [Except.map]

@[simp]
theorem mapError_eq_ok_iff {f : ε → δ} {a : α} : x.mapError f = .ok a ↔ x = .ok a := by
  cases x <;> simp [Except.mapError]

theorem forall₂_of_mapM_eq_ok {f : α → Except ε β} {l : List α} {m : List β}
    (h : l.mapM f = .ok m) : List.Forall₂ (fun x y => f x = .ok y) l m := by
  induction l generalizing m with
  | nil =>
    cases h
    exact .nil
  | cons x rest ih =>
    rw [List.mapM_cons] at h
    obtain ⟨y, hx, h⟩ := bind_eq_ok_iff.mp h
    obtain ⟨ys, hrest, h⟩ := bind_eq_ok_iff.mp h
    cases h
    exact .cons hx (ih hrest)

/-- `ok_or` on an option. -/
@[simp]
theorem elim_eq_ok_iff {x : Option α} {e : ε} {a : α} :
    x.elim (.error e) Except.ok = .ok a ↔ x = some a := by
  cases x <;> simp

@[simp]
theorem throw_if_eq_ok_iff {p : Prop} [Decidable p] {e : ε} {u : Unit} :
    (if p then .error e else .ok u : Except ε Unit) = .ok () ↔ ¬p := by
  by_cases hp : p <;> simp [hp]

end Fallible
