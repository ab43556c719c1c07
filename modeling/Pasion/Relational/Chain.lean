import Mathlib.Computability.StateTransition
import Mathlib.Tactic.Common

/-! Chains of pointers between the rows of a table. -/
namespace Relational.Chain

open StateTransition

variable {κ : Type} {next next' : κ → Option κ} {a e : κ}

/-- Following the pointers from anywhere, one comes to an end. -/
def Stops (next : κ → Option κ) : Prop := ∀ a, ∃ e, e ∈ eval next a

theorem stops_of_isEmpty (h : ∀ a, next a = none) : Stops next :=
  fun a => ⟨a, mem_eval.mpr ⟨.refl, h a⟩⟩

theorem mem_eval_of_next {b : κ} (h : next a = some b) (he : e ∈ eval next b) :
    e ∈ eval next a := by
  obtain ⟨hreaches, hend⟩ := mem_eval.mp he
  exact mem_eval.mpr ⟨hreaches.head (Option.mem_def.mpr h), hend⟩

/-- What the pointers preserve holds at the end of a chain. -/
theorem invariant_of_mem_eval {P : κ → Prop} (hnext : ∀ a b, P a → next a = some b → P b)
    (he : e ∈ eval next a) (ha : P a) : P e := by
  have hreaches := (mem_eval.mp he).1
  clear he
  induction hreaches with
  | refl => exact ha
  | tail _ hstep ih => exact hnext _ _ ih hstep

/-- Chains still stop when each pointer is kept, is cleared, or now leads to an end. -/
theorem Stops.of_shortened (h : Stops next)
    (hnext : ∀ a, next' a = next a ∨ next' a = none ∨ ∃ b, next' a = some b ∧ next' b = none) :
    Stops next' := by
  intro a
  obtain ⟨e, he⟩ := h a
  obtain ⟨hreaches, hend⟩ := mem_eval.mp he
  clear he
  induction hreaches using Relation.ReflTransGen.head_induction_on with
  | refl =>
    rcases hnext e with hsame | hnone | ⟨b, hb, hstop⟩
    · exact ⟨e, mem_eval.mpr ⟨.refl, hsame.trans hend⟩⟩
    · exact ⟨e, mem_eval.mpr ⟨.refl, hnone⟩⟩
    · exact ⟨b, mem_eval_of_next hb (mem_eval.mpr ⟨.refl, hstop⟩)⟩
  | @head a c hstep hrest ih =>
    rcases hnext a with hsame | hnone | ⟨b, hb, hstop⟩
    · obtain ⟨e', he'⟩ := ih
      exact ⟨e', mem_eval_of_next (hsame.trans hstep) he'⟩
    · exact ⟨a, mem_eval.mpr ⟨.refl, hnone⟩⟩
    · exact ⟨b, mem_eval_of_next hb (mem_eval.mpr ⟨.refl, hstop⟩)⟩

end Relational.Chain
