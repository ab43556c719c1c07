import Mathlib.Tactic.Common

/-! Programs over a state that stands as it is when the program fails. -/
namespace Relational

abbrev Stateful (σ ε α : Type) := ExceptT ε (StateM σ) α

namespace Stateful

variable {σ ε α β : Type}

/-- The result, and the state that is left whether or not the program failed. -/
def exec (p : Stateful σ ε α) (s : σ) : Except ε α × σ := p.run.run s

/-- One operation on the state that may fail. -/
def call (f : σ → Except ε α × σ) : Stateful σ ε α := ExceptT.mk f

theorem exec_bind (p : Stateful σ ε α) (f : α → Stateful σ ε β) (s : σ) :
    (p >>= f).exec s = match p.exec s with
      | (.ok a, s') => (f a).exec s'
      | (.error e, s') => (.error e, s') := by
  change (ExceptT.bindCont f (p.run.run s).1) (p.run.run s).2 = _
  unfold exec
  rcases p.run.run s with ⟨e | a, s'⟩
  · rfl
  · rfl

/-- The program ends with a result and a state of `Q`, or an error and a state of `E`. -/
def Triple (P : σ → Prop) (p : Stateful σ ε α) (Q : α → σ → Prop) (E : ε → σ → Prop) : Prop :=
  ∀ s, P s → (∀ a s', p.exec s = (.ok a, s') → Q a s') ∧ ∀ e s', p.exec s = (.error e, s') → E e s'

variable {P P' : σ → Prop} {Q : β → σ → Prop} {E : ε → σ → Prop}

theorem triple_pure {b : β} (h : ∀ s, P s → Q b s) : Triple P (pure b : Stateful σ ε β) Q E := by
  intro s hs
  refine ⟨fun a s' hrun => ?_, fun e s' hrun => ?_⟩
  · cases hrun
    exact h s hs
  · cases hrun

theorem triple_call {f : σ → Except ε β × σ}
    (hok : ∀ s, P s → ∀ b s', f s = (.ok b, s') → Q b s')
    (herr : ∀ s, P s → ∀ e s', f s = (.error e, s') → E e s') : Triple P (call f) Q E :=
  fun s hs => ⟨hok s hs, herr s hs⟩

theorem Triple.bind {R : α → σ → Prop} {p : Stateful σ ε α} {f : α → Stateful σ ε β}
    (hp : Triple P p R E) (hf : ∀ a, Triple (R a) (f a) Q E) : Triple P (p >>= f) Q E := by
  intro s hs
  obtain ⟨hok, herr⟩ := hp s hs
  rw [exec_bind]
  rcases hrun : p.exec s with ⟨e | a, s'⟩
  · refine ⟨fun b s'' h => ?_, fun e' s'' h => ?_⟩
    · cases h
    · cases h
      exact herr e s' hrun
  · exact hf a s' (hok a s' hrun)

theorem Triple.of_imp {p : Stateful σ ε β} (h : Triple P p Q E) (himp : ∀ s, P' s → P s) :
    Triple P' p Q E :=
  fun s hs => h s (himp s hs)

/-- However the program ends, it leaves a state of `I`. -/
theorem Triple.state {I : σ → Prop} {p : Stateful σ ε β} {s : σ} (h : Triple P p Q E) (hs : P s)
    (hQ : ∀ b s, Q b s → I s) (hE : ∀ e s, E e s → I s) : I (p.exec s).2 := by
  obtain ⟨hok, herr⟩ := h s hs
  rcases hrun : p.exec s with ⟨e | b, s'⟩
  · exact hE e s' (herr e s' hrun)
  · exact hQ b s' (hok b s' hrun)

end Stateful

end Relational
