import Pasion.Relational.Rely

/-! Loops inside a transaction, with their rules for invariants and for fuel. -/
namespace Relational.Txn

variable {σ κ ε α β : Type}
variable {f : β → Txn σ κ ε Unit}

/-- Runs the body for each element, in order. -/
def forEach (f : β → Txn σ κ ε Unit) : List β → Txn σ κ ε Unit
  | [] => pure ()
  | b :: rest => f b >>= fun _ => forEach f rest

/-- Runs the body until it answers with a result. -/
def loop (exhausted : ε) (body : β → Txn σ κ ε (β ⊕ α)) : ℕ → β → Txn σ κ ε α
  | 0, _ => rollback exhausted
  | n + 1, b => body b >>= fun
    | .inl b' => loop exhausted body n b'
    | .inr a => pure a

theorem forEach_keeps {I : σ → Prop} {l : List β} {s s' : σ}
    (hf : ∀ b ∈ l, ∀ s s', I s → (f b).Returns s () s' → I s') (hs : I s)
    (h : (forEach f l).Returns s () s') : I s' := by
  induction l generalizing s with
  | nil =>
    obtain ⟨-, rfl⟩ := returns_pure.mp h
    exact hs
  | cons b rest ih =>
    obtain ⟨_, s₁, hb, hrest⟩ := returns_bind.mp h
    refine ih (fun b' hb' => hf b' (List.mem_cons_of_mem _ hb')) ?_ hrest
    exact hf b List.mem_cons_self s s₁ hs hb

/-- What each round brings about and no later one undoes holds of all elements in the end. -/
theorem forEach_establishes {P : β → σ → Prop} {l : List β} {s s' : σ}
    (hf : ∀ b ∈ l, ∀ s s', (f b).Returns s () s' → P b s')
    (hkeeps : ∀ b ∈ l, ∀ b' ∈ l, ∀ s s', P b s → (f b').Returns s () s' → P b s')
    (h : (forEach f l).Returns s () s') : ∀ b ∈ l, P b s' := by
  induction l generalizing s with
  | nil => exact fun b hb => absurd hb List.not_mem_nil
  | cons b rest ih =>
    obtain ⟨_, s₁, hb, hrest⟩ := returns_bind.mp h
    intro b' hb'
    rcases List.mem_cons.mp hb' with rfl | hb'
    · refine forEach_keeps (fun c hc s s' hs hc' => ?_) (hf b' List.mem_cons_self s s₁ hb) hrest
      exact hkeeps b' List.mem_cons_self c (List.mem_cons_of_mem _ hc) s s' hs hc'
    · refine ih (fun c hc => hf c (List.mem_cons_of_mem _ hc)) (fun c hc d hd => ?_) hrest b' hb'
      exact hkeeps c (List.mem_cons_of_mem _ hc) d (List.mem_cons_of_mem _ hd)

section Loop

variable {body : β → Txn σ κ ε (β ⊕ α)} {I : β → σ → Prop} {Q : α → σ → Prop} {e : ε} {n : ℕ}
  {b : β} {s s' : σ} {a : α}

/-- What every round preserves and the last one turns into `Q`. -/
theorem returns_loop (hnext : ∀ b s b' s', I b s → (body b).Returns s (.inl b') s' → I b' s')
    (hlast : ∀ b s a s', I b s → (body b).Returns s (.inr a) s' → Q a s') (hI : I b s)
    (h : (loop e body n b).Returns s a s') : Q a s' := by
  induction n generalizing b s with
  | zero => exact absurd h returns_rollback
  | succ n ih =>
    obtain ⟨r, s₁, hbody, hrest⟩ := returns_bind.mp h
    cases r with
    | inl b' => exact ih (hnext b s b' s₁ hI hbody) hrest
    | inr a' =>
      obtain ⟨rfl, rfl⟩ := returns_pure.mp hrest
      exact hlast b s a' s₁ hI hbody

/-- A loop in which a measure decreases never runs out of fuel, once it has more than that. -/
theorem exec_loop_eq {m : β → σ → ℕ} {e' : ε} {n' : ℕ}
    (hnext : ∀ b s b' s', I b s → (body b).Returns s (.inl b') s' → I b' s' ∧ m b' s' < m b s)
    (hI : I b s) (hn : m b s < n) (hn' : m b s < n') :
    (loop e body n b).exec s = (loop e' body n' b).exec s := by
  induction n generalizing b s n' with
  | zero => omega
  | succ n ih =>
    obtain ⟨k, rfl⟩ : ∃ k, n' = k + 1 := ⟨n' - 1, by omega⟩
    simp only [loop, exec_bind]
    cases hbody : (body b).exec s with
    | mk outcome s₁ =>
      cases outcome with
      | rolledBack e => rfl
      | committedError e => rfl
      | committed r =>
        cases r with
        | inr a => rfl
        | inl b' =>
          obtain ⟨hI', hlt⟩ := hnext b s b' s₁ hI hbody
          exact ih hI' (by omega) (by omega)

end Loop

section Issues

variable {E : Effect σ κ → Prop}

theorem issues_forEach {f : β → Txn σ κ ε Unit} (hf : ∀ b, (f b).Issues E) (l : List β) :
    (forEach f l).Issues E := by
  induction l with
  | nil => exact issues_pure ()
  | cons b rest ih => exact (hf b).bind fun _ => ih

end Issues

end Relational.Txn
