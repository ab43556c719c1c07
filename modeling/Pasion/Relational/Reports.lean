import Pasion.Relational.Transaction

/-! The errors that a transaction can report. -/
namespace Relational.Txn

variable {σ κ ε α β : Type}

/-- Whatever the data, the transaction does not end with this error. -/
def NeverReports (p : Txn σ κ ε α) (e : ε) : Prop := ∀ s, (p.transact s).1 ≠ .error e

section Rules

variable {s s₁ : σ} {a : α} {e : ε}
variable {x : Txn σ κ ε α} {f : α → Txn σ κ ε β}

/-- After a part that returns, a program answers as the rest of it does. -/
theorem transact_bind_of_returns
    (h : x.Returns s a s₁) : ((x >>= f).transact s).1 = ((f a).transact s₁).1 := by
  have hx : x.exec s = (.committed a, s₁) := h
  have hexec : (x >>= f).exec s = (f a).exec s₁ := by rw [exec_bind, hx]
  unfold transact
  rw [hexec]
  rcases (f a).exec s₁ with ⟨b | e | e, s₂⟩ <;> rfl

theorem transact_require_bind {c : Bool} {f : Unit → Txn σ κ ε β} (hc : c) :
    ((require c e >>= f).transact s).1 = ((f ()).transact s).1 := by
  rw [hc]
  exact transact_bind_of_returns (returns_pure.mpr ⟨rfl, rfl⟩)

theorem transact_ofOption_bind {o : Option α} (ho : o = some a) :
    ((ofOption o e >>= f).transact s).1 = ((f a).transact s).1 :=
  transact_bind_of_returns (returns_ofOption.mpr ⟨ho, rfl⟩)

/-- A program ends with the error of its first part. -/
theorem transact_bind_of_error
    (h : (x.transact s).1 = .error e) : ((x >>= f).transact s).1 = .error e := by
  unfold transact at h ⊢
  rcases hx : x.exec s with ⟨a | e' | e', s₁⟩ <;> simp_all [exec_bind]

theorem returns_of_transact {p : Txn σ κ ε α} (h : (p.transact s).1 = .ok a) :
    ∃ s', p.Returns s a s' :=
  ⟨(p.transact s).2, transact_ok.mp (Prod.ext h rfl)⟩

theorem neverReports_pure : (pure a : Txn σ κ ε α).NeverReports e := by
  intro s h
  cases h

theorem neverReports_query {f : σ → α} : (query f : Txn σ κ ε α).NeverReports e := by
  intro s h
  cases h

theorem neverReports_execute {w : σ → Effect σ κ} {f : σ → α} :
    (execute w f : Txn σ κ ε α).NeverReports e := by
  intro s h
  cases h

theorem neverReports_rollback {e' : ε} (he : e' ≠ e) :
    (rollback e' : Txn σ κ ε α).NeverReports e := by
  intro s h
  exact he (Except.error.inj h)

theorem neverReports_require {c : Bool} {e' : ε} (he : e' ≠ e) :
    (require c e' : Txn σ κ ε Unit).NeverReports e := by
  cases c with
  | true => exact neverReports_pure
  | false => exact neverReports_rollback he

theorem neverReports_ofOption {o : Option α} {e' : ε} (he : e' ≠ e) :
    (ofOption o e' : Txn σ κ ε α).NeverReports e := by
  cases o with
  | some a => exact neverReports_pure
  | none => exact neverReports_rollback he

theorem neverReports_ofExcept {δ : Type} {x : Except δ α} {g : δ → ε} (he : ∀ d, g d ≠ e) :
    (ofExcept x g : Txn σ κ ε α).NeverReports e := by
  cases x with
  | ok a => exact neverReports_pure
  | error d => exact neverReports_rollback (he d)

theorem NeverReports.bind (hx : x.NeverReports e)
    (hf : ∀ a, (f a).NeverReports e) : (x >>= f).NeverReports e := by
  intro s h
  rcases hexec : x.exec s with ⟨a | e' | e', s₁⟩
  · have hreturns : x.Returns s a s₁ := hexec
    rw [transact_bind_of_returns hreturns] at h
    exact hf a s₁ h
  · refine hx s ?_
    simpa [transact, exec_bind, hexec] using h
  · refine hx s ?_
    simpa [transact, exec_bind, hexec] using h

end Rules

end Relational.Txn
