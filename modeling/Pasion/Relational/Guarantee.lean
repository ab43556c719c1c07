import Pasion.Relational.Transaction

/-! What the statements of a transaction guarantee, whatever data they see. -/
namespace Relational.Txn

variable {σ κ ε α β : Type}

/-- Each statement meets `G` on data that meet `V`, and `a` is committed after `w` with `Q a w`. -/
def Satisfies (V : σ → Prop) (G : σ → Effect σ κ → Prop) (Q : α → Effect σ κ → Prop) :
    Txn σ κ ε α → Effect σ κ → Prop
  | .commit a, w => Q a w
  | .rollback _, _ => True
  | .commitError _, _ => True
  | .read next, w => ∀ s, V s → (next s).Satisfies V G Q w
  | .write effect next, w =>
    ∀ s, V s → G s (effect s) ∧ (next s).Satisfies V G Q (w.seq (effect s))

variable {V : σ → Prop} {G : σ → Effect σ κ → Prop} {Q : α → Effect σ κ → Prop} {w : Effect σ κ}

@[simp]
theorem satisfies_bind {Q : β → Effect σ κ → Prop} {x : Txn σ κ ε α} {f : α → Txn σ κ ε β} :
    (x >>= f).Satisfies V G Q w ↔ x.Satisfies V G (fun a w' => (f a).Satisfies V G Q w') w := by
  change (x.bind f).Satisfies V G Q w ↔ _
  induction x generalizing w with
  | commit a => rfl
  | rollback e => rfl
  | commitError e => rfl
  | read next ih => exact forall₂_congr fun s _ => ih s
  | write effect next ih => exact forall₂_congr fun s _ => and_congr_right fun _ => ih s

@[simp]
theorem satisfies_pure {a : α} : (pure a : Txn σ κ ε α).Satisfies V G Q w ↔ Q a w := Iff.rfl

@[simp]
theorem satisfies_rollback {e : ε} : (rollback e : Txn σ κ ε α).Satisfies V G Q w := trivial

@[simp]
theorem satisfies_query {f : σ → α} :
    (query f : Txn σ κ ε α).Satisfies V G Q w ↔ ∀ s, V s → Q (f s) w := Iff.rfl

@[simp]
theorem satisfies_execute {effect : σ → Effect σ κ} {f : σ → α} :
    (execute effect f : Txn σ κ ε α).Satisfies V G Q w ↔
      ∀ s, V s → G s (effect s) ∧ Q (f s) (w.seq (effect s)) := Iff.rfl

@[simp]
theorem satisfies_require {c : Bool} {e : ε} {Q : Unit → Effect σ κ → Prop} :
    (require c e : Txn σ κ ε Unit).Satisfies V G Q w ↔ (c → Q () w) := by
  cases c <;> simp [require, Satisfies]

@[simp]
theorem satisfies_ofOption {o : Option α} {e : ε} :
    (ofOption o e : Txn σ κ ε α).Satisfies V G Q w ↔ ∀ a, o = some a → Q a w := by
  cases o <;> simp [ofOption, Satisfies]

@[simp]
theorem satisfies_ofExcept {δ : Type} {x : Except δ α} {h : δ → ε} :
    (ofExcept x h : Txn σ κ ε α).Satisfies V G Q w ↔ ∀ a, x = .ok a → Q a w := by
  cases x <;> simp [ofExcept, Satisfies]

theorem Satisfies.mono {Q' : α → Effect σ κ → Prop} {p : Txn σ κ ε α}
    (h : p.Satisfies V G Q w) (hQ : ∀ a w', Q a w' → Q' a w') : p.Satisfies V G Q' w := by
  induction p generalizing w with
  | commit a => exact hQ a w h
  | rollback e => trivial
  | commitError e => trivial
  | read next ih => exact fun s hs => ih s (h s hs)
  | write effect next ih => exact fun s hs => ⟨(h s hs).1, ih s (h s hs).2⟩

end Relational.Txn
