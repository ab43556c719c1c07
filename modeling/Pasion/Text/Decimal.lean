import Mathlib.Data.Int.Order.Basic
import Mathlib.Data.Nat.Digits.Lemmas
import Pasion.Text.Str

/-! Whole numbers as decimal texts. -/
namespace Str

def digitChar (n : ℕ) : Char := .ofNat (n + 48)

def ofNat (n : ℕ) : List Char :=
  if n = 0 then ['0'] else (Nat.digits 10 n).reverse.map digitChar

def ofInt (i : ℤ) : String := .ofList (if i < 0 then '-' :: ofNat i.natAbs else ofNat i.natAbs)

def parseInt (s : String) : Option ℤ :=
  match s.toList with
  | [] => none
  | '-' :: digits => if digits.isEmpty then none else (digitsValue digits).map (fun n : ℕ => -(n : ℤ))
  | digits => (digitsValue digits).map Int.ofNat

theorem digitValue_digitChar {d : ℕ} (h : d < 10) : digitValue (digitChar d) = some d := by
  have hall : ∀ i : Fin 10, digitValue (digitChar i) = some i.val := by decide
  exact hall ⟨d, h⟩

theorem digitsValue_concat (l : List Char) (c : Char) : digitsValue (l ++ [c]) =
      (digitsValue l).bind (fun n => (digitValue c).map (10 * n + ·)) := by
  simp [digitsValue, List.foldlM_append]

theorem digitsValue_digits (n : ℕ) :
    digitsValue ((Nat.digits 10 n).reverse.map digitChar) = some n := by
  induction n using Nat.strongRecOn with
  | ind n ih =>
    by_cases hn : n = 0
    · rw [hn]
      rfl
    · have hpos : 0 < n := Nat.pos_of_ne_zero hn
      have hdiv : n / 10 < n := Nat.div_lt_self hpos (by decide)
      have hmod : n % 10 < 10 := Nat.mod_lt n (by decide)
      rw [Nat.digits_def' (by decide) hpos, List.reverse_cons, List.map_append, List.map_singleton,
        digitsValue_concat, ih (n / 10) hdiv, Option.bind_some, digitValue_digitChar hmod,
        Option.map_some, Nat.div_add_mod]

theorem digitsValue_ofNat (n : ℕ) : digitsValue (ofNat n) = some n := by
  unfold ofNat
  split_ifs with hn
  · rw [hn]
    rfl
  · exact digitsValue_digits n

/-- The text of a number starts with a digit. -/
theorem exists_ofNat_eq (n : ℕ) : ∃ d < 10, ∃ rest, ofNat n = digitChar d :: rest := by
  unfold ofNat
  split_ifs with hn
  · exact ⟨0, by decide, [], rfl⟩
  · have hne : (Nat.digits 10 n).reverse ≠ [] := by
      simpa [List.reverse_eq_nil_iff] using Nat.digits_ne_nil_iff_ne_zero.mpr hn
    obtain ⟨d, rest, hdigits⟩ := List.exists_cons_of_ne_nil hne
    have hmem : d ∈ Nat.digits 10 n := by
      rw [← List.mem_reverse, hdigits]
      exact List.mem_cons_self
    exact ⟨d, Nat.digits_lt_base (by decide) hmem, rest.map digitChar, by rw [hdigits]; rfl⟩

/-- A number is read back from its text. -/
@[simp]
theorem parseInt_ofInt (i : ℤ) : parseInt (ofInt i) = some i := by
  obtain ⟨d, hd, rest, hrest⟩ := exists_ofNat_eq i.natAbs
  have hminus : digitChar d ≠ '-' := by
    have hall : ∀ e : Fin 10, digitChar e ≠ '-' := by decide
    exact hall ⟨d, hd⟩
  have hvalue := digitsValue_ofNat i.natAbs
  rw [hrest] at hvalue
  unfold ofInt parseInt
  rw [String.toList_ofList, hrest]
  by_cases hi : i < 0
  · rw [if_pos hi]
    simp only [hvalue, List.isEmpty_cons, Bool.false_eq_true, if_false, Option.map_some,
      Option.some.injEq]
    omega
  · rw [if_neg hi]
    split
    · next heq => cases heq
    · next digits heq => exact absurd (List.cons.inj heq).1 hminus
    · rw [hvalue, Option.map_some, Int.ofNat_eq_natCast, Int.natAbs_of_nonneg (not_lt.mp hi)]

example : ofInt (-120) = "-120" := by decide +kernel

end Str
