import Mathlib.Data.Seq.Basic

/-! A loop that reads from a stream, finite or not, until a parser is satisfied with what it has. -/
namespace ReadLoop

open Stream'

variable {α β : Type}

/-- Read `i` gives the next `reads i` elements, or what is left of the stream. -/
def readLoop (parse : List α → Option β) (reads : ℕ → ℕ) :
    ℕ → ℕ → List α → Seq α → Option (β × Seq α)
  | 0, _, _, _ => none
  | fuel + 1, i, buf, stream =>
    let buf := buf ++ stream.take (reads i)
    let stream := stream.drop (reads i)
    match parse buf with
    | some result => some (result, stream)
    | none => readLoop parse reads fuel (i + 1) buf stream

/-- The loop ends after finitely many reads, with a result and with what it has not read. -/
def Returns (parse : List α → Option β) (reads : ℕ → ℕ) (stream : Seq α) (result : β)
    (rest : Seq α) : Prop :=
  ∃ fuel, readLoop parse reads fuel 0 [] stream = some (result, rest)

variable {parse : List α → Option β} {reads : ℕ → ℕ} {s rest rest' : Seq α} {b b' : β} {n m : ℕ}

theorem take_append_take_drop : s.take n ++ (s.drop n).take m = s.take (n + m) := by
  induction n generalizing s with
  | zero => simp
  | succ n ih =>
    cases s with
    | nil => simp
    | cons x s => simp [Nat.add_right_comm n 1 m, ih]

theorem append_ofList_take_drop : (Seq.ofList (s.take n)).append (s.drop n) = s := by
  induction n generalizing s with
  | zero => simp
  | succ n ih =>
    cases s with
    | nil => simp
    | cons x s => simp [ih]

theorem take_ofList (l : List α) (n : ℕ) : (Seq.ofList l).take n = l.take n := by
  refine List.ext_getElem? fun k => ?_
  rw [Seq.getElem?_take, Seq.ofList_get?, List.getElem?_take]

theorem drop_ofList (l : List α) (n : ℕ) : (Seq.ofList l).drop n = Seq.ofList (l.drop n) := by
  refine Seq.ext fun k => ?_
  rw [Seq.drop_get?, Seq.ofList_get?, Seq.ofList_get?, List.getElem?_drop]

theorem readLoop_sound {fuel i : ℕ}
    (h : readLoop parse reads fuel i (s.take n) (s.drop n) = some (b, rest)) :
    ∃ m, parse (s.take m) = some b ∧ rest = s.drop m := by
  induction fuel generalizing i n with
  | zero => cases h
  | succ fuel ih =>
    simp only [readLoop, take_append_take_drop, ← Seq.dropn_add] at h
    cases hparse : parse (s.take (n + reads i)) with
    | some b' =>
      rw [hparse] at h
      obtain ⟨rfl, rfl⟩ := Prod.mk.inj (Option.some.inj h)
      exact ⟨_, hparse, rfl⟩
    | none =>
      rw [hparse] at h
      exact ih h

/-- A result is that of the parser on some part of the stream. -/
theorem Returns.sound (h : Returns parse reads s b rest) :
    ∃ n, parse (s.take n) = some b ∧ rest = s.drop n := by
  obtain ⟨fuel, hfuel⟩ := h
  exact readLoop_sound (n := 0) (by simpa using hfuel)

theorem readLoop_progress (hreads : ∀ i, 0 < reads i)
    (hparse : ∀ m, n ≤ m → (parse (s.take m)).isSome) {k i : ℕ} (hk : n ≤ m + k) :
    ∃ b rest, readLoop parse reads (k + 1) i (s.take m) (s.drop m) = some (b, rest) := by
  induction k generalizing m i with
  | zero =>
    obtain ⟨b, hb⟩ := Option.isSome_iff_exists.mp (hparse (m + reads i) (by omega))
    refine ⟨b, s.drop (m + reads i), ?_⟩
    simp only [readLoop, take_append_take_drop, ← Seq.dropn_add, hb]
  | succ k ih =>
    have hpos := hreads i
    cases hb : parse (s.take (m + reads i)) with
    | some b =>
      refine ⟨b, s.drop (m + reads i), ?_⟩
      rw [readLoop]
      simp only [take_append_take_drop, ← Seq.dropn_add, hb]
    | none =>
      obtain ⟨b, rest, hrest⟩ := ih (m := m + reads i) (i := i + 1) (by omega)
      refine ⟨b, rest, ?_⟩
      rw [readLoop]
      simp only [take_append_take_drop, ← Seq.dropn_add, hb]
      exact hrest

/-- Reads that bring something end the loop, if every long enough part satisfies the parser. -/
theorem exists_returns (hreads : ∀ i, 0 < reads i)
    (hparse : ∀ m, n ≤ m → (parse (s.take m)).isSome) : ∃ b rest, Returns parse reads s b rest := by
  obtain ⟨b, rest, h⟩ := readLoop_progress (m := 0) (k := n) (i := 0) hreads hparse (by omega)
  exact ⟨b, rest, n + 1, by simpa using h⟩

/-- The parser is satisfied after the first read. -/
theorem returns_of_first (h : parse (s.take (reads 0)) = some b) :
    Returns parse reads s b (s.drop (reads 0)) := by
  refine ⟨1, ?_⟩
  simp only [readLoop, List.nil_append, h]

theorem readLoop_mono {fuel k i : ℕ} {buf : List α}
    (h : readLoop parse reads fuel i buf s = some (b, rest)) :
    readLoop parse reads (fuel + k) i buf s = some (b, rest) := by
  induction fuel generalizing i buf s with
  | zero => cases h
  | succ fuel ih =>
    rw [Nat.add_right_comm]
    simp only [readLoop] at h ⊢
    cases hparse : parse (buf ++ s.take (reads i)) with
    | some b' =>
      rw [hparse] at h
      exact h
    | none =>
      rw [hparse] at h
      exact ih h

theorem Returns.unique (h : Returns parse reads s b rest) (h' : Returns parse reads s b' rest') :
    b = b' ∧ rest = rest' := by
  obtain ⟨fuel, hfuel⟩ := h
  obtain ⟨fuel', hfuel'⟩ := h'
  have hmono := readLoop_mono (k := fuel') hfuel
  have hmono' := readLoop_mono (k := fuel) hfuel'
  rw [Nat.add_comm, hmono] at hmono'
  exact Prod.mk.inj (Option.some.inj hmono')

end ReadLoop
