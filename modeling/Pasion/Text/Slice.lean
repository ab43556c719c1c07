import Mathlib.Data.List.TakeWhile
import Pasion.Text.Str

/-! Byte offsets into texts: where a character occurs, and the slices between offsets. -/
namespace Str

def byteLen (l : List Char) : ℕ := (l.map Char.utf8Size).sum

def len (s : String) : ℕ := byteLen s.toList

@[simp]
theorem byteLen_append (a b : List Char) : byteLen (a ++ b) = byteLen a + byteLen b := by
  simp [byteLen]

@[simp]
theorem byteLen_cons (c : Char) (l : List Char) : byteLen (c :: l) = c.utf8Size + byteLen l := by
  simp [byteLen]

@[simp] theorem byteLen_nil : byteLen [] = 0 := rfl

/-- Cuts a text at a byte offset; there is no cut inside a character or after the end. -/
def cut : List Char → ℕ → Option (List Char × List Char)
  | l, 0 => some ([], l)
  | [], _ + 1 => none
  | c :: rest, n + 1 =>
    if c.utf8Size ≤ n + 1 then (cut rest (n + 1 - c.utf8Size)).map (fun r => (c :: r.1, r.2))
    else none

def sliceTo (s : String) (n : ℕ) : Option String := (cut s.toList n).map (fun r => .ofList r.1)

def sliceFrom (s : String) (n : ℕ) : Option String := (cut s.toList n).map (fun r => .ofList r.2)

def slice (s : String) (i j : ℕ) : Option String := (sliceTo s j).bind (sliceFrom · i)

theorem cut_append (a b : List Char) : cut (a ++ b) (byteLen a) = some (a, b) := by
  induction a with
  | nil => simp [cut]
  | cons c rest ih =>
    have hsize := c.utf8Size_pos
    obtain ⟨n, hn⟩ := Nat.exists_eq_add_of_lt (Nat.add_pos_left hsize (byteLen rest))
    have hsucc : byteLen (c :: rest) = n + 1 := by
      rw [byteLen_cons]
      omega
    have hle : c.utf8Size ≤ n + 1 := by
      rw [← hsucc, byteLen_cons]
      omega
    have hrest : n + 1 - c.utf8Size = byteLen rest := by
      rw [← hsucc, byteLen_cons]
      omega
    rw [List.cons_append, hsucc, cut, if_pos hle, hrest, ih]
    rfl

theorem sliceTo_append (a b : String) : sliceTo (a ++ b) (len a) = some a := by
  rw [sliceTo, String.toList_append, len, cut_append]
  simp

theorem sliceFrom_append (a b : String) : sliceFrom (a ++ b) (len a) = some b := by
  rw [sliceFrom, String.toList_append, len, cut_append]
  simp

@[simp] theorem len_append (a b : String) : len (a ++ b) = len a + len b := by simp [len]

/-- The byte offsets at which a character occurs. -/
def offsets (c : Char) (offset : ℕ) : List Char → List ℕ
  | [] => []
  | d :: rest =>
    if d = c then offset :: offsets c (offset + d.utf8Size) rest
    else offsets c (offset + d.utf8Size) rest

theorem offsets_eq_nil {c : Char} {k : ℕ} {l : List Char} : offsets c k l = [] ↔ c ∉ l := by
  induction l generalizing k with
  | nil => simp [offsets]
  | cons d rest ih =>
    by_cases hd : d = c
    · simp [offsets, hd]
    · simp [offsets, hd, Ne.symm hd, ih]

theorem offsets_append_cons {c : Char} {k : ℕ} {a b : List Char} (ha : c ∉ a) :
    offsets c k (a ++ c :: b) = (k + byteLen a) :: offsets c (k + byteLen a + c.utf8Size) b := by
  induction a generalizing k with
  | nil => simp [offsets]
  | cons d rest ih =>
    obtain ⟨hd, hrest⟩ := List.ne_and_not_mem_of_not_mem_cons ha
    rw [List.cons_append, offsets, if_neg (Ne.symm hd), ih hrest, byteLen_cons, Nat.add_assoc k]

/-- The first offset is where the character occurs first. -/
theorem offsets_eq_cons {c : Char} {k i : ℕ} {rest : List ℕ} {l : List Char}
    (h : offsets c k l = i :: rest) :
    ∃ a b, l = a ++ c :: b ∧ c ∉ a ∧ i = k + byteLen a ∧ rest = offsets c (i + c.utf8Size) b := by
  have hmem : c ∈ l := by
    by_contra hnot
    rw [offsets_eq_nil.mpr hnot] at h
    cases h
  obtain ⟨a, b, hl, ha⟩ := List.eq_append_cons_of_mem hmem
  rw [hl, offsets_append_cons ha] at h
  obtain ⟨hi, hrest⟩ := List.cons.inj h
  exact ⟨a, b, hl, ha, hi.symm, by rw [← hrest, hi]⟩

/-- `split_once`: what stands before the first occurrence of a character, and what after it. -/
def splitOnce (c : Char) (s : String) : Option (String × String) :=
  match s.toList.dropWhile (· ≠ c) with
  | [] => none
  | _ :: rest => some (.ofList (s.toList.takeWhile (· ≠ c)), .ofList rest)

theorem splitOnce_append {c : Char} {front sep back : String} (hsep : sep.toList = [c])
    (hfront : c ∉ front.toList) : splitOnce c (front ++ sep ++ back) = some (front, back) := by
  have hpass : ∀ d ∈ front.toList, decide (d ≠ c) = true := by
    intro d hd
    exact decide_eq_true fun heq => hfront (heq ▸ hd)
  unfold splitOnce
  simp only [String.toList_append, hsep, List.append_assoc]
  rw [List.dropWhile_append_of_pos hpass, List.takeWhile_append_of_pos hpass]
  simp

theorem splitOnce_eq_none {c : Char} {s : String} : splitOnce c s = none ↔ c ∉ s.toList := by
  unfold splitOnce
  split
  · next hdrop =>
    rw [List.dropWhile_eq_nil_iff] at hdrop
    simpa using fun hc => absurd (hdrop c hc) (by simp)
  · next d rest hdrop =>
    have hmem : ¬∀ x ∈ s.toList, decide (x ≠ c) = true := by
      intro hall
      rw [List.dropWhile_eq_nil_iff.mpr hall] at hdrop
      cases hdrop
    simpa using hmem

theorem eq_of_splitOnce {c : Char} {s sep front back : String} (hsep : sep.toList = [c])
    (h : splitOnce c s = some (front, back)) : s = front ++ sep ++ back := by
  have hmem : c ∈ s.toList := by
    by_contra hnot
    rw [splitOnce_eq_none.mpr hnot] at h
    cases h
  obtain ⟨a, b, hs, ha⟩ := List.eq_append_cons_of_mem hmem
  have hwhole : s = .ofList a ++ sep ++ .ofList b := by
    apply String.toList_inj.mp
    simp [hs, hsep]
  have hfront : c ∉ (String.ofList a).toList := by simpa using ha
  rw [hwhole, splitOnce_append hsep hfront] at h
  obtain ⟨rfl, rfl⟩ := Prod.mk.inj (Option.some.inj h)
  exact hwhole

end Str
