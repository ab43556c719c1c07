import Mathlib.Algebra.Ring.Nat
import Mathlib.Tactic.Common

/-! String operations by way of the characters, so that they compute. -/
namespace Str

variable {s p r : String}

def stripPrefix (p s : String) : Option String :=
  if p.toList.isPrefixOf s.toList then some (.ofList (s.toList.drop p.toList.length)) else none

def startsWith (s p : String) : Bool := p.toList.isPrefixOf s.toList

/-- The pieces between the occurrences of `c`. -/
def split (s : String) (c : Char) : List String := (s.toList.splitOn c).map .ofList

/-- The UTF-8 encoding. -/
def bytes (s : String) : List UInt8 := s.toList.flatMap String.utf8EncodeChar

def join (sep : String) : List String → String
  | [] => ""
  | [s] => s
  | s :: rest => s ++ sep ++ join sep rest

/-- Characters with the Unicode property `White_Space`. -/
def isWhitespace (c : Char) : Bool :=
  (9 ≤ c.toNat && c.toNat ≤ 13) || c.toNat = 32 || c.toNat = 0x85 || c.toNat = 0xA0 ||
    c.toNat = 0x1680 || (0x2000 ≤ c.toNat && c.toNat ≤ 0x200A) || c.toNat = 0x2028 ||
    c.toNat = 0x2029 || c.toNat = 0x202F || c.toNat = 0x205F || c.toNat = 0x3000

/-- Whether trimming leaves nothing. -/
def isBlank (s : String) : Bool := s.toList.all isWhitespace

def digitValue (c : Char) : Option ℕ :=
  if '0' ≤ c ∧ c ≤ '9' then some (c.toNat - '0'.toNat) else none

def digitsValue (digits : List Char) : Option ℕ :=
  digits.foldlM (fun n c => (digitValue c).map (10 * n + ·)) 0

/-- A decimal number below `bound`, with or without a plus sign. -/
def parseUnsigned (bound : ℕ) (s : String) : Option ℕ :=
  let digits := match s.toList with
    | '+' :: rest => rest
    | all => all
  if digits.isEmpty then none else (digitsValue digits).filter (· < bound)

theorem startsWith_iff : startsWith s p ↔ ∃ r, s = p ++ r := by
  simp only [startsWith, List.isPrefixOf_iff_prefix]
  constructor
  · rintro ⟨r, hr⟩
    refine ⟨.ofList r, String.toList_inj.mp ?_⟩
    rw [String.toList_append, String.toList_ofList, hr]
  · rintro ⟨r, rfl⟩
    exact ⟨r.toList, by rw [String.toList_append]⟩

theorem startsWith_append (h : startsWith s p) : startsWith (s ++ r) p := by
  obtain ⟨q, rfl⟩ := startsWith_iff.mp h
  exact startsWith_iff.mpr ⟨q ++ r, String.append_assoc⟩

/-- A string has the characters of its beginnings. -/
theorem getElem?_of_startsWith {i : ℕ} {c : Char} (h : startsWith s p)
    (hc : p.toList[i]? = some c) : s.toList[i]? = some c := by
  obtain ⟨r, rfl⟩ := startsWith_iff.mp h
  rw [String.toList_append, List.getElem?_append_left (List.getElem?_eq_some_iff.mp hc).1, hc]

theorem stripPrefix_some (h : stripPrefix p s = some r) : s = p ++ r := by
  unfold stripPrefix at h
  split_ifs at h with hp
  obtain ⟨q, hq⟩ := List.isPrefixOf_iff_prefix.mp hp
  have hr : r = .ofList (s.toList.drop p.toList.length) := (Option.some.inj h).symm
  rw [hr, ← hq, List.drop_left]
  refine String.toList_inj.mp ?_
  rw [String.toList_append, String.toList_ofList, hq]

theorem stripPrefix_append (p r : String) : stripPrefix p (p ++ r) = some r := by
  unfold stripPrefix
  rw [String.toList_append, if_pos (List.isPrefixOf_iff_prefix.mpr ⟨_, rfl⟩), List.drop_left,
    String.ofList_toList]

/-- At most one of two prefixes fits, if no string has both. -/
theorem findSome?_stripPrefix {q d : String} (hpq : ∀ r r', p ++ r ≠ q ++ r') :
    [p, q].findSome? (fun p => stripPrefix p s) = some d ↔ s = p ++ d ∨ s = q ++ d := by
  simp only [List.findSome?_cons, List.findSome?_nil]
  constructor
  · intro h
    cases hp : stripPrefix p s with
    | some r =>
      rw [hp] at h
      exact .inl (Option.some.inj h ▸ stripPrefix_some hp)
    | none =>
      rw [hp] at h
      cases hq : stripPrefix q s with
      | none => simp [hq] at h
      | some r =>
        rw [hq] at h
        exact .inr (Option.some.inj h ▸ stripPrefix_some hq)
  · rintro (rfl | rfl)
    · rw [stripPrefix_append]
    · cases hp : stripPrefix p (q ++ d) with
      | none => simp only [stripPrefix_append]
      | some r => exact absurd (stripPrefix_some hp).symm (hpq r d)

theorem mem_split_append {a b : String} {c : Char} (hb : c ∉ b.toList) :
    b ∈ split (a ++ String.singleton c ++ b) c := by
  unfold split
  rw [String.toList_append, String.toList_append, String.toList_singleton, List.append_assoc,
    List.singleton_append, List.splitOn_append_cons_self, List.splitOn_eq_singleton hb]
  simp

end Str
