import Pasion.Text.Str

/-! Header values as bytes, and the text they hold. -/
namespace Http

variable {c : Char}

/-- Visible ASCII, the blank and the tab. -/
def isVisible (b : UInt8) : Bool := (32 ≤ b && b < 127) || b = 9

/-- The text of a header value, if every byte of it is visible. -/
def toStr (value : List UInt8) : Option String :=
  if value.all isVisible then some (.ofList (value.map (fun b => Char.ofNat b.toNat))) else none

/-- The characters that a visible byte stands for. -/
def isVisibleChar (c : Char) : Bool := (32 ≤ c.toNat && c.toNat < 127) || c.toNat = 9

theorem lt_of_isVisibleChar (h : isVisibleChar c) : c.toNat < 127 := by
  simp only [isVisibleChar, Bool.or_eq_true, Bool.and_eq_true, decide_eq_true_eq] at h
  omega

theorem utf8EncodeChar_of_isVisibleChar (h : isVisibleChar c) :
    String.utf8EncodeChar c = [c.toNat.toUInt8] := by
  have hlt := lt_of_isVisibleChar h
  have hsize : c.utf8Size = 1 := by
    rw [Char.utf8Size_eq_one_iff, UInt32.le_iff_toNat_le]
    exact Nat.le_of_lt hlt
  rw [String.utf8EncodeChar_eq_singleton hsize]
  rfl

theorem toNat_byte_of_isVisibleChar (h : isVisibleChar c) : c.toNat.toUInt8.toNat = c.toNat := by
  have hlt := lt_of_isVisibleChar h
  rw [Nat.toUInt8_eq, UInt8.toNat_ofNat']
  omega

theorem isVisible_of_isVisibleChar (h : isVisibleChar c) : isVisible c.toNat.toUInt8 := by
  have hbyte := toNat_byte_of_isVisibleChar h
  simp only [isVisibleChar, isVisible, Bool.or_eq_true, Bool.and_eq_true, decide_eq_true_eq,
    UInt8.le_iff_toNat_le, UInt8.lt_iff_toNat_lt, ← UInt8.toNat_inj, hbyte] at h ⊢
  exact h

theorem decode_encode {cs : List Char} (h : cs.all isVisibleChar) :
    (cs.flatMap String.utf8EncodeChar).all isVisible ∧
      (cs.flatMap String.utf8EncodeChar).map (fun b => Char.ofNat b.toNat) = cs := by
  induction cs with
  | nil => exact ⟨rfl, rfl⟩
  | cons c cs ih =>
    obtain ⟨hc, hcs⟩ := Bool.and_eq_true_iff.mp h
    obtain ⟨hvisible, hdecode⟩ := ih hcs
    rw [List.flatMap_cons, utf8EncodeChar_of_isVisibleChar hc, List.singleton_append]
    constructor
    · rw [List.all_cons, isVisible_of_isVisibleChar hc, hvisible]
      rfl
    · rw [List.map_cons, hdecode, toNat_byte_of_isVisibleChar hc, Char.ofNat_toNat]

/-- A text of visible characters is what the header value that carries it says. -/
theorem toStr_bytes {s : String} (h : s.toList.all isVisibleChar) : toStr (Str.bytes s) = some s := by
  obtain ⟨hvisible, hdecode⟩ := decode_encode h
  unfold toStr Str.bytes
  rw [if_pos hvisible, hdecode, String.ofList_toList]

end Http
