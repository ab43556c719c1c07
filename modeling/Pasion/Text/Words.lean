import Mathlib.Data.List.DropRight
import Pasion.Text.Str

/-! Trimming a text, and the words of a text that white space separates. -/
namespace Str

def trim (l : List Char) : List Char := (l.dropWhile isWhitespace).rdropWhile isWhitespace

def isAsciiWhitespace (c : Char) : Bool :=
  c.toNat = 32 || c.toNat = 9 || c.toNat = 10 || c.toNat = 12 || c.toNat = 13

/-- `split_ascii_whitespace`. -/
def words (l : List Char) : List (List Char) :=
  (l.splitOnP isAsciiWhitespace).filter (fun w => !w.isEmpty)

section Words

/-- How many characters belong to words. -/
def weight (l : List Char) : ℕ := l.countP (fun c => !isAsciiWhitespace c)

theorem weight_eq_sum (l : List Char) :
    weight l = ((l.splitOnP isAsciiWhitespace).map List.length).sum := by
  unfold weight
  induction l with
  | nil => simp
  | cons c rest ih =>
    obtain ⟨w, ws, hsplit⟩ := List.exists_cons_of_ne_nil
      (List.splitOnP_ne_nil isAsciiWhitespace rest)
    rw [List.splitOnP_cons_eq_if_modifyHead, List.countP_cons, ih, hsplit]
    cases hc : isAsciiWhitespace c with
    | true => simp
    | false =>
      simp only [Bool.not_false, if_true, Bool.false_eq_true, if_false, List.modifyHead_cons,
        List.map_cons, List.length_cons, List.sum_cons]
      omega

theorem sum_length_words (l : List Char) : ((words l).map List.length).sum = weight l := by
  have hfilter : ∀ ws : List (List Char),
      ((ws.filter (fun w => !w.isEmpty)).map List.length).sum = (ws.map List.length).sum := by
    intro ws
    induction ws with
    | nil => rfl
    | cons w rest ih =>
      cases w with
      | nil => simpa using ih
      | cons c cs => simpa using ih
  rw [words, hfilter, weight_eq_sum]

theorem ne_nil_of_mem_words {l w : List Char} (h : w ∈ words l) : w ≠ [] := by
  have hfilter := (List.mem_filter.mp h).2
  simpa using hfilter

theorem not_isAsciiWhitespace_of_mem_words {l w : List Char} (h : w ∈ words l) {c : Char}
    (hc : c ∈ w) : isAsciiWhitespace c = false := by
  have hsplit := (List.mem_filter.mp h).1
  clear h
  induction l generalizing w with
  | nil =>
    rw [List.splitOnP_nil, List.mem_singleton] at hsplit
    rw [hsplit] at hc
    cases hc
  | cons d rest ih =>
    rw [List.splitOnP_cons_eq_if_modifyHead] at hsplit
    split_ifs at hsplit with hd
    · obtain rfl | hsplit := List.mem_cons.mp hsplit
      · cases hc
      · exact ih hc hsplit
    · obtain ⟨v, vs, hrest⟩ := List.exists_cons_of_ne_nil
        (List.splitOnP_ne_nil isAsciiWhitespace rest)
      rw [hrest] at hsplit ih
      rw [List.modifyHead_cons] at hsplit
      obtain rfl | hsplit := List.mem_cons.mp hsplit
      · obtain rfl | hc := List.mem_cons.mp hc
        · simpa using hd
        · exact ih hc List.mem_cons_self
      · exact ih hc (List.mem_cons_of_mem _ hsplit)

/-- Words that are joined by spaces are read back. -/
theorem words_intercalate {ws : List (List Char)} (hne : ∀ w ∈ ws, w ≠ [])
    (hchars : ∀ w ∈ ws, ∀ c ∈ w, isAsciiWhitespace c = false) :
    words ([' '].intercalate ws) = ws := by
  unfold words
  induction ws with
  | nil => rfl
  | cons w rest ih =>
    have hw : w.splitOnP isAsciiWhitespace = [w] :=
      List.splitOnP_eq_singleton (hchars w List.mem_cons_self)
    have hkeep : [w].filter (fun w => !w.isEmpty) = [w] := by
      simpa using hne w List.mem_cons_self
    cases rest with
    | nil =>
      rw [List.intercalate_singleton, hw, hkeep]
    | cons v rest =>
      have hrest := ih (fun w hw => hne w (List.mem_cons_of_mem _ hw))
        (fun w hw => hchars w (List.mem_cons_of_mem _ hw))
      rw [List.intercalate_cons_cons, List.append_assoc, List.singleton_append,
        List.splitOnP_append_cons _ _ (by decide), List.filter_append, hw, hkeep, hrest,
        List.singleton_append]

end Words

section Trim

variable {l : List Char}

theorem trim_eq_self (hhead : ∀ c ∈ l.head?, isWhitespace c = false)
    (hlast : ∀ c ∈ l.getLast?, isWhitespace c = false) : trim l = l := by
  have hdrop : l.dropWhile isWhitespace = l := by
    cases l with
    | nil => rfl
    | cons c rest => rw [List.dropWhile_cons_of_neg (by simpa using hhead c rfl)]
  unfold trim
  rw [hdrop, List.rdropWhile_eq_self_iff]
  intro hne
  simpa using hlast _ (List.getLast?_eq_some_getLast hne)

theorem weight_dropWhile_le (l : List Char) : weight (l.dropWhile isWhitespace) ≤ weight l :=
  (List.dropWhile_sublist _).countP_le

theorem weight_rdropWhile_le (l : List Char) : weight (l.rdropWhile isWhitespace) ≤ weight l :=
  (List.rdropWhile_prefix _ l).sublist.countP_le

/-- Trimming takes away from a word at the beginning whose first character is blank to it. -/
theorem weight_trim_lt_of_head {c : Char} (hspace : isWhitespace c)
    (hword : isAsciiWhitespace c = false) : weight (trim (c :: l)) < weight (c :: l) := by
  have hdrop : (c :: l).dropWhile isWhitespace = l.dropWhile isWhitespace :=
    List.dropWhile_cons_of_pos hspace
  have hcons : weight (c :: l) = weight l + 1 := by simp [weight, hword]
  have h₁ := weight_rdropWhile_le (l.dropWhile isWhitespace)
  have h₂ := weight_dropWhile_le l
  unfold trim
  rw [hdrop]
  omega

/-- And likewise from a word at the end. -/
theorem weight_trim_lt_of_last {c : Char} (hspace : isWhitespace c)
    (hword : isAsciiWhitespace c = false) : weight (trim (l ++ [c])) < weight (l ++ [c]) := by
  have hconcat : weight (l ++ [c]) = weight l + 1 := by simp [weight, hword]
  have hle : weight (trim (l ++ [c])) ≤ weight l := by
    unfold trim
    rw [List.dropWhile_append]
    split_ifs with hempty
    · rw [List.dropWhile_cons_of_pos hspace]
      simp [weight]
    · rw [List.rdropWhile_concat_pos _ _ _ hspace]
      exact (weight_rdropWhile_le _).trans (weight_dropWhile_le l)
  omega

end Trim

theorem toList_join (l : List String) :
    (join " " l).toList = [' '].intercalate (l.map String.toList) := by
  induction l with
  | nil => rfl
  | cons s rest ih =>
    cases rest with
    | nil => simp [join]
    | cons t rest =>
      rw [List.map_cons, List.map_cons, List.intercalate_cons_cons, ← List.map_cons, ← ih]
      simp [join, String.toList_append]

/-- Texts without spaces that are joined by spaces are the pieces between them. -/
theorem split_join {l : List String} (hne : l ≠ []) (hspace : ∀ s ∈ l, ' ' ∉ s.toList) :
    split (join " " l) ' ' = l := by
  have hpieces : ∀ piece ∈ l.map String.toList, ' ' ∉ piece := by
    intro piece hpiece
    obtain ⟨s, hs, rfl⟩ := List.mem_map.mp hpiece
    exact hspace s hs
  have hlist : l.map String.toList ≠ [] := by simpa using hne
  unfold split
  rw [toList_join, List.splitOn_intercalate ' ' hpieces hlist, List.map_map]
  simp

end Str
