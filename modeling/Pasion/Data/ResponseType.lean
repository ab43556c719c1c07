import Pasion.Data.ClientMetadata

/-! Response types as texts: when the text of a response type is read back as the same one. -/
namespace Pasion

namespace ResponseTypeToken

def toString : ResponseTypeToken → String
  | code => "code"
  | idToken => "id_token"
  | token => "token"
  | unknown v => v

def fromStr (s : String) : ResponseTypeToken :=
  if s = "code" then code
  else if s = "id_token" then idToken
  else if s = "token" then token
  else unknown s

@[simp]
theorem toString_fromStr (s : String) : (fromStr s).toString = s := by
  unfold fromStr
  split_ifs with h₁ h₂ h₃
  · exact h₁.symm
  · exact h₂.symm
  · exact h₃.symm
  · rfl

/-- The place among the alternatives, and the text of the last one. -/
def key : ResponseTypeToken → ℕ × String
  | code => (0, "")
  | idToken => (1, "")
  | token => (2, "")
  | unknown v => (3, v)

theorem compare_eq_key (a b : ResponseTypeToken) :
    compare a b = compareLex (compareOn (·.key.1)) (compareOn (·.key.2)) a b := by
  cases a <;> cases b <;> try rfl
  case unknown.unknown v w =>
    change (compare v w).then .eq = compare v w
    cases compare v w <;> rfl

instance : Std.TransOrd ResponseTypeToken := by
  have hcompare : (compare : ResponseTypeToken → ResponseTypeToken → Ordering) =
      compareLex (compareOn (·.key.1)) (compareOn (·.key.2)) :=
    funext fun a => funext fun b => compare_eq_key a b
  unfold Std.TransOrd
  rw [hcompare]
  infer_instance

theorem eq_of_compare {a b : ResponseTypeToken} (h : compare a b = .eq) : a = b := by
  rw [compare_eq_key, compareLex_eq_eq] at h
  obtain ⟨hplace, htext⟩ := h
  cases a <;> cases b <;> simp_all [key, compareOn]

end ResponseTypeToken

namespace ResponseType

open ResponseTypeToken

variable {t : ResponseTypeToken} {l : List ResponseTypeToken} {r : ResponseType}

def insertToken (t : ResponseTypeToken) : List ResponseTypeToken → List ResponseTypeToken
  | [] => [t]
  | u :: rest =>
    match compare t u with
    | .lt => t :: u :: rest
    | .eq => u :: rest
    | .gt => u :: insertToken t rest

theorem mem_insertToken {x : ResponseTypeToken} : x ∈ insertToken t l ↔ x = t ∨ x ∈ l := by
  induction l with
  | nil => simp [insertToken]
  | cons u rest ih =>
    unfold insertToken
    cases hcompare : compare t u with
    | lt => simp
    | eq =>
      obtain rfl := eq_of_compare hcompare
      simp
    | gt =>
      simp only [List.mem_cons, ih]
      tauto

theorem sorted_insertToken (h : l.Pairwise (fun a b => compare a b = .lt)) :
    (insertToken t l).Pairwise (fun a b => compare a b = .lt) := by
  induction l with
  | nil => exact List.pairwise_singleton _ _
  | cons u rest ih =>
    obtain ⟨hu, hrest⟩ := List.pairwise_cons.mp h
    unfold insertToken
    cases hcompare : compare t u with
    | lt =>
      refine List.pairwise_cons.mpr ⟨?_, h⟩
      intro x hx
      obtain rfl | hx := List.mem_cons.mp hx
      · exact hcompare
      · exact Std.TransCmp.lt_trans hcompare (hu x hx)
    | eq => exact h
    | gt =>
      refine List.pairwise_cons.mpr ⟨?_, ih hrest⟩
      intro x hx
      obtain rfl | hx := mem_insertToken.mp hx
      · exact Std.OrientedCmp.lt_of_gt hcompare
      · exact hu x hx

def empty : ResponseType := ⟨[], .nil⟩

def insert (r : ResponseType) (t : ResponseTypeToken) : ResponseType :=
  ⟨insertToken t r.tokens, sorted_insertToken r.sorted⟩

def collect (ts : List ResponseTypeToken) : ResponseType := ts.foldl insert empty

def toString (r : ResponseType) : String :=
  if r.tokens.isEmpty then "none" else Str.join " " (r.tokens.map ResponseTypeToken.toString)

def fromStr (s : String) : Option ResponseType :=
  let trimmed := Str.trim s.toList
  if trimmed = [] then none
  else if trimmed = "none".toList then some empty
  else some (collect ((Str.words trimmed).map (fun w => ResponseTypeToken.fromStr (.ofList w))))

section Collect

variable {ts : List ResponseTypeToken}

theorem mem_foldl_insert {r : ResponseType} {t : ResponseTypeToken} :
    t ∈ (ts.foldl insert r).tokens ↔ t ∈ ts ∨ t ∈ r.tokens := by
  induction ts generalizing r with
  | nil => simp
  | cons u rest ih =>
    rw [List.foldl_cons, ih, insert, mem_insertToken, List.mem_cons]
    tauto

theorem mem_collect {t : ResponseTypeToken} : t ∈ (collect ts).tokens ↔ t ∈ ts := by
  rw [collect, mem_foldl_insert]
  simp [empty]

theorem eq_of_mem_iff {r r' : ResponseType} (h : ∀ t, t ∈ r.tokens ↔ t ∈ r'.tokens) : r = r' := by
  have hirrefl : Std.Irrefl (fun a b : ResponseTypeToken => compare a b = .lt) :=
    ⟨fun a ha => by simp [Std.ReflCmp.compare_self] at ha⟩
  have hantisymm : Std.Antisymm (fun a b : ResponseTypeToken => compare a b = .lt) :=
    ⟨fun a b hab hba => absurd (Std.TransCmp.lt_trans hab hba) (by simp [Std.ReflCmp.compare_self])⟩
  have htokens : r.tokens = r'.tokens := List.Pairwise.eq_of_mem_iff r.sorted r'.sorted h
  cases r
  cases r'
  cases htokens
  rfl

theorem collect_tokens (r : ResponseType) : collect r.tokens = r :=
  eq_of_mem_iff fun _ => mem_collect

def size (ts : List ResponseTypeToken) : ℕ := (ts.map (·.toString.toList.length)).sum

theorem size_insertToken_le (t : ResponseTypeToken) (l : List ResponseTypeToken) :
    size (insertToken t l) ≤ t.toString.toList.length + size l := by
  induction l with
  | nil => simp [insertToken, size]
  | cons u rest ih =>
    unfold insertToken
    cases hcompare : compare t u with
    | lt => simp [size]
    | eq =>
      simp only [size, List.map_cons, List.sum_cons]
      omega
    | gt =>
      simp only [size, List.map_cons, List.sum_cons] at ih ⊢
      omega

theorem size_collect_le (ts : List ResponseTypeToken) : size (collect ts).tokens ≤ size ts := by
  have hfold : ∀ r : ResponseType,
      size (ts.foldl insert r).tokens ≤ size ts + size r.tokens := by
    induction ts with
    | nil => simp [size]
    | cons t rest ih =>
      intro r
      have h₁ := ih (r.insert t)
      have h₂ := size_insertToken_le t r.tokens
      have h₃ : size (t :: rest) = t.toString.toList.length + size rest := rfl
      rw [List.foldl_cons]
      change size (r.insert t).tokens ≤ _ at h₂
      omega
  exact hfold empty

end Collect

/-- The tokens of a response type that has been read: words, and known ones under their names. -/
structure IsRead (r : ResponseType) : Prop where
  ne_nil : ∀ t ∈ r.tokens, t.toString.toList ≠ []
  chars : ∀ t ∈ r.tokens, ∀ c ∈ t.toString.toList, Str.isAsciiWhitespace c = false
  known : ∀ t ∈ r.tokens, ResponseTypeToken.fromStr t.toString = t

theorem isRead_of_fromStr {s : String} (h : fromStr s = some r) : r.IsRead := by
  unfold fromStr at h
  dsimp only at h
  split_ifs at h with hempty hnone
  · cases h
    exact ⟨by simp [empty], by simp [empty], by simp [empty]⟩
  · cases h
    have hword : ∀ t ∈ (collect ((Str.words (Str.trim s.toList)).map
        (fun w => ResponseTypeToken.fromStr (.ofList w)))).tokens,
        ∃ w ∈ Str.words (Str.trim s.toList), ResponseTypeToken.fromStr (.ofList w) = t := by
      intro t ht
      exact List.mem_map.mp (mem_collect.mp ht)
    refine ⟨?_, ?_, ?_⟩
    · intro t ht
      obtain ⟨w, hw, rfl⟩ := hword t ht
      rw [toString_fromStr, String.toList_ofList]
      exact Str.ne_nil_of_mem_words hw
    · intro t ht c hc
      obtain ⟨w, hw, rfl⟩ := hword t ht
      rw [toString_fromStr, String.toList_ofList] at hc
      exact Str.not_isAsciiWhitespace_of_mem_words hw hc
    · intro t ht
      obtain ⟨w, hw, rfl⟩ := hword t ht
      rw [toString_fromStr]

def text (r : ResponseType) : List Char := [' '].intercalate (r.tokens.map (·.toString.toList))

theorem toList_toString (h : r.tokens ≠ []) : r.toString.toList = r.text := by
  unfold toString text
  rw [if_neg (by simpa using h), Str.toList_join, List.map_map]
  rfl

theorem IsRead.words_text (h : r.IsRead) : Str.words r.text = r.tokens.map (·.toString.toList) := by
  apply Str.words_intercalate
  · intro w hw
    obtain ⟨t, ht, rfl⟩ := List.mem_map.mp hw
    exact h.ne_nil t ht
  · intro w hw
    obtain ⟨t, ht, rfl⟩ := List.mem_map.mp hw
    exact h.chars t ht

/-- The words of the text are the tokens again. -/
theorem IsRead.collect_words (h : r.IsRead) :
    collect ((Str.words r.text).map (fun w => ResponseTypeToken.fromStr (.ofList w))) = r := by
  rw [h.words_text, List.map_map]
  have hid : r.tokens.map ((fun w => ResponseTypeToken.fromStr (.ofList w)) ∘
      (·.toString.toList)) = r.tokens := by
    calc r.tokens.map _ = r.tokens.map id := by
          refine List.map_congr_left fun t ht => ?_
          change ResponseTypeToken.fromStr (.ofList t.toString.toList) = t
          rw [String.ofList_toList, h.known t ht]
      _ = r.tokens := List.map_id _
  rw [hid, collect_tokens]

theorem IsRead.weight_text (h : r.IsRead) : Str.weight r.text = size r.tokens := by
  rw [← Str.sum_length_words, h.words_text, List.map_map]
  rfl

/-- What is read from a text is no longer than the text without its blanks. -/
theorem size_fromStr_le {s : String} (h : fromStr s = some r) :
    size r.tokens ≤ Str.weight (Str.trim s.toList) := by
  unfold fromStr at h
  dsimp only at h
  split_ifs at h with hempty hnone
  · cases h
    exact Nat.zero_le _
  · cases h
    refine (size_collect_le _).trans (Nat.le_of_eq ?_)
    rw [← Str.sum_length_words]
    unfold size
    rw [List.map_map]
    congr 1
    refine List.map_congr_left fun w _ => ?_
    simp

/-- The one token is not `none`, and the tokens neither begin nor end with a blank. -/
structure ReadsBack (r : ResponseType) : Prop where
  not_none : r.tokens ≠ [.unknown "none"]
  head : ∀ t ∈ r.tokens.head?, ∀ c ∈ t.toString.toList.head?, Str.isWhitespace c = false
  last : ∀ t ∈ r.tokens.getLast?, ∀ c ∈ t.toString.toList.getLast?, Str.isWhitespace c = false

theorem text_eq_of_head (h : t ∈ r.tokens.head?) : ∃ rest, r.text = t.toString.toList ++ rest := by
  unfold text
  cases htokens : r.tokens with
  | nil => simp [htokens] at h
  | cons u rest =>
    obtain rfl : u = t := by simpa [htokens] using h
    cases rest with
    | nil => exact ⟨[], by simp⟩
    | cons v rest => exact ⟨_, by rw [List.map_cons, List.map_cons, List.intercalate_cons_cons,
        List.append_assoc]⟩

theorem text_eq_of_last (h : t ∈ r.tokens.getLast?) :
    ∃ front, r.text = front ++ t.toString.toList := by
  have hjoin : ∀ (ws : List (List Char)) (w : List Char),
      ∃ front, [' '].intercalate (ws ++ [w]) = front ++ w := by
    intro ws w
    induction ws with
    | nil => exact ⟨[], by simp⟩
    | cons v rest ih =>
      obtain ⟨front, hfront⟩ := ih
      refine ⟨v ++ ' ' :: front, ?_⟩
      obtain ⟨x, xs, hcons⟩ : ∃ x xs, rest ++ [w] = x :: xs := List.exists_cons_of_ne_nil (by simp)
      rw [List.cons_append, hcons, List.intercalate_cons_cons, ← hcons, hfront]
      simp
  obtain ⟨init, hinit⟩ := List.getLast?_eq_some_iff.mp h
  unfold text
  rw [hinit, List.map_append, List.map_singleton]
  exact hjoin _ _

/-- Reading back fails when trimming shortens the text. -/
theorem not_reads_of_trim (hread : r.IsRead) (hne : r.tokens ≠ [])
    (htrim : Str.weight (Str.trim r.text) < Str.weight r.text) : fromStr r.toString ≠ some r := by
  intro hback
  have hle := size_fromStr_le hback
  rw [toList_toString hne] at hle
  have hweight := hread.weight_text
  omega

theorem IsRead.text_ne_none (hread : r.IsRead)
    (hne : r.tokens ≠ [.unknown "none"]) : r.text ≠ "none".toList := by
  intro htext
  have hwords := hread.words_text
  have hnone : Str.words "none".toList = ["none".toList] := by decide +kernel
  rw [htext, hnone] at hwords
  obtain ⟨t, htokens⟩ : ∃ t, r.tokens = [t] := by
    have hlen := congrArg List.length hwords
    rw [List.length_map] at hlen
    exact List.length_eq_one_iff.mp hlen.symm
  rw [htokens, List.map_singleton] at hwords
  have hstr : t.toString = "none" := String.toList_inj.mp (List.singleton_inj.mp hwords).symm
  have hknown := hread.known t (by rw [htokens]; exact List.mem_singleton_self t)
  rw [hstr] at hknown
  have hunknown : ResponseTypeToken.fromStr "none" = .unknown "none" := by decide
  rw [hunknown] at hknown
  exact hne (by rw [htokens, ← hknown])

theorem IsRead.fromStr_eq_some_iff (hread : r.IsRead) :
    fromStr r.toString = some r ↔ r.ReadsBack := by
  constructor
  · intro hback
    refine ⟨?_, ?_, ?_⟩
    · intro htokens
      have hstr : r.toString = "none" := by
        unfold toString
        rw [htokens]
        rfl
      have hnone : fromStr "none" = some empty := by decide +kernel
      rw [hstr, hnone] at hback
      have hempty := congrArg ResponseType.tokens (Option.some.inj hback)
      rw [htokens] at hempty
      cases hempty
    · intro t ht c hc
      by_contra hspace
      obtain ⟨rest, htext⟩ := text_eq_of_head ht
      have hmem : t ∈ r.tokens := List.mem_of_mem_head? ht
      obtain ⟨cs, hcs⟩ : ∃ cs, t.toString.toList = c :: cs := List.head?_eq_some_iff.mp hc
      have hword : Str.isAsciiWhitespace c = false :=
        hread.chars t hmem c (by rw [hcs]; exact List.mem_cons_self)
      rw [hcs, List.cons_append] at htext
      have hlt := Str.weight_trim_lt_of_head (l := cs ++ rest) (by simpa using hspace) hword
      rw [← htext] at hlt
      exact not_reads_of_trim hread (List.ne_nil_of_mem hmem) hlt hback
    · intro t ht c hc
      by_contra hspace
      obtain ⟨front, htext⟩ := text_eq_of_last ht
      have hmem : t ∈ r.tokens := List.mem_of_mem_getLast? ht
      obtain ⟨cs, hcs⟩ : ∃ cs, t.toString.toList = cs ++ [c] := List.getLast?_eq_some_iff.mp hc
      have hword : Str.isAsciiWhitespace c = false := hread.chars t hmem c (by rw [hcs]; simp)
      rw [hcs, ← List.append_assoc] at htext
      have hlt := Str.weight_trim_lt_of_last (l := front ++ cs) (by simpa using hspace) hword
      rw [← htext] at hlt
      exact not_reads_of_trim hread (List.ne_nil_of_mem hmem) hlt hback
  · intro hr
    by_cases hne : r.tokens = []
    · obtain rfl : r = empty := eq_of_mem_iff fun t => by rw [hne]; rfl
      decide +kernel
    · obtain ⟨t, rest, htokens⟩ := List.exists_cons_of_ne_nil hne
      have hhead : ∀ c ∈ r.text.head?, Str.isWhitespace c = false := by
        intro c hc
        have ht : t ∈ r.tokens.head? := by rw [htokens]; rfl
        obtain ⟨tail, htext⟩ := text_eq_of_head ht
        refine hr.head t ht c ?_
        rw [htext] at hc
        have hchars := hread.ne_nil t (List.mem_of_mem_head? ht)
        rwa [List.head?_append_of_ne_nil _ hchars] at hc
      have hlast : ∀ c ∈ r.text.getLast?, Str.isWhitespace c = false := by
        intro c hc
        have ht := List.getLast?_eq_some_getLast hne
        obtain ⟨front, htext⟩ := text_eq_of_last ht
        refine hr.last _ ht c ?_
        rw [htext] at hc
        have hchars := hread.ne_nil _ (List.mem_of_mem_getLast? ht)
        rwa [List.getLast?_append_of_ne_nil _ hchars] at hc
      have htrim : Str.trim r.text = r.text := Str.trim_eq_self hhead hlast
      have htext : r.text ≠ [] := by
        obtain ⟨tail, htext⟩ := text_eq_of_head (r := r) (t := t) (by rw [htokens]; rfl)
        rw [htext]
        intro hnil
        exact hread.ne_nil t (by rw [htokens]; exact List.mem_cons_self)
          (List.append_eq_nil_iff.mp hnil).1
      unfold fromStr
      rw [toList_toString hne]
      dsimp only
      rw [htrim, if_neg htext, if_neg (hread.text_ne_none hr.not_none), hread.collect_words]

/-- A response type reads back exactly if `none` and trimming leave its tokens alone. -/
theorem fromStr_toString_iff (s : String) (r : ResponseType) (h : fromStr s = some r) :
    fromStr r.toString = some r ↔ r.ReadsBack :=
  (isRead_of_fromStr h).fromStr_eq_some_iff

theorem fromStr_eq_some_iff_isRead : fromStr r.toString = some r ↔ r.IsRead ∧ r.ReadsBack := by
  constructor
  · intro h
    have hread := isRead_of_fromStr h
    exact ⟨hread, hread.fromStr_eq_some_iff.mp h⟩
  · rintro ⟨hread, hback⟩
    exact hread.fromStr_eq_some_iff.mpr hback

theorem code_id_token_reads_back : fromStr "id_token code" = some ⟨[.code, .idToken], by decide⟩ ∧
    fromStr (toString ⟨[.code, .idToken], by decide⟩) = some ⟨[.code, .idToken], by decide⟩ := by
  have hread : fromStr "id_token code" = some ⟨[.code, .idToken], by decide⟩ := by decide +kernel
  have hends : ResponseTypeToken.code.toString.toList.head?.all (!Str.isWhitespace ·) ∧
      ResponseTypeToken.idToken.toString.toList.getLast?.all (!Str.isWhitespace ·) := by
    decide +kernel
  refine ⟨hread, (fromStr_toString_iff _ _ hread).mpr ⟨by decide +kernel, ?_, ?_⟩⟩
  · simpa [Option.all_eq_true] using hends.1
  · simpa [Option.all_eq_true] using hends.2

/-- The word `none` twice is a token that is written like the empty set. -/
theorem none_twice_reads_as_empty :
    fromStr "none none" = some (ofToken (.unknown "none")) ∧
    fromStr (toString (ofToken (.unknown "none"))) ≠ some (ofToken (.unknown "none")) := by
  decide +kernel

end ResponseType
end Pasion
