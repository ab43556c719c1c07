import Mathlib.Data.String.Basic
import Pasion.Relational.Table
import Pasion.Text.Words

/-! Scope tokens and scopes of the OAuth 2.0 types crate. -/
namespace Pasion

open Relational Table

/-- `NQCHAR = %x21 / %x23-5B / %x5D-7E`. -/
def isNqchar (c : Char) : Bool :=
  c.toNat = 0x21 || (0x23 ≤ c.toNat && c.toNat ≤ 0x5B) || (0x5D ≤ c.toNat && c.toNat ≤ 0x7E)

def isScopeToken (s : String) : Bool := s ≠ "" && s.toList.all isNqchar

/-- A scope token is a nonempty string of permitted characters. -/
structure ScopeToken where
  asStr : String
  permitted : isScopeToken asStr
  deriving DecidableEq

namespace ScopeToken

theorem asStr_injective : Function.Injective asStr := by
  rintro ⟨s, hs⟩ ⟨u, hu⟩ rfl
  rfl

instance : LinearOrder ScopeToken := LinearOrder.lift' asStr asStr_injective

def fromStr (s : String) : Option ScopeToken := if h : isScopeToken s then some ⟨s, h⟩ else none

theorem asStr_fromStr {s : String} {t : ScopeToken} (h : fromStr s = some t) : t.asStr = s := by
  unfold fromStr at h
  split_ifs at h with hs
  rw [← Option.some.inj h]

@[simp]
theorem fromStr_asStr (t : ScopeToken) : fromStr t.asStr = some t := by
  unfold fromStr
  rw [dif_pos t.permitted]

end ScopeToken

structure Scope where
  tokens : Table ScopeToken Unit
  deriving DecidableEq

namespace Scope

variable {s : Scope} {t : ScopeToken} {token : String}

def empty : Scope := ⟨.empty⟩

def iter (s : Scope) : List ScopeToken := s.tokens.keys

def isEmpty (s : Scope) : Bool := s.iter.isEmpty

def insert (s : Scope) (t : ScopeToken) : Scope := ⟨s.tokens.insert t ()⟩

/-- Whether a token is present; text that is no token never is. -/
def contains (s : Scope) (token : String) : Bool :=
  match ScopeToken.fromStr token with
  | some t => s.tokens.contains t
  | none => false

def collect (ts : List ScopeToken) : Scope := ts.foldl insert empty

def collectStr (ts : List String) : Option Scope := (ts.mapM ScopeToken.fromStr).map collect

def fromStr (s : String) : Option Scope := collectStr (Str.split s ' ')

def toList (s : Scope) : List String := s.iter.map ScopeToken.asStr

def toString (s : Scope) : String := Str.join " " s.toList

instance : Membership ScopeToken Scope := ⟨fun s t => s.tokens.get? t = some ()⟩

theorem mem_def : t ∈ s ↔ s.tokens.get? t = some () := Iff.rfl

@[simp] theorem not_mem_empty (t : ScopeToken) : t ∉ empty := by simp [mem_def, empty]

@[simp]
theorem mem_iter : t ∈ s.iter ↔ t ∈ s := by
  rw [mem_def, ← mem_rows, iter, Table.keys, List.mem_map]
  constructor
  · rintro ⟨⟨u, ⟨⟩⟩, hu, rfl⟩
    exact hu
  · intro h
    exact ⟨_, h, rfl⟩

@[simp]
theorem mem_insert {u : ScopeToken} : t ∈ s.insert u ↔ t = u ∨ t ∈ s := by
  simp only [mem_def, insert, get?_insert]
  by_cases h : t = u <;> simp [h]

theorem mem_foldl_insert {ts : List ScopeToken} : t ∈ ts.foldl insert s ↔ t ∈ ts ∨ t ∈ s := by
  induction ts generalizing s with
  | nil => simp
  | cons u rest ih =>
    rw [List.foldl_cons, ih, mem_insert, List.mem_cons]
    tauto

theorem mem_collect {ts : List ScopeToken} : t ∈ collect ts ↔ t ∈ ts := by
  simp [collect, mem_foldl_insert]

@[ext]
theorem ext {u : Scope} (h : ∀ t, t ∈ s ↔ t ∈ u) : s = u := by
  obtain ⟨a⟩ := s
  obtain ⟨b⟩ := u
  congr 1
  refine ext_get? fun t => Option.ext fun _ => ?_
  exact h t

theorem contains_iff : s.contains token ↔ ∃ t ∈ s, t.asStr = token := by
  unfold contains
  cases ht : ScopeToken.fromStr token with
  | none =>
    simp only [Bool.false_eq_true, false_iff, not_exists, not_and]
    rintro t - rfl
    rw [ScopeToken.fromStr_asStr] at ht
    cases ht
  | some t =>
    have hstr := ScopeToken.asStr_fromStr ht
    simp only [Table.contains, Option.isSome_iff_exists, mem_def]
    constructor
    · rintro ⟨⟨⟩, h⟩
      exact ⟨t, h, hstr⟩
    · rintro ⟨u, hu, rfl⟩
      rw [ScopeToken.asStr_injective hstr]
      exact ⟨(), hu⟩

theorem mem_toList : token ∈ s.toList ↔ ∃ t ∈ s, t.asStr = token := by
  simp [toList]

private theorem map_asStr_of_mapM {ts : List String} {l : List ScopeToken}
    (h : ts.mapM ScopeToken.fromStr = some l) : l.map ScopeToken.asStr = ts := by
  induction ts generalizing l with
  | nil =>
    cases h
    rfl
  | cons s rest ih =>
    rw [List.mapM_cons] at h
    obtain ⟨t, ht, h⟩ := Option.bind_eq_some_iff.mp h
    obtain ⟨l', hl', h⟩ := Option.bind_eq_some_iff.mp h
    cases h
    rw [List.map_cons, ScopeToken.asStr_fromStr ht, ih hl']

/-- A scope that is read from texts has these texts as its tokens. -/
theorem mem_toList_collectStr {ts : List String} (h : collectStr ts = some s) : token ∈ s.toList ↔ token ∈ ts := by
  obtain ⟨l, hl, rfl⟩ := Option.map_eq_some_iff.mp h
  rw [mem_toList, ← map_asStr_of_mapM hl]
  simp [mem_collect]

theorem iter_ne_nil : s.iter ≠ [] ↔ s ≠ empty := by
  constructor
  · rintro h rfl
    exact h rfl
  · intro hne hnil
    refine hne (ext fun t => ?_)
    rw [← mem_iter, hnil]
    simp

theorem space_not_mem (t : ScopeToken) : ' ' ∉ t.asStr.toList := by
  intro hspace
  have hpermitted := t.permitted
  simp only [isScopeToken, Bool.and_eq_true] at hpermitted
  have hnqchar := List.all_eq_true.mp hpermitted.2 ' ' hspace
  exact absurd hnqchar (by decide)

theorem collectStr_toList (s : Scope) : collectStr s.toList = some s := by
  have hparse : ∀ ts : List ScopeToken,
      (ts.map ScopeToken.asStr).mapM ScopeToken.fromStr = some ts := by
    intro ts
    induction ts with
    | nil => rfl
    | cons t rest ih => simp [ih]
  rw [collectStr, toList, hparse, Option.map_some]
  congr 1
  ext t
  rw [mem_collect, mem_iter]

/-- The text of a scope is read back as the scope, unless it has no tokens. -/
theorem fromStr_toString_eq_some : fromStr s.toString = some s ↔ s ≠ empty := by
  constructor
  · rintro h rfl
    exact absurd h (by decide)
  · intro hne
    have htexts : s.toList ≠ [] := by simpa [toList] using iter_ne_nil.mpr hne
    have hspace : ∀ text ∈ s.toList, ' ' ∉ text.toList := by
      intro text htext
      obtain ⟨t, -, rfl⟩ := mem_toList.mp htext
      exact space_not_mem t
    rw [fromStr, toString, Str.split_join htexts hspace, collectStr_toList]

/-- No text is read as the scope without tokens. -/
theorem ne_empty_of_fromStr {text : String} (h : fromStr text = some s) : s ≠ empty := by
  rintro rfl
  have hpieces : Str.split text ' ' ≠ [] := by simp [Str.split]
  obtain ⟨piece, hpiece⟩ := List.exists_mem_of_ne_nil _ hpieces
  have hmem := (mem_toList_collectStr h).mpr hpiece
  exact absurd hmem (by simp [toList, iter, empty, Table.keys, Table.empty])

end Scope

example : (Scope.fromStr "openid profile").map Scope.toString = some "openid profile" := by decide

end Pasion
