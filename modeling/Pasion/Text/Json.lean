import Mathlib.Tactic.Common

/-! JSON values and the members of an object. -/
namespace Json

/-- A number is kept as the text it is written with. -/
inductive Value where
  | null
  | bool (b : Bool)
  | number (text : String)
  | string (s : String)
  | array (items : List Value)
  | object (members : List (String × Value))

namespace Value

def lookup (key : String) : List (String × Value) → Option Value
  | [] => none
  | (k, v) :: rest => if k = key then some v else lookup key rest

/-- The member of an object; other values have none. -/
def get? : Value → String → Option Value
  | object members, key => lookup key members
  | _, _ => none

def asStr : Value → Option String
  | string s => some s
  | _ => none

def isTrue : Value → Bool
  | bool b => b
  | _ => false

def insertMember (key : String) (v : Value) : List (String × Value) → List (String × Value)
  | [] => [(key, v)]
  | (k, w) :: rest => if k = key then (key, v) :: rest else (k, w) :: insertMember key v rest

/-- Sets a member of an object; other values stay as they are. -/
def insert : Value → String → Value → Value
  | object members, key, v => object (insertMember key v members)
  | other, _, _ => other

theorem lookup_insertMember_ne {key key' : String} (hne : key ≠ key') (v : Value)
    (members : List (String × Value)) :
    lookup key' (insertMember key v members) = lookup key' members := by
  induction members with
  | nil => simp [insertMember, lookup, hne]
  | cons m rest ih =>
    obtain ⟨k, w⟩ := m
    by_cases hk : k = key
    · subst hk
      simp [insertMember, lookup, hne]
    · simp [insertMember, lookup, hk, ih]

theorem lookup_insertMember_self (key : String) (v : Value) (members : List (String × Value)) :
    lookup key (insertMember key v members) = some v := by
  induction members with
  | nil => simp [insertMember, lookup]
  | cons m rest ih =>
    obtain ⟨k, w⟩ := m
    by_cases hk : k = key
    · simp [insertMember, lookup, hk]
    · simp [insertMember, lookup, hk, ih]

theorem get?_insert_ne {key key' : String} (hne : key ≠ key') (value v : Value) :
    (value.insert key v).get? key' = value.get? key' := by
  cases value with
  | object members => exact lookup_insertMember_ne hne v members
  | _ => rfl

end Value

end Json
