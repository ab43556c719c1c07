import Mathlib.Tactic.Common

/-! Conditions over columns that may be null. -/
namespace Relational

/-- The value of a condition, unknown when it compares with a null. -/
abbrev Truth := Option Bool

namespace Truth

variable {α β : Type}

protected def and : Truth → Truth → Truth
  | some false, _ => some false
  | _, some false => some false
  | some true, some true => some true
  | _, _ => none

protected def or : Truth → Truth → Truth
  | some true, _ => some true
  | _, some true => some true
  | some false, some false => some false
  | _, _ => none

def isNull (column : Option α) : Truth := some column.isNone

def isNotNull (column : Option α) : Truth := some column.isSome

def compare (test : α → β → Bool) (a : Option α) (b : Option β) : Truth :=
  a.bind fun x => b.map (test x)

/-- Successive filters of a query. -/
def all (conditions : List Truth) : Truth := conditions.foldl Truth.and (some true)

/-- A row is selected when its condition is true, and neither when it is false nor unknown. -/
def holds (t : Truth) : Bool := t = some true

@[simp] theorem holds_some (b : Bool) : holds (some b) = b := by cases b <;> rfl

@[simp] theorem holds_and (a b : Truth) : (a.and b).holds = (a.holds && b.holds) := by
  rcases a with _ | _ | _ <;> rcases b with _ | _ | _ <;> rfl

@[simp] theorem holds_or (a b : Truth) : (a.or b).holds = (a.holds || b.holds) := by
  rcases a with _ | _ | _ <;> rcases b with _ | _ | _ <;> rfl

@[simp] theorem holds_isNull (column : Option α) : (isNull column).holds = column.isNone :=
  holds_some _

@[simp] theorem holds_isNotNull (column : Option α) : (isNotNull column).holds = column.isSome :=
  holds_some _

@[simp] theorem holds_compare_right (test : α → β → Bool) (a : α) (b : Option β) :
    (compare test (some a) b).holds = b.any (test a) := by
  cases b with
  | none => rfl
  | some y => exact holds_some _

@[simp] theorem holds_compare_left (test : α → β → Bool) (a : Option α) (b : β) :
    (compare test a (some b)).holds = a.any (test · b) := by
  cases a with
  | none => rfl
  | some x => exact holds_some _

theorem holds_all (conditions : List Truth) : (all conditions).holds = conditions.all holds := by
  have hfold : ∀ start : Truth, (conditions.foldl Truth.and start).holds =
      (start.holds && conditions.all holds) := by
    induction conditions with
    | nil =>
      intro start
      rw [List.foldl_nil, List.all_nil, Bool.and_true]
    | cons c rest ih =>
      intro start
      rw [List.foldl_cons, ih, holds_and, List.all_cons, Bool.and_assoc]
  exact hfold (some true)

end Truth
end Relational
