import Mathlib.Algebra.Order.Ring.Int
import Mathlib.Tactic.Common

/-! Identifiers, times and the error of a forbidden state transition. -/
namespace Pasion

/-- A ULID, as the number its 128 bits spell. -/
abbrev Ulid := ℕ

/-- Microseconds since the epoch. -/
abbrev Time := ℤ

abbrev Duration := ℤ

abbrev IpAddr := String

namespace Ulid

def alphabet : List Char := "0123456789ABCDEFGHJKMNPQRSTVWXYZ".toList

/-- Twenty-six digits of Crockford's base 32, the most significant first. -/
def toString (id : Ulid) : String :=
  .ofList ((List.range 26).map (fun i => alphabet.getD (id / 32 ^ (25 - i) % 32) '0'))

end Ulid

structure InvalidTransitionError where

end Pasion
