import Pasion.Pg.Registration
import Pasion.Relational.Truth

/-! Lists of registration tokens, by what has become of them. -/
namespace Pasion

open Relational

structure UserRegistrationTokenFilter where
  now : Time
  (hasBeenUsed isRevoked isExpired isValid : Option Bool)

namespace UserRegistrationTokenFilter

def new (now : Time) : UserRegistrationTokenFilter := ⟨now, none, none, none, none⟩

def withValid (f : UserRegistrationTokenFilter) (valid : Bool) : UserRegistrationTokenFilter :=
  { f with isValid := some valid }

section Conditions

variable (now : Time) (r : UserRegistrationTokenRow)

def usedConditions : Bool → List Truth
  | true => [some (0 < r.timesUsed)]
  | false => [some (r.timesUsed = 0)]

def revokedConditions : Bool → List Truth
  | true => [.isNotNull r.revokedAt]
  | false => [.isNull r.revokedAt]

def expiredConditions : Bool → List Truth
  | true => [(Truth.isNotNull r.expiresAt).and (.compare (· < ·) r.expiresAt (some now))]
  | false => [(Truth.isNull r.expiresAt).or (.compare (· ≥ ·) r.expiresAt (some now))]

def validConditions : Bool → List Truth
  | true =>
    [(Truth.isNull r.usageLimit).or (.compare (· < ·) (some r.timesUsed) r.usageLimit),
      .isNull r.revokedAt,
      (Truth.isNull r.expiresAt).or (.compare (· ≥ ·) r.expiresAt (some now))]
  | false =>
    [(((Truth.isNotNull r.usageLimit).and (.compare (· ≥ ·) (some r.timesUsed) r.usageLimit)).or
      (.isNotNull r.revokedAt)).or
      ((Truth.isNotNull r.expiresAt).and (.compare (· < ·) r.expiresAt (some now)))]

end Conditions

def conditions (f : UserRegistrationTokenFilter) (r : UserRegistrationTokenRow) : List Truth :=
  f.hasBeenUsed.elim [] (usedConditions r) ++ f.isRevoked.elim [] (revokedConditions r) ++
    f.isExpired.elim [] (expiredConditions f.now r) ++ f.isValid.elim [] (validConditions f.now r)

def selects (f : UserRegistrationTokenFilter) (r : UserRegistrationTokenRow) : Bool :=
  (Truth.all (f.conditions r)).holds

end UserRegistrationTokenFilter

section Valid

variable {now : Time} {id : Ulid} {r : UserRegistrationTokenRow} {t : UserRegistrationToken}

theorem selects_valid : ((UserRegistrationTokenFilter.new now).withValid true).selects r =
      (r.usageLimit.all (r.timesUsed < ·) && r.revokedAt.isNone && r.expiresAt.all (now ≤ ·)) := by
  have hnull : ∀ (o : Option ℤ) (p : ℤ → Bool), (o.isNone || o.any p) = o.all p := by
    intro o p
    cases o <;> simp
  have hconditions : ((UserRegistrationTokenFilter.new now).withValid true).conditions r =
      UserRegistrationTokenFilter.validConditions now r true := rfl
  unfold UserRegistrationTokenFilter.selects
  rw [Truth.holds_all, hconditions]
  simp [UserRegistrationTokenFilter.validConditions, hnull, Bool.and_assoc]

/-- Each row is selected by one of the two filters. -/
theorem selects_not_valid : ((UserRegistrationTokenFilter.new now).withValid false).selects r =
      !((UserRegistrationTokenFilter.new now).withValid true).selects r := by
  have hnull : ∀ (o : Option ℤ) (p : ℤ → Bool), (o.isSome && o.any p) = !o.all (!p ·) := by
    intro o p
    cases o <;> simp
  have hconditions : ((UserRegistrationTokenFilter.new now).withValid false).conditions r =
      UserRegistrationTokenFilter.validConditions now r false := rfl
  rw [selects_valid]
  unfold UserRegistrationTokenFilter.selects
  rw [Truth.holds_all, hconditions]
  simp [UserRegistrationTokenFilter.validConditions, hnull, ← decide_not]

/-- Decoding keeps the order of the counters, none of which is negative. -/
theorem isValid_of_decoded (h : r.toUserRegistrationToken id = .ok t) : t.isValid now =
      (r.usageLimit.all (r.timesUsed < ·) && r.revokedAt.isNone && r.expiresAt.all (now < ·)) := by
  unfold UserRegistrationTokenRow.toUserRegistrationToken at h
  split_ifs at h with hlimit hused
  cases h
  have hlimits : (r.usageLimit.map Int.toNat).any (· ≤ r.timesUsed.toNat) =
      !r.usageLimit.all (r.timesUsed < ·) := by
    cases hl : r.usageLimit with
    | none => rfl
    | some n =>
      rw [hl, Option.any_some, decide_eq_true_eq] at hlimit
      have hle : n.toNat ≤ r.timesUsed.toNat ↔ ¬r.timesUsed < n := by omega
      rw [Option.map_some, Option.any_some, Option.all_some, ← decide_not]
      exact decide_eq_decide.mpr hle
  have hexpires : r.expiresAt.any (· ≤ now) = !r.expiresAt.all (now < ·) := by
    cases r.expiresAt with
    | none => rfl
    | some e => simp [← decide_not]
  simp only [UserRegistrationToken.isValid, hlimits, hexpires]
  cases r.revokedAt <;> cases r.usageLimit.all (r.timesUsed < ·) <;>
    cases r.expiresAt.all (now < ·) <;> rfl

/-- A row that nothing but this very instant makes invalid. -/
def UserRegistrationTokenRow.ExpiresNow (r : UserRegistrationTokenRow) (now : Time) : Prop :=
  r.expiresAt = some now ∧ r.revokedAt = none ∧ r.usageLimit.all (r.timesUsed < ·)

/-- The filter takes a token for valid until its expiry inclusive. -/
theorem selects_valid_eq_isValid_iff (h : r.toUserRegistrationToken id = .ok t) :
    ((UserRegistrationTokenFilter.new now).withValid true).selects r = t.isValid now ↔
      ¬r.ExpiresNow now := by
  rw [selects_valid, isValid_of_decoded h]
  unfold UserRegistrationTokenRow.ExpiresNow
  cases hused : r.usageLimit.all (r.timesUsed < ·) with
  | false => simp
  | true =>
    cases hrevoked : r.revokedAt with
    | some revokedAt => simp
    | none =>
      cases hexpires : r.expiresAt with
      | none => simp
      | some e =>
        have hne : (now ≤ e ↔ now < e) ↔ ¬e = now := by
          constructor
          · rintro h rfl
            exact lt_irrefl e (h.mp le_rfl)
          · intro hne
            exact ⟨fun hle => lt_of_le_of_ne hle (Ne.symm hne), le_of_lt⟩
        simpa using hne

/-- The filter and its negation agree with the token, except at the instant of its expiry. -/
theorem filter_valid_iff_isValid (h : r.toUserRegistrationToken id = .ok t) :
    (((UserRegistrationTokenFilter.new now).withValid true).selects r = t.isValid now ∧
      ((UserRegistrationTokenFilter.new now).withValid false).selects r = !t.isValid now) ↔
      ¬r.ExpiresNow now := by
  rw [selects_not_valid, Bool.not_inj_iff, and_self, selects_valid_eq_isValid_iff h]

end Valid

def tokenUntil (expiresAt : Option Time) : UserRegistrationTokenRow :=
  ⟨"invite", some 2, 1, 0, none, expiresAt, none⟩

theorem unused_token_filtered :
    ((UserRegistrationTokenFilter.new 5).withValid true).selects (tokenUntil (some 6)) = true ∧
      ((UserRegistrationTokenFilter.new 5).withValid false).selects (tokenUntil (some 6)) =
        false := by
  have hdecoded : (tokenUntil (some 6)).toUserRegistrationToken 7 =
      .ok ⟨7, "invite", some 2, 1, 0, none, some 6, none⟩ := rfl
  refine (filter_valid_iff_isValid hdecoded).mpr ?_
  rintro ⟨hexpires, -⟩
  exact absurd hexpires (by decide)

/-- At the instant of its expiry a token is invalid, and is listed among the valid ones. -/
theorem expiring_token_listed_as_valid :
    ∃ t, (tokenUntil (some 5)).toUserRegistrationToken 7 = .ok t ∧ t.isValid 5 = false ∧
      ((UserRegistrationTokenFilter.new 5).withValid true).selects (tokenUntil (some 5)) ∧
      ((UserRegistrationTokenFilter.new 5).withValid false).selects (tokenUntil (some 5)) = false :=
  ⟨⟨7, "invite", some 2, 1, 0, none, some 5, none⟩, rfl, rfl, rfl, rfl⟩

end Pasion
