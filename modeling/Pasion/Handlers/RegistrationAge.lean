import Mathlib.Data.Finset.Insert
import Mathlib.Data.Finset.Filter
import Pasion.Handlers.Registration
import Pasion.Handlers.UpstreamCookie

/-! How long a registration lasts, as decided from its row and from its id in the cookie. -/
namespace Pasion

open Relational

/-- A UUID of version 7: milliseconds, version, 12 random bits, variant, 62 random bits. -/
def newId (ts : Time) (random : ℕ) : Ulid :=
  (ts / 1000).toNat % 2 ^ 48 * 2 ^ 80 + (7 * 2 ^ 76 + random / 2 ^ 64 % 2 ^ 12 * 2 ^ 64 +
    2 * 2 ^ 62 + random % 2 ^ 62)

theorem timestampMs_newId (ts : Time) (random : ℕ) :
    (newId ts random).timestampMs = (ts / 1000).toNat % 2 ^ 48 := by
  unfold newId Ulid.timestampMs
  omega

namespace Registration

def hour : Duration := 60 * 60 * 1000 * 1000

def registrationHasExpired (createdAt now : Time) : Bool := decide (createdAt + hour ≤ now)

inductive CheckRegistrationFinishEligibilityError where
  | registrationExpired
  | browserSessionMissing
  | usernameTaken
  | usernameNotAvailable
  | repository (e : DatabaseError)

structure Names where
  (lower toLowercase : String → String)
  isLocalpartAvailable : String → Except String Bool

/-- A homeserver that does not answer is passed over. -/
def checkRegistrationFinishEligibility (names : Names) (now : Time)
    (registration : UserRegistration) (browserSessionPresent : Option Bool) :
    Repo CheckRegistrationFinishEligibilityError Unit := do
  Txn.require (!decide (now - registration.createdAt > hour)) .registrationExpired
  Txn.require (browserSessionPresent ≠ some false) .browserSessionMissing
  let taken ← UserRepository.existsUser names.lower names.toLowercase registration.username
  Txn.require (!taken) .usernameTaken
  Txn.require ((names.isLocalpartAvailable registration.username).toOption.getD true)
    .usernameNotAvailable

structure UserRegistrationSessions where
  ids : Finset Ulid

namespace UserRegistrationSessions

def sessionMaxTime : Duration := hour

def isEmpty (c : UserRegistrationSessions) : Bool := c.ids = ∅

/-- Times of 48 bits are all within the range of dates. -/
def expire (c : UserRegistrationSessions) (now : Time) : UserRegistrationSessions :=
  ⟨c.ids.filter (fun id => now - (id.timestampMs : ℤ) * 1000 < sessionMaxTime)⟩

def save (c : UserRegistrationSessions) (now : Time) : Option UserRegistrationSessions :=
  if (c.expire now).isEmpty then none else some (c.expire now)

def insert (c : UserRegistrationSessions) (registration : UserRegistration) :
    UserRegistrationSessions :=
  ⟨Insert.insert registration.id c.ids⟩

def contains (c : UserRegistrationSessions) (registration : UserRegistration) : Bool :=
  registration.id ∈ c.ids

def load (jar : Option UserRegistrationSessions) : UserRegistrationSessions := jar.getD ⟨∅⟩

/-- A registration that was listed is no longer found once the cookie is saved. -/
def drops (c : UserRegistrationSessions) (registration : UserRegistration) (now : Time) : Bool :=
  !(load ((c.insert registration).save now)).contains registration

theorem load_save (c : UserRegistrationSessions) (now : Time) :
    load (c.save now) = c.expire now := by
  unfold save load isEmpty
  split_ifs with h
  · have hids : (c.expire now).ids = ∅ := of_decide_eq_true h
    cases hc : c.expire now with
    | mk ids =>
      rw [hc] at hids
      exact congrArg mk hids.symm
  · rfl

end UserRegistrationSessions

/-- The creation time that the id of a registration keeps. -/
def keptTime (createdAt : Time) : Time := (((createdAt / 1000).toNat % 2 ^ 48 : ℕ) : ℤ) * 1000

variable {names : Names} {now : Time} {registration : UserRegistration} {present : Option Bool}
  {db : Database}

theorem eligibility_expired_iff :
    ((checkRegistrationFinishEligibility names now registration present).transact db).1 =
      .error .registrationExpired ↔ registration.createdAt + hour < now := by
  have harith : ∀ a b c : ℤ, b - a > c ↔ a + c < b := by omega
  have hage := harith registration.createdAt now hour
  unfold checkRegistrationFinishEligibility UserRepository.existsUser
  by_cases hexpired : now - registration.createdAt > hour
  · simp only [hexpired, decide_true, Bool.not_true]
    exact iff_of_true rfl (hage.mp hexpired)
  · refine iff_of_false ?_ (fun h => hexpired (hage.mpr h))
    simp only [hexpired, decide_false, Bool.not_false]
    -- the checks that follow report other errors
    generalize decide (present ≠ some false) = browser
    generalize ((names.isLocalpartAvailable registration.username).toOption.getD true) = available
    cases browser with
    | false => exact nofun
    | true =>
      cases htaken : db.users.any (fun _ r =>
          names.lower r.username = names.toLowercase registration.username) <;>
        cases available <;>
          simp [Txn.transact, Txn.exec_bind, Txn.exec, Txn.require, Txn.query, htaken]

/-- The cookie drops a registration by the time in its id. -/
theorem dropped_iff (c : UserRegistrationSessions) {random : ℕ}
    (hid : registration.id = newId registration.createdAt random) :
    c.drops registration now ↔ keptTime registration.createdAt + hour ≤ now := by
  have hkept : (registration.id.timestampMs : ℤ) * 1000 = keptTime registration.createdAt := by
    rw [hid, timestampMs_newId]
    rfl
  have harith : ∀ a b h : ℤ, ¬b - a < h ↔ a + h ≤ b := by omega
  rw [UserRegistrationSessions.drops, UserRegistrationSessions.load_save]
  simp only [UserRegistrationSessions.contains, UserRegistrationSessions.expire,
    UserRegistrationSessions.insert, Bool.not_eq_true', decide_eq_false_iff_not, Finset.mem_filter,
    Finset.mem_insert_self, true_and, hkept]
  exact harith _ _ _

/-- By its row, when it is finished and in the cookie, the age counts the same. -/
def AgeDecisionsAgree (names : Names) (now : Time) (registration : UserRegistration)
    (present : Option Bool) (c : UserRegistrationSessions) (db : Database) : Prop :=
  (registrationHasExpired registration.createdAt now ↔
    ((checkRegistrationFinishEligibility names now registration present).transact db).1 =
      .error .registrationExpired) ∧
  (registrationHasExpired registration.createdAt now ↔ c.drops registration now)

/-- They agree before both deadlines and after both; at the deadline of the row they do not. -/
theorem age_decisions_agree_iff (c : UserRegistrationSessions) {random : ℕ}
    (hid : registration.id = newId registration.createdAt random) :
    AgeDecisionsAgree names now registration present c db ↔
      (now < registration.createdAt + hour ∧ now < keptTime registration.createdAt + hour) ∨
        (registration.createdAt + hour < now ∧ keptTime registration.createdAt + hour ≤ now) := by
  have harith : ∀ n a b : ℤ, ((a ≤ n ↔ a < n) ∧ (a ≤ n ↔ b ≤ n)) ↔
      ((n < a ∧ n < b) ∨ (a < n ∧ b ≤ n)) := by omega
  unfold AgeDecisionsAgree
  rw [eligibility_expired_iff, dropped_iff c hid, registrationHasExpired, decide_eq_true_iff]
  exact harith _ _ _

def registeredAt (createdAt : Time) : UserRegistration :=
  ⟨newId createdAt 0, none, none, none, "u", none, none, none, none, none, none, none, none,
    createdAt, none⟩

def anyName : Names := ⟨id, id, fun _ => .ok true⟩

theorem fresh_registration_decisions_agree :
    AgeDecisionsAgree anyName 1 (registeredAt 0) none ⟨∅⟩ Database.empty :=
  (age_decisions_agree_iff ⟨∅⟩ (rfl : (registeredAt 0).id = newId 0 0)).mpr (by decide)

/-- After one hour the row has expired but may be finished; a cookie drops it just before that. -/
theorem decisions_disagree_at_deadline :
    ¬AgeDecisionsAgree anyName hour (registeredAt 0) none ⟨∅⟩ Database.empty ∧
      ¬AgeDecisionsAgree anyName hour (registeredAt 1) none ⟨∅⟩ Database.empty := by
  constructor
  · rintro ⟨hfinish, -⟩
    rw [eligibility_expired_iff] at hfinish
    exact absurd hfinish (by decide)
  · rintro ⟨-, hcookie⟩
    have hid : (registeredAt 1).id = newId (registeredAt 1).createdAt 0 := rfl
    rw [dropped_iff ⟨∅⟩ hid] at hcookie
    exact absurd hcookie (by decide)

end Registration
end Pasion
