import Pasion.Pg.Users

/-! Verification of a username or email and a password. -/
namespace Pasion.PasswordLogin

open Relational Txn

structure PasswordLoginRequest where
  (usernameOrEmail password : String)
  requester : Option IpAddr
  skipRequesterLimit : Bool

inductive PasswordVerificationOutcome where
  | disabled
  | invalidCredentials
  | rateLimited
  | accountDeactivated
  | accountLocked
  | authenticated (user : User) (userPassword : Password)
  deriving DecidableEq

inductive PasswordLoginError where
  | password (message : String)
  | repository (e : DatabaseError)

instance : FromRepository PasswordLoginError := ⟨.repository⟩

/-- A password that matches comes with a new hash if its scheme is not the current one. -/
inductive PasswordVerificationResult where
  | matched (upgrade : Option (ℕ × String))
  | notMatched

/-- The configuration, homeserver, rate limiter, password manager and both lowercase functions. -/
structure Services where
  (passwordLoginEnabled loginWithEmailAllowed : Bool)
  localpart : String → Option String
  checkPasswordForUser : User → Bool
  checkPassword : Option IpAddr → User → Bool
  verifyAndUpgrade : ℕ → String → String → Except String PasswordVerificationResult
  (lower toLowercase : String → String)

def findUserByUsername (x : Services) (username : String) : Repo PasswordLoginError (Option User) :=
  UserRepository.findByUsername x.lower x.toLowercase username

def findUserByEmail (x : Services) (email : String) : Repo PasswordLoginError (Option User) := do
  let maybeUserEmail ← UserEmailRepository.findByEmail x.lower x.toLowercase email
  match maybeUserEmail with
  | some userEmail => UserRepository.lookup userEmail.userId
  | none => pure none

def findUserByEmailOrByUsername (x : Services) (usernameOrEmail : String) :
    Repo PasswordLoginError (Option User) :=
  if x.loginWithEmailAllowed && usernameOrEmail.toList.contains '@' then do
    let user ← findUserByEmail x usernameOrEmail
    if user.isSome then pure user else findUserByUsername x usernameOrEmail
  else findUserByUsername x usernameOrEmail

/-- A hash under an old scheme is replaced as soon as the password has matched. -/
def upgradePassword (now : Time) (passwordId : Ulid) (user : User) (userPassword : Password) :
    Option (ℕ × String) → Repo PasswordLoginError Password
  | some (version, hash) =>
    UserPasswordRepository.add now passwordId user version hash (some userPassword)
  | none => pure userPassword

def accountOutcome (user : User) (userPassword : Password) : PasswordVerificationOutcome :=
  if user.deactivatedAt.isSome then .accountDeactivated
  else if user.lockedAt.isSome then .accountLocked
  else .authenticated user userPassword

def verifyPassword (x : Services) (now : Time) (passwordId : Ulid) (password : String)
    (user : User) : Repo PasswordLoginError PasswordVerificationOutcome := do
  let found ← UserPasswordRepository.active user
  match found with
  | none => pure .invalidCredentials
  | some userPassword => do
    let result ← Txn.ofExcept
      (x.verifyAndUpgrade userPassword.version password userPassword.hashedPassword) .password
    match result with
    | .notMatched => pure .invalidCredentials
    | .matched upgrade => do
      let userPassword ← upgradePassword now passwordId user userPassword upgrade
      pure (accountOutcome user userPassword)

def withinLimit (x : Services) (request : PasswordLoginRequest) (user : User) : Bool :=
  if request.skipRequesterLimit then x.checkPasswordForUser user
  else x.checkPassword request.requester user

def verifyPasswordLogin (x : Services) (now : Time) (passwordId : Ulid)
    (request : PasswordLoginRequest) : Repo PasswordLoginError PasswordVerificationOutcome :=
  if !x.passwordLoginEnabled then pure .disabled
  else do
    let username := (x.localpart request.usernameOrEmail).getD request.usernameOrEmail
    let found ← findUserByEmailOrByUsername x username
    match found with
    | none => pure .invalidCredentials
    | some user =>
      if !withinLimit x request user then pure .rateLimited
      else verifyPassword x now passwordId request.password user

section Effect

variable {x : Services} {now : Time} {passwordId : Ulid} {request : PasswordLoginRequest}
  {db db' : Database} {outcome : PasswordVerificationOutcome} {found : Option User} {user : User}

theorem user?_of_findByUsername {username : String}
    (h : (findUserByUsername x username).Returns db (some user) db') :
    db' = db ∧ db.user? user.id = some user := by
  obtain ⟨hfound, hdb⟩ := returns_query.mp h
  refine ⟨hdb.symm, ?_⟩
  have huser : ∀ r ∈ db.users.select (fun _ r => x.lower r.username = x.toLowercase username),
      db.user? (r.2.toUser r.1).id = some (r.2.toUser r.1) := by
    rintro ⟨id, row⟩ hr
    have hget := (Table.mem_select.mp hr).1
    change (db.users.get? id).map (·.toUser id) = _
    rw [hget]
    rfl
  split at hfound
  · cases hfound
  · next r heq =>
    cases hfound
    exact huser r (by rw [heq]; exact List.mem_singleton_self r)
  · obtain ⟨r, hr, rfl⟩ := Option.map_eq_some_iff.mp hfound
    exact huser r (List.mem_of_find?_eq_some hr)

theorem user?_of_findByEmail {email : String}
    (h : (findUserByEmail x email).Returns db found db') :
    db' = db ∧ ∀ user, found = some user → db.user? user.id = some user := by
  obtain ⟨maybeUserEmail, db₁, hemail, h⟩ := returns_bind.mp h
  obtain ⟨-, rfl⟩ := returns_query.mp hemail
  cases maybeUserEmail with
  | none =>
    obtain ⟨rfl, rfl⟩ := returns_pure.mp h
    exact ⟨rfl, fun _ h => by cases h⟩
  | some userEmail =>
    obtain ⟨hlookup, rfl⟩ := returns_query.mp h
    refine ⟨rfl, fun user huser => ?_⟩
    rw [huser] at hlookup
    obtain ⟨row, -, rfl⟩ := Option.map_eq_some_iff.mp hlookup
    exact hlookup

theorem user?_of_findUser {name : String}
    (h : (findUserByEmailOrByUsername x name).Returns db (some user) db') :
    db' = db ∧ db.user? user.id = some user := by
  unfold findUserByEmailOrByUsername at h
  split_ifs at h with hemail
  · obtain ⟨found, db₁, hfound, hrest⟩ := returns_bind.mp h
    obtain ⟨rfl, huser⟩ := user?_of_findByEmail hfound
    split_ifs at hrest with hsome
    · obtain ⟨rfl, rfl⟩ := returns_pure.mp hrest
      exact ⟨rfl, huser user rfl⟩
    · exact user?_of_findByUsername hrest
  · exact user?_of_findByUsername h

theorem returns_upgradePassword {userPassword password : Password} {upgrade : Option (ℕ × String)}
    (h : (upgradePassword now passwordId user userPassword upgrade).Returns db password db') :
    ∃ t, db' = { db with userPasswords := t } := by
  cases upgrade with
  | none =>
    obtain ⟨-, rfl⟩ := returns_pure.mp h
    exact ⟨_, rfl⟩
  | some upgrade =>
    obtain ⟨_, db₁, hinsert, h⟩ := returns_bind.mp h
    obtain ⟨-, rfl⟩ := Repo.returns_insert.mp hinsert
    obtain ⟨-, rfl⟩ := returns_pure.mp h
    exact ⟨_, rfl⟩

theorem returns_verifyPassword {password : String}
    (h : (verifyPassword x now passwordId password user).Returns db outcome db') :
    (∃ t, db' = { db with userPasswords := t }) ∧
      ∀ user' userPassword, outcome = .authenticated user' userPassword →
        user' = user ∧ user.isValid := by
  obtain ⟨found, db₁, hactive, h⟩ := returns_bind.mp h
  obtain ⟨-, rfl⟩ := Repo.returns_fetch.mp hactive
  cases found with
  | none =>
    obtain ⟨rfl, rfl⟩ := returns_pure.mp h
    exact ⟨⟨_, rfl⟩, fun _ _ h => by cases h⟩
  | some userPassword =>
    obtain ⟨result, db₂, hresult, h⟩ := returns_bind.mp h
    obtain ⟨-, rfl⟩ := returns_ofExcept.mp hresult
    cases result with
    | notMatched =>
      obtain ⟨rfl, rfl⟩ := returns_pure.mp h
      exact ⟨⟨_, rfl⟩, fun _ _ h => by cases h⟩
    | matched upgrade =>
      obtain ⟨upgraded, db₃, hupgrade, h⟩ := returns_bind.mp h
      obtain ⟨rfl, rfl⟩ := returns_pure.mp h
      refine ⟨returns_upgradePassword hupgrade, fun user' userPassword' hout => ?_⟩
      unfold accountOutcome at hout
      split_ifs at hout with hdeactivated hlocked
      cases hout
      refine ⟨rfl, ?_⟩
      rw [Bool.not_eq_true, Option.isSome_eq_false_iff] at hdeactivated hlocked
      unfold User.isValid
      rw [hlocked, hdeactivated]
      rfl

/-- An authenticated user is valid, and only the hash of the password may change. -/
theorem returns_verifyPasswordLogin {userPassword : Password}
    (h : (verifyPasswordLogin x now passwordId request).Returns db
      (.authenticated user userPassword) db') :
    (∃ t, db' = { db with userPasswords := t }) ∧ db.user? user.id = some user ∧ user.isValid := by
  unfold verifyPasswordLogin at h
  split_ifs at h with henabled
  · cases (returns_pure.mp h).1
  · obtain ⟨found, db₁, hfound, hrest⟩ := returns_bind.mp h
    cases found with
    | none => cases (returns_pure.mp hrest).1
    | some user' =>
      obtain ⟨rfl, huser⟩ := user?_of_findUser hfound
      dsimp only at hrest
      split_ifs at hrest with hlimit
      · cases (returns_pure.mp hrest).1
      · obtain ⟨hframe, houtcome⟩ := returns_verifyPassword hrest
        obtain ⟨rfl, hvalid⟩ := houtcome user userPassword rfl
        exact ⟨hframe, huser, hvalid⟩

end Effect

end Pasion.PasswordLogin
