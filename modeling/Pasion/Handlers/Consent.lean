import Pasion.Handlers.Admin
import Pasion.Pg.OAuth2Grant
import Pasion.Pg.Personal

/-! Consent to an authorization grant: a new session fulfils the grant. -/
namespace Pasion.Consent

open Relational Txn

inductive OAuth2AccessError where
  | notFound
  | grantNotPending
  | policyViolation
  | repository (e : DatabaseError)
  | internal (message : String)

instance : FromRepository OAuth2AccessError := ⟨.repository⟩

structure SessionCounts where
  (total oauth2 personal : ℕ)

/-- The callback of a grant, the ID token, and whether the policy finds a request valid. -/
structure Services where
  callbackDestination : AuthorizationGrant → Except String String
  generateIdToken : Client → AuthorizationGrant → BrowserSession → Option Authentication →
    Except String String
  evaluateAuthorizationGrant : User → Client → SessionCounts → Scope → Except String Bool

structure AuthorizationResponse where
  (code idToken : Option String)

structure AuthorizationConsentDecision where
  session : Session
  callbackDestination : String
  params : AuthorizationResponse

def countUserSessionsForLimiting (user : User) : Repo OAuth2AccessError SessionCounts := do
  let numOAuth2 ← OAuth2SessionRepository.count { OAuth2SessionFilter.new with
    state := some .active
    user := some user }
  let numPersonal ← PersonalSessionRepository.count { PersonalSessionFilter.new with
    state := some .active
    actorUser := some user
    ownerUser := some user }
  pure ⟨numOAuth2 + numPersonal, numOAuth2, numPersonal⟩

/-- Administrative scopes are refused whatever the policy has to say. -/
def hasPolicyViolation (x : Services) (browserSession : BrowserSession) (client : Client)
    (scope : Scope) : Repo OAuth2AccessError Bool :=
  if !Admin.adminScopeAllowed browserSession.user scope then pure true
  else do
    let counts ← countUserSessionsForLimiting browserSession.user
    let valid ← Txn.ofExcept
      (x.evaluateAuthorizationGrant browserSession.user client counts scope) .internal
    pure !valid

def buildAuthorizationResponse (x : Services) (client : Client) (grant : AuthorizationGrant)
    (browserSession : BrowserSession) : Repo OAuth2AccessError AuthorizationResponse :=
  if grant.responseTypeIdToken then do
    let lastAuthentication ← BrowserSessionRepository.getLastAuthentication browserSession
    let idToken ← Txn.ofExcept
      (x.generateIdToken client grant browserSession lastAuthentication) .internal
    pure ⟨grant.code.map AuthorizationCode.code, some idToken⟩
  else pure ⟨grant.code.map AuthorizationCode.code, none⟩

/-- A grant that this user's session fulfilled already is answered as it was the first time. -/
def replayConsent (x : Services) (browserSession : BrowserSession) (client : Client)
    (grant : AuthorizationGrant) (callback : String) (sessionId : Ulid) :
    Repo OAuth2AccessError AuthorizationConsentDecision := do
  let found ← OAuth2SessionRepository.lookup sessionId
  let session ← Txn.ofOption found .notFound
  Txn.require (session.userId = some browserSession.user.id) .grantNotPending
  let params ← buildAuthorizationResponse x client grant browserSession
  pure ⟨session, callback, params⟩

def fulfillGrant (x : Services) (now : Time) (newSessionId : Ulid)
    (browserSession : BrowserSession) (client : Client) (grant : AuthorizationGrant)
    (callback : String) : Repo OAuth2AccessError AuthorizationConsentDecision := do
  let violation ← hasPolicyViolation x browserSession client grant.scope
  Txn.require (!violation) .policyViolation
  let session ← OAuth2SessionRepository.addFromBrowserSession now newSessionId client
    browserSession grant.scope
  let grant ← OAuth2AuthorizationGrantRepository.fulfill now session grant
  let params ← buildAuthorizationResponse x client grant browserSession
  pure ⟨session, callback, params⟩

def acceptAuthorizationConsent (x : Services) (now : Time) (newSessionId : Ulid)
    (browserSession : BrowserSession) (grantId : Ulid) :
    Repo OAuth2AccessError AuthorizationConsentDecision := do
  let found ← OAuth2AuthorizationGrantRepository.lookup grantId
  let grant ← Txn.ofOption found .notFound
  let callback ← Txn.ofExcept (x.callbackDestination grant) .internal
  let found ← OAuth2ClientRepository.lookup grant.clientId
  let client ← Txn.ofOption found .notFound
  match grant.stage with
  | .fulfilled sessionId _ => replayConsent x browserSession client grant callback sessionId
  | .pending => fulfillGrant x now newSessionId browserSession client grant callback
  | _ => Txn.rollback .grantNotPending

/-- A pending grant is fulfilled by a session that was not there before. -/
structure Fulfilled (db db' : Database) (grantId sessionId : Ulid) (now : Time) : Prop where
  pending : ∃ r, db.oauth2AuthorizationGrants.get? grantId = some r ∧ r.stage? = some .pending
  fresh : db.oauth2Sessions.get? sessionId = none
  after : ∃ row, row.finishedAt = none ∧
    db' = (db.insertSession sessionId row).updateGrant grantId (fun r => { r with
      fulfilledAt := some now
      oauth2SessionId := some sessionId })

section Effects

variable {x : Services} {now : Time} {newSessionId grantId : Ulid} {browserSession : BrowserSession}
  {client : Client} {grant : AuthorizationGrant} {db db' : Database}
variable {decision : AuthorizationConsentDecision} {e : OAuth2AccessError}

theorem returns_buildAuthorizationResponse {params : AuthorizationResponse}
    (h : (buildAuthorizationResponse x client grant browserSession).Returns db params db') :
    db' = db := by
  unfold buildAuthorizationResponse at h
  split_ifs at h
  · simp only [BrowserSessionRepository.getLastAuthentication, returns_bind,
      Repo.returns_fetch, returns_ofExcept, returns_pure] at h
    obtain ⟨_, _, ⟨-, rfl⟩, _, _, ⟨-, rfl⟩, -, rfl⟩ := h
    rfl
  · exact (returns_pure.mp h).2.symm

theorem returns_hasPolicyViolation {scope : Scope} {violation : Bool}
    (h : (hasPolicyViolation x browserSession client scope).Returns db violation db') :
    db' = db := by
  unfold hasPolicyViolation at h
  split_ifs at h
  · exact (returns_pure.mp h).2.symm
  · simp only [countUserSessionsForLimiting, OAuth2SessionRepository.count,
      PersonalSessionRepository.count, returns_bind, returns_query, returns_ofExcept,
      returns_pure] at h
    obtain ⟨_, _, ⟨_, _, ⟨-, rfl⟩, _, _, ⟨-, rfl⟩, -, rfl⟩, _, _, ⟨-, rfl⟩, -, rfl⟩ := h
    rfl

theorem returns_fulfill {session : Session} {grant' : AuthorizationGrant}
    (h : (OAuth2AuthorizationGrantRepository.fulfill now session grant :
      Repo OAuth2AccessError _).Returns db grant' db') :
    db' = db.updateGrant grant.id (fun r => { r with
      fulfilledAt := some now
      oauth2SessionId := some session.id }) := by
  obtain ⟨-, -, hrest⟩ := Repo.returns_updateRow_bind.mp h
  obtain ⟨_, _, htransition, hpure⟩ := returns_bind.mp hrest
  obtain ⟨-, rfl⟩ := Repo.returns_transition.mp htransition
  exact (returns_pure.mp hpure).2.symm

theorem returns_replayConsent {callback : String} {sessionId : Ulid}
    (h : (replayConsent x browserSession client grant callback sessionId).Returns db decision db') :
    db' = db := by
  simp only [replayConsent, OAuth2SessionRepository.lookup, returns_bind, Repo.returns_fetch,
    returns_ofOption, returns_require, returns_pure] at h
  obtain ⟨_, _, ⟨-, rfl⟩, _, _, ⟨-, rfl⟩, _, _, ⟨-, rfl⟩, _, _, hparams, -, rfl⟩ := h
  exact returns_buildAuthorizationResponse hparams

theorem returns_fulfillGrant {callback : String}
    (hpending : ∃ r, db.oauth2AuthorizationGrants.get? grant.id = some r ∧ r.stage? = some .pending)
    (h : (fulfillGrant x now newSessionId browserSession client grant callback).Returns db decision
      db') : Fulfilled db db' grant.id newSessionId now := by
  simp only [fulfillGrant, OAuth2SessionRepository.addFromBrowserSession, returns_bind,
    returns_require, OAuth2SessionRepository.returns_add, returns_pure] at h
  obtain ⟨_, _, hpolicy, _, _, ⟨-, rfl⟩, session, _, ⟨hviolation, hsession, rfl⟩, grant', _, hfulfill,
    _, _, hparams, -, rfl⟩ := h
  obtain rfl := returns_hasPolicyViolation hpolicy
  obtain rfl := returns_fulfill hfulfill
  obtain rfl := returns_buildAuthorizationResponse hparams
  refine ⟨hpending, OAuth2SessionRepository.violation_eq_none hviolation,
    ⟨some browserSession.user.id, some browserSession.id, client.id, grant.scope.toList, now, none,
      none, none, none, none⟩, rfl, ?_⟩
  rw [← hsession]
  rfl

theorem returns_acceptAuthorizationConsent
    (h : (acceptAuthorizationConsent x now newSessionId browserSession grantId).Returns db decision
      db') : db' = db ∨ Fulfilled db db' grantId newSessionId now := by
  simp only [acceptAuthorizationConsent, OAuth2AuthorizationGrantRepository.lookup,
    OAuth2ClientRepository.lookup, returns_bind, Repo.returns_fetch, returns_ofOption,
    returns_ofExcept] at h
  obtain ⟨_, _, ⟨hfetch, rfl⟩, grant, _, ⟨rfl, rfl⟩, _, _, ⟨-, rfl⟩, _, _, ⟨-, rfl⟩, client, _,
    ⟨-, rfl⟩, hrest⟩ := h
  obtain ⟨r, hr, hdecode⟩ := Option.bind_eq_some_iff.mp (mapM_eq_ok_some.mp hfetch)
  obtain ⟨hid, hstage⟩ := r.toAuthorizationGrant_ok (toOption_eq_some.mp hdecode)
  cases hcases : grant.stage with
  | fulfilled sessionId fulfilledAt =>
    rw [hcases] at hrest
    exact .inl (returns_replayConsent hrest)
  | pending =>
    rw [hcases] at hrest
    refine .inr ?_
    rw [← hid]
    refine returns_fulfillGrant ⟨r, ?_, by rw [hstage, hcases]⟩ hrest
    rw [hid]
    exact hr
  | exchanged sessionId fulfilledAt exchangedAt =>
    rw [hcases] at hrest
    exact absurd hrest returns_rollback
  | cancelled cancelledAt =>
    rw [hcases] at hrest
    exact absurd hrest returns_rollback

theorem savesError_buildAuthorizationResponse :
    ¬(buildAuthorizationResponse x client grant browserSession).SavesError db e db' := by
  unfold buildAuthorizationResponse
  split_ifs <;> simp [BrowserSessionRepository.getLastAuthentication]

theorem savesError_hasPolicyViolation {scope : Scope} :
    ¬(hasPolicyViolation x browserSession client scope).SavesError db e db' := by
  unfold hasPolicyViolation
  split_ifs <;> simp [countUserSessionsForLimiting, OAuth2SessionRepository.count,
    PersonalSessionRepository.count]

theorem savesError_acceptAuthorizationConsent :
    ¬(acceptAuthorizationConsent x now newSessionId browserSession grantId).SavesError db e db' := by
  intro h
  simp only [acceptAuthorizationConsent, OAuth2AuthorizationGrantRepository.lookup,
    OAuth2ClientRepository.lookup, savesError_bind, Repo.savesError_fetch,
    savesError_ofOption, savesError_ofExcept, false_or] at h
  obtain ⟨_, _, -, grant, _, -, _, _, -, _, _, -, client, _, -, hrest⟩ := h
  cases hcases : grant.stage with
  | fulfilled sessionId fulfilledAt =>
    simp [hcases, replayConsent, OAuth2SessionRepository.lookup,
      savesError_buildAuthorizationResponse] at hrest
  | pending =>
    simp [hcases, fulfillGrant, OAuth2SessionRepository.addFromBrowserSession,
      OAuth2SessionRepository.add, OAuth2AuthorizationGrantRepository.fulfill,
      savesError_hasPolicyViolation, savesError_buildAuthorizationResponse] at hrest
  | exchanged sessionId fulfilledAt exchangedAt => simp [hcases] at hrest
  | cancelled cancelledAt => simp [hcases] at hrest

end Effects

end Pasion.Consent
