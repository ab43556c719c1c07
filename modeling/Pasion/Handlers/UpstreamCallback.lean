import Pasion.Handlers.UpstreamCookie
import Pasion.Pg.UpstreamLink

/-! The callback that an upstream provider redirects to, and the cookie it answers with. -/
namespace Pasion.UpstreamCallback

open Relational Txn

inductive Method where
  | get
  | post
  | other
  deriving DecidableEq

structure Params where
  state : Option String
  didRepostToItself : Bool
  (code error errorDescription errorUri extraCallbackParameters : Option String)
  deriving DecidableEq

def Params.isEmpty (p : Params) : Bool :=
  p.state.isNone && p.code.isNone && p.error.isNone && p.errorDescription.isNone &&
    p.errorUri.isNone

inductive RouteError where
  | sessionNotFound
  | providerNotFound
  | providerMismatch
  | alreadyCompleted
  | stateMismatch
  | missingState
  | missingCode
  | extractSubject (e : String)
  | emptySubject
  | clientError (error : String) (errorDescription : Option String)
  | missingCookie
  | missingQueryParams
  | missingFormParams
  | invalidResponseMode (expected : ResponseMode)
  | repository (e : DatabaseError)
  | upstreamSessionNotFound
  | exchange (e : String)
  deriving DecidableEq

instance : FromRepository RouteError := ⟨.repository⟩

/-- What the provider answers; `context` is what templates are rendered with. -/
structure Exchange (χ : Type) where
  idToken : Option String
  idTokenClaims : Option Claims
  context : χ
  userinfo : Option String

/-- `exchange` is the conversation with the provider, and `renderStr` the template engine. -/
structure Env (χ : Type) where
  now : Time
  newLinkId : Ulid
  exchange : UpstreamOAuthProvider → UpstreamOAuthAuthorizationSession → String → Option String →
    Except String (Exchange χ)
  renderStr : String → χ → Except String String

/-- `cookie` is the slot of the cookie jar: nothing, a text that does not decode, or a value. -/
structure Request where
  providerId : Option Ulid
  method : Method
  params : Except String Params
  cookie : Except String (Option UpstreamSessions)

/-- The form that repeats the request, or the redirect to the link with the cookie it sets. -/
inductive Response where
  | formPost (params : Params)
  | redirect (linkId : Ulid) (cookie : UpstreamSessions)
  deriving DecidableEq

def load : Except String (Option UpstreamSessions) → UpstreamSessions
  | .ok (some sessions) => sessions
  | .ok none => .default
  | .error _ => .default

/-- Whether the form is to be posted again, from this site. -/
def checkResponseMode (responseMode : Option ResponseMode) (method : Method)
    (sessionsCookie : UpstreamSessions) (params : Params) : Except RouteError Bool :=
  match responseMode, method with
  | some .formPost, .post => .ok (sessionsCookie.isEmpty && !params.didRepostToItself)
  | none, .post => .ok (sessionsCookie.isEmpty && !params.didRepostToItself)
  | none, _ => .ok false
  | some .query, .get => .ok false
  | some expected, _ => .error (.invalidResponseMode expected)

section Handler

variable {χ : Type}

/-- A name that does not render is only logged. -/
def humanAccountName (env : Env χ) (provider : UpstreamOAuthProvider) (context : χ) :
    Option String :=
  provider.claimsImports.accountName.template.bind
    (fun template => (env.renderStr template context).toOption)

def findOrAddLink (env : Env χ) (provider : UpstreamOAuthProvider) (subject : String)
    (context : χ) : Repo RouteError UpstreamOAuthLink := do
  match ← UpstreamOAuthLinkRepository.findBySubject provider subject with
  | some link => pure link
  | none =>
    UpstreamOAuthLinkRepository.add env.now env.newLinkId provider subject
      (humanAccountName env provider context)

/-- From the authorization code to the link of the upstream account. -/
def completeSession (env : Env χ) (provider : UpstreamOAuthProvider)
    (session : UpstreamOAuthAuthorizationSession) (params : Params) :
    Repo RouteError (UpstreamOAuthAuthorizationSession × UpstreamOAuthLink) := do
  let code ← Txn.ofOption params.code .missingCode
  let exchange ← Txn.ofExcept
    (env.exchange provider session code params.extraCallbackParameters) .exchange
  let template := provider.claimsImports.subject.template.getD "\x7b\x7b user.sub \x7d\x7d"
  let subject ← Txn.ofExcept (env.renderStr template exchange.context) .extractSubject
  Txn.require (subject ≠ "") .emptySubject
  let link ← findOrAddLink env provider subject exchange.context
  let session ← UpstreamOAuthSessionRepository.completeWithLink env.now session link
    exchange.idToken exchange.idTokenClaims params.extraCallbackParameters exchange.userinfo
  pure (session, link)

/-- The session of the cookie, as the database has it. -/
def findSession (providerId : Ulid) (provider : UpstreamOAuthProvider) (params : Params)
    (sessionsCookie : UpstreamSessions) : Repo RouteError UpstreamOAuthAuthorizationSession := do
  Txn.require params.error.isNone (.clientError (params.error.getD "") params.errorDescription)
  let state ← Txn.ofOption params.state .missingState
  let (sessionId, _) ← Txn.ofExcept (sessionsCookie.findSession providerId state)
    (fun _ => .missingCookie)
  let found ← UpstreamOAuthSessionRepository.lookup sessionId
  let session ← Txn.ofOption found .sessionNotFound
  Txn.require (provider.id == session.providerId) .providerMismatch
  Txn.require (state == session.stateStr) .stateMismatch
  Txn.require session.state.isPending .alreadyCompleted
  pure session

def handler (env : Env χ) (req : Request) : Repo RouteError Response := do
  let providerId ← Txn.ofOption req.providerId .providerNotFound
  let params ← Txn.ofExcept req.params
    (fun _ => if req.method = .post then .missingFormParams else .missingQueryParams)
  Txn.require (params.state.any (· ≠ "")) .missingState
  let found ← UpstreamOAuthProviderRepository.lookup providerId
  let provider ← Txn.ofOption (found.filter UpstreamOAuthProvider.enabled) .providerNotFound
  let sessionsCookie := load req.cookie
  Txn.require (!params.isEmpty)
    (if req.method = .get then .missingQueryParams else .missingFormParams)
  let repost ← Txn.ofExcept
    (checkResponseMode provider.responseMode req.method sessionsCookie params) id
  if repost then pure (.formPost { params with didRepostToItself := true })
  else do
    let session ← findSession providerId provider params sessionsCookie
    let (session, link) ← completeSession env provider session params
    let cookie ← Txn.ofExcept (sessionsCookie.addLinkToSession session.id link.id)
      (fun _ => .upstreamSessionNotFound)
    pure (.redirect link.id (cookie.expire env.now))

/-- The attempt that the cookie has for the provider and the `state` of the request. -/
def IsAttempt (req : Request) (session : Ulid) : Prop :=
  ∃ providerId params state action, req.providerId = some providerId ∧
    req.params = .ok params ∧ params.state = some state ∧
    (load req.cookie).findSession providerId state = .ok (session, action)

variable {env : Env χ} {req : Request} {db db' : Database}
variable {session : UpstreamOAuthAuthorizationSession} {provider : UpstreamOAuthProvider}

theorem id_of_lookup {id : Ulid}
    (h : (UpstreamOAuthSessionRepository.lookup id : Repo RouteError _).Returns db
      (some session) db') : session.id = id := by
  unfold UpstreamOAuthSessionRepository.lookup at h
  obtain ⟨hfound, -⟩ := Repo.returns_fetch.mp h
  obtain ⟨r, -, hr⟩ := Option.bind_eq_some_iff.mp (mapM_eq_ok_some.mp hfound)
  have hdecode := toOption_eq_some.mp hr
  unfold UpstreamOAuthAuthorizationSessionRow.toUpstreamOAuthAuthorizationSession at hdecode
  split at hdecode
  · cases hdecode
  · cases hdecode
    rfl

theorem returns_findSession {providerId : Ulid} {params : Params} {cookie : UpstreamSessions}
    (h : (findSession providerId provider params cookie).Returns db session db') :
    ∃ state action, params.state = some state ∧
      cookie.findSession providerId state = .ok (session.id, action) := by
  unfold findSession at h
  rw [returns_require_bind, returns_ofOption_bind] at h
  obtain ⟨-, state, hstate, h⟩ := h
  obtain ⟨⟨sessionId, action⟩, hfind, h⟩ := returns_ofExcept_bind.mp h
  obtain ⟨found, db₁, hlookup, h⟩ := returns_bind.mp h
  obtain ⟨session', rfl, h⟩ := returns_ofOption_bind.mp h
  obtain ⟨-, h⟩ := returns_require_bind.mp h
  obtain ⟨-, h⟩ := returns_require_bind.mp h
  obtain ⟨-, h⟩ := returns_require_bind.mp h
  obtain ⟨rfl, -⟩ := returns_pure.mp h
  rw [id_of_lookup hlookup]
  exact ⟨state, action, hstate, hfind⟩

theorem returns_completeSession {params : Params}
    {session' : UpstreamOAuthAuthorizationSession} {link : UpstreamOAuthLink}
    (h : (completeSession env provider session params).Returns db (session', link) db') :
    session'.id = session.id := by
  unfold completeSession at h
  obtain ⟨code, -, h⟩ := returns_ofOption_bind.mp h
  obtain ⟨exchange, -, h⟩ := returns_ofExcept_bind.mp h
  obtain ⟨subject, -, h⟩ := returns_ofExcept_bind.mp h
  obtain ⟨-, h⟩ := returns_require_bind.mp h
  obtain ⟨link', db₁, -, h⟩ := returns_bind.mp h
  obtain ⟨completed, db₂, hcomplete, h⟩ := returns_bind.mp h
  obtain ⟨heq, -⟩ := returns_pure.mp h
  cases heq
  unfold UpstreamOAuthSessionRepository.completeWithLink at hcomplete
  obtain ⟨_, db₃, -, hcomplete⟩ := returns_bind.mp hcomplete
  obtain ⟨state, db₄, -, hcomplete⟩ := returns_bind.mp hcomplete
  obtain ⟨rfl, -⟩ := returns_pure.mp hcomplete
  rfl

/-- A redirect adds the link to its attempt in the cookie and drops expired attempts. -/
theorem returns_handler_redirect {link : Ulid} {saved : UpstreamSessions}
    (h : (handler env req).Returns db (.redirect link saved) db') :
    ∃ session cookie, IsAttempt req session ∧
      (load req.cookie).addLinkToSession session link = .ok cookie ∧
      saved = cookie.expire env.now := by
  unfold handler at h
  obtain ⟨providerId, hprovider, h⟩ := returns_ofOption_bind.mp h
  obtain ⟨params, hparams, h⟩ := returns_ofExcept_bind.mp h
  obtain ⟨-, h⟩ := returns_require_bind.mp h
  obtain ⟨found, db₁, -, h⟩ := returns_bind.mp h
  obtain ⟨provider, -, h⟩ := returns_ofOption_bind.mp h
  obtain ⟨-, h⟩ := returns_require_bind.mp h
  obtain ⟨repost, -, h⟩ := returns_ofExcept_bind.mp h
  cases repost with
  | true =>
    obtain ⟨heq, -⟩ := returns_pure.mp h
    cases heq
  | false =>
    obtain ⟨session, db₂, hsession, h⟩ := returns_bind.mp h
    obtain ⟨⟨completed, link'⟩, db₃, hcomplete, h⟩ := returns_bind.mp h
    obtain ⟨cookie, hcookie, h⟩ := returns_ofExcept_bind.mp h
    obtain ⟨heq, -⟩ := returns_pure.mp h
    cases heq
    obtain ⟨state, action, hstate, hfind⟩ := returns_findSession hsession
    rw [returns_completeSession hcomplete] at hcookie
    exact ⟨session.id, cookie, ⟨providerId, params, state, action, hprovider, hparams, hstate,
      hfind⟩, hcookie, rfl⟩

theorem IsAttempt.unique {session session' : Ulid} (h : IsAttempt req session)
    (h' : IsAttempt req session') : session' = session := by
  obtain ⟨providerId, params, state, action, hprovider, hparams, hstate, hfind⟩ := h
  obtain ⟨providerId', params', state', action', hprovider', hparams', hstate', hfind'⟩ := h'
  rw [hprovider] at hprovider'
  cases hprovider'
  rw [hparams] at hparams'
  cases hparams'
  rw [hstate] at hstate'
  cases hstate'
  rw [hfind] at hfind'
  cases hfind'
  rfl

/-- The cookie leads to the session exactly if it was in time and no later attempt has the link. -/
theorem saved_cookie_resolves_iff (env : Env χ) (req : Request) (db db' : Database)
    (session link : Ulid) (saved : UpstreamSessions) (hsession : IsAttempt req session)
    (h : (handler env req).Returns db (.redirect link saved) db') :
    (env.now - (session.timestampMs : ℤ) * 1000 ≤ UpstreamSessions.maxAge ∧
      ∃ action, saved.lookupLink link = .ok (session, action)) ↔
    ulidIsExpired session env.now UpstreamSessions.maxAge = false ∧
      ∀ p ∈ (load req.cookie).payloads, p.link = some link →
        ulidIsExpired p.session env.now UpstreamSessions.maxAge = false →
        p.session ≤ session := by
  obtain ⟨session', cookie, hattempt, hcookie, rfl⟩ := returns_handler_redirect h
  obtain rfl := hsession.unique hattempt
  rw [UpstreamSessions.lookupLink_expire_iff hcookie]
  constructor
  · exact And.right
  · rintro ⟨hfresh, hlatest⟩
    refine ⟨?_, hfresh, hlatest⟩
    simpa [ulidIsExpired] using hfresh

end Handler

section Attempts

def oneAccount (now : Time) : Env Unit :=
  ⟨now, 5, fun _ _ _ _ => .ok ⟨none, none, (), none⟩, fun _ _ => .ok "alice"⟩

def begun : Database := { Database.empty with
  upstreamOAuthProviders := Table.empty.insert 4
    ⟨none, none, none, "config", 0, 0, none, none, .default⟩
  upstreamOAuthAuthorizationSessions := Table.empty.insert 6
    ⟨4, none, none, none, none, none, none, none, none, none, "state"⟩ }

def callback : Request :=
  ⟨some 4, .get, .ok ⟨some "state", false, some "code", none, none, none, none⟩,
    .ok (some ⟨[⟨6, 4, "state", none, none⟩]⟩)⟩

theorem cookie_resolves_in_time : ∃ db' saved,
    (handler (oneAccount (5 * 60 * 1000 * 1000)) callback).Returns begun (.redirect 5 saved) db' ∧
    (5 * 60 * 1000 * 1000 - (Ulid.timestampMs 6 : ℤ) * 1000 ≤ UpstreamSessions.maxAge ∧
      ∃ action, saved.lookupLink 5 = .ok (6, action)) := by
  have hreturns : (handler (oneAccount (5 * 60 * 1000 * 1000)) callback).Returns begun
      (.redirect 5 ⟨[⟨6, 4, "state", some 5, none⟩]⟩) _ := Prod.ext (by decide +kernel) rfl
  refine ⟨_, _, hreturns, (saved_cookie_resolves_iff _ _ _ _ 6 5 _ ?_ hreturns).mpr ?_⟩
  · exact ⟨4, _, "state", none, rfl, rfl, rfl, by decide⟩
  · exact ⟨by decide, by decide⟩

/-- Eleven minutes after the attempt began: the handler succeeds, and drops the attempt. -/
theorem late_callback_loses_attempt : ∃ db' saved,
    IsAttempt callback 6 ∧
    (handler (oneAccount (11 * 60 * 1000 * 1000)) callback).Returns begun (.redirect 5 saved) db' ∧
    ¬(11 * 60 * 1000 * 1000 - (Ulid.timestampMs 6 : ℤ) * 1000 ≤ UpstreamSessions.maxAge) ∧
    ¬∃ action, saved.lookupLink 5 = .ok (6, action) := by
  have hreturns : (handler (oneAccount (11 * 60 * 1000 * 1000)) callback).Returns begun
      (.redirect 5 ⟨[]⟩) _ := Prod.ext (by decide +kernel) rfl
  refine ⟨_, _, ⟨4, _, "state", none, rfl, rfl, rfl, by decide⟩, hreturns, by decide, ?_⟩
  rintro ⟨action, h⟩
  cases h

end Attempts

end Pasion.UpstreamCallback
