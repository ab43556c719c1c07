import Pasion.Handlers.TokenRuns

/-! A session that a revocation has ended stays ended, whatever comes after. -/
namespace Pasion.TokenRuns

open Relational TokenEffects Introspection Revocation

variable {db : Database}

section Ended

variable {db db' : Database} {key : SessionKey} {op : Op}

/-- No request gives the identifier of the session to a new one. -/
def Op.Avoids (op : Op) : SessionKey → Prop
  | .oauth2 id => op.newSession? ≠ some id
  | .personal _ => True

theorem ended_congr (hsessions : db'.oauth2Sessions = db.oauth2Sessions)
    (hpersonal : db'.personalSessions = db.personalSessions) (h : Ended db key) :
    Ended db' key := by
  cases key with
  | oauth2 id => exact fun r hr => h r (hsessions ▸ hr)
  | personal id => exact fun r hr => h r (hpersonal ▸ hr)

theorem ended_insert {sessionId : Ulid} {row : OAuth2SessionRow}
    (hsessions : db'.oauth2Sessions = db.oauth2Sessions.insert sessionId row)
    (hpersonal : db'.personalSessions = db.personalSessions)
    (hnew : op.newSession? = some sessionId) (havoids : op.Avoids key) (h : Ended db key) :
    Ended db' key := by
  cases key with
  | oauth2 id =>
    intro r hr
    rw [hsessions, Table.get?_insert] at hr
    split_ifs at hr with heq
    · exact absurd (heq ▸ hnew) havoids
    · exact h r hr
  | personal id => exact fun r hr => h r (hpersonal ▸ hr)

theorem ended_deleteSessions {ids : List Ulid} (h : Ended db key) :
    Ended (OAuth2SessionRepository.deleteSessions db db ids) key := by
  cases key with
  | oauth2 id =>
    intro r hr
    exact h r (Table.get?_delete_eq_some.mp hr).1
  | personal id => exact h

theorem sessions_successorGone {now : Time} {old : RefreshToken}
    (h : SuccessorGone now old db db') :
    db'.oauth2Sessions = db.oauth2Sessions ∧ db'.personalSessions = db.personalSessions := by
  cases h with
  | none hvalid => exact ⟨rfl, rfl⟩
  | revoked hsuccessor => exact ⟨rfl, rfl⟩

theorem ended_change (hchange : Change op db db') (havoids : op.Avoids key) (h : Ended db key) :
    Ended db' key := by
  cases hchange with
  | quiet hquiet => exact ended_of_quiet hquiet h
  | used now t =>
    unfold markedUsed
    split_ifs
    · exact h
    · exact ended_congr rfl rfl h
  | consented hid hfulfilled =>
    obtain ⟨row, -, rfl⟩ := hfulfilled.after
    exact ended_insert rfl rfl hid havoids h
  | @exchanged env _ _ _ session henv hexchanged =>
    have htouched : Ended (touch session.id env.userAgent db) key := ended_of_quiet quiet_touch h
    rw [hexchanged.after]
    exact ended_congr rfl rfl htouched
  | @refreshed env _ _ _ _ session db₁ henv hold hrefreshed =>
    have htouched : Ended (touch session.id env.userAgent db) key := ended_of_quiet quiet_touch h
    obtain ⟨hsessions, hpersonal⟩ := sessions_successorGone hrefreshed.successor
    have hgone : Ended db₁ key := ended_congr hsessions hpersonal htouched
    rw [hrefreshed.after]
    exact ended_congr sessions_revokeAccess.1 sessions_revokeAccess.2 (ended_congr rfl rfl hgone)
  | opened henv hid hopened =>
    obtain ⟨-, -, -, -, hpersonal, hsessions⟩ := hopened.before
    have hended := ended_insert hsessions hpersonal hid havoids h
    rw [hopened.after]
    split_ifs
    · exact ended_congr rfl rfl hended
    · exact ended_congr rfl rfl hended
  | accessDeleted ids => exact ended_congr rfl rfl h
  | refreshDeleted ids hids => exact ended_congr rfl rfl h
  | sessionsDeleted ids hids => exact ended_deleteSessions h

theorem ended_run {ops : List Op} (havoids : ∀ op ∈ ops, op.Avoids key) (h : Ended db key) :
    Ended (Sequential.run step db ops) key := by
  induction ops generalizing db with
  | nil => exact h
  | cons op rest ih =>
    have hstep := ended_change (step_change db op) (havoids op List.mem_cons_self) h
    exact ih (fun op hop => havoids op (List.mem_cons_of_mem _ hop)) hstep

end Ended

theorem not_isValid_of_ended {id : Ulid} {session : Session}
    (hended : Ended db (.oauth2 id)) (hloaded : db.session? id = some session) :
    ¬session.isValid := by
  intro hvalid
  obtain ⟨-, r, hr, -, -, hiff⟩ := Database.session?_eq_some hloaded
  have hfinished := hended r hr
  rw [hiff.mp hvalid] at hfinished
  cases hfinished

theorem not_isValid_of_ended_personal {id : Ulid} {session : PersonalSession}
    (hended : Ended db (.personal id)) (hloaded : db.personalSession? id = some session) :
    ¬session.isValid := by
  intro hvalid
  obtain ⟨-, r, hr, hiff⟩ := Database.personalSession?_eq_some hloaded
  have hrevoked := hended r hr
  rw [hiff.mp hvalid] at hrevoked
  cases hrevoked

/-- A token of a session that is over is not active. -/
theorem not_active_of_ended {db' : Database} {key : SessionKey} {sha256 : String → List ℕ}
    {now : Time} {token : String} {hint : Option OAuthTokenTypeHint} {res : IntrospectionResponse}
    (hended : Ended db key) (hkey : tokenSession? db sha256 token = some key) :
    ¬(introspectToken sha256 now token hint).Returns db res db' := by
  intro h
  obtain ⟨type, hcheck, -, htype⟩ := returns_introspectToken.mp h
  simp only [tokenSession?, hcheck] at hkey
  cases type with
  | accessToken =>
    obtain ⟨t, session, user, hactive, -, -⟩ := returns_introspectAccessToken.mp htype
    simp only [hactive.found, Option.map_some, Option.some.injEq] at hkey
    subst hkey
    exact not_isValid_of_ended hended hactive.loaded hactive.sessionValid
  | refreshToken =>
    obtain ⟨t, session, user, hactive, -, -⟩ := returns_introspectRefreshToken htype
    simp only [hactive.found, Option.map_some, Option.some.injEq] at hkey
    subst hkey
    exact not_isValid_of_ended hended hactive.loaded hactive.sessionValid
  | personalAccessToken =>
    obtain ⟨t, session, actor, owner, hactive, -, -⟩ := returns_introspectPersonalToken.mp htype
    simp only [hactive.found, Option.map_some, Option.some.injEq] at hkey
    subst hkey
    exact not_isValid_of_ended_personal hended hactive.loaded hactive.sessionValid

/-- Once revoked, no token of the session is active, unless its identifier is drawn again. -/
theorem revoked_session_never_active {env : Env} {token : String}
    {hint : Option OAuthTokenTypeHint} {clientId : Option Ulid} {db db₁ : Database}
    {key : SessionKey} {ops : List Op}
    (hrevoke : (revokeToken env token hint clientId).Returns db () db₁)
    (hkey : tokenSession? db env.sha256 token = some key) (havoids : ∀ op ∈ ops, op.Avoids key)
    (token' : String) (hkey' : tokenSession? (Sequential.run step db₁ ops) env.sha256 token' = some key)
    (now : Time) (hint' : Option OAuthTokenTypeHint) :
    ¬∃ res db', (introspectToken env.sha256 now token' hint').Returns
      (Sequential.run step db₁ ops) res db' ∧ res.active := by
  rintro ⟨res, db', hreturns, -⟩
  obtain ⟨⟨key', hfound, hended⟩, -⟩ := returns_revokeToken hrevoke
  cases hkey.symm.trans hfound
  exact not_active_of_ended (ended_run havoids hended) hkey' hreturns

def pairIssued : Database := { Database.alice with
  oauth2Clients := Table.empty.insert 3 .codeFlow
  oauth2Sessions := Table.empty.insert 4
    ⟨some 1, none, 3, ["openid"], 0, none, none, none, none, none⟩
  oauth2AccessTokens := Table.empty.insert 10
    ⟨4, TokenType.generate .accessToken (List.replicate 30 1), 0, none, none, none⟩
  oauth2RefreshTokens := Table.empty.insert 11
    ⟨TokenType.generate .refreshToken (List.replicate 30 2), 0, none, none, some 10, 4, none⟩ }

def plainEnv : Env := ⟨fun _ => [], 1, 20⟩

/-- The refresh token goes with the access token that was revoked, also after more activity. -/
theorem refresh_token_of_revoked : tokenSession? pairIssued plainEnv.sha256
      (TokenType.generate .accessToken (List.replicate 30 1)) = some (.oauth2 4) ∧
    ∃ db₁, (revokeToken plainEnv (TokenType.generate .accessToken (List.replicate 30 1)) none
        (some 3)).Returns pairIssued () db₁ ∧
      ¬∃ res db', (introspectToken plainEnv.sha256 2
        (TokenType.generate .refreshToken (List.replicate 30 2)) none).Returns
          (Sequential.run step db₁ [.recordActivity [(4, 2, none)]]) res db' ∧ res.active := by
  obtain ⟨_, hrevoke, -⟩ := Txn.exists_returns
    (revokeToken plainEnv (TokenType.generate .accessToken (List.replicate 30 1)) none (some 3))
    pairIssued (fun _ => true) (by decide +kernel)
  have hkey : tokenSession? pairIssued plainEnv.sha256
      (TokenType.generate .accessToken (List.replicate 30 1)) = some (.oauth2 4) := by
    decide +kernel
  refine ⟨hkey, _, hrevoke, revoked_session_never_active hrevoke hkey ?_ _ ?_ 2 none⟩
  · intro op hop
    obtain rfl := List.mem_singleton.mp hop
    simp [Op.Avoids, Op.newSession?]
  · decide +kernel

end Pasion.TokenRuns
