import Pasion.Pg.OAuth2Grant
import Pasion.Pg.Personal
import Pasion.Relational.Evolves

/-! Changes to the database that leave the tokens alone and end no session's end. -/
namespace Pasion

open Relational

def OAuth2SessionRow.StaysFinished (r r' : OAuth2SessionRow) : Prop :=
  r.finishedAt.isSome → r'.finishedAt.isSome

def PersonalSessionRow.StaysRevoked (r r' : PersonalSessionRow) : Prop :=
  r.revokedAt.isSome → r'.revokedAt.isSome

/-- The tokens are the same, the sessions go on or end, and grants at most disappear. -/
structure Quiet (db db' : Database) : Prop where
  accessTokens : db'.oauth2AccessTokens = db.oauth2AccessTokens
  refreshTokens : db'.oauth2RefreshTokens = db.oauth2RefreshTokens
  sessions : Table.Evolves OAuth2SessionRow.StaysFinished db.oauth2Sessions db'.oauth2Sessions
  personalSessions : Table.Evolves PersonalSessionRow.StaysRevoked db.personalSessions
    db'.personalSessions
  grants : ∀ g r, db'.oauth2AuthorizationGrants.get? g = some r →
    db.oauth2AuthorizationGrants.get? g = some r

section Quiet

variable {db db' db'' : Database} {id : Ulid} {f : OAuth2SessionRow → OAuth2SessionRow}

theorem staysFinished_refl (r : OAuth2SessionRow) : r.StaysFinished r := fun h => h

theorem staysRevoked_refl (r : PersonalSessionRow) : r.StaysRevoked r := fun h => h

/-- Of the tables that matter, only the sessions may have changed. -/
theorem Quiet.of_sessions (haccess : db'.oauth2AccessTokens = db.oauth2AccessTokens)
    (hrefresh : db'.oauth2RefreshTokens = db.oauth2RefreshTokens)
    (hgrants : db'.oauth2AuthorizationGrants = db.oauth2AuthorizationGrants)
    (hpersonal : db'.personalSessions = db.personalSessions)
    (hsessions : Table.Evolves OAuth2SessionRow.StaysFinished db.oauth2Sessions
      db'.oauth2Sessions) : Quiet db db' where
  accessTokens := haccess
  refreshTokens := hrefresh
  sessions := hsessions
  personalSessions := .of_eq staysRevoked_refl hpersonal
  grants g r h := by
    rw [← hgrants]
    exact h

theorem Quiet.refl (db : Database) : Quiet db db :=
  .of_sessions rfl rfl rfl rfl (.refl staysFinished_refl _)

theorem Quiet.trans (h : Quiet db db') (h' : Quiet db' db'') : Quiet db db'' where
  accessTokens := h'.accessTokens.trans h.accessTokens
  refreshTokens := h'.refreshTokens.trans h.refreshTokens
  sessions := h.sessions.trans (fun hab hbc ha => hbc (hab ha)) h'.sessions
  personalSessions := h.personalSessions.trans (fun hab hbc ha => hbc (hab ha)) h'.personalSessions
  grants g r hr := h.grants g r (h'.grants g r hr)

/-- An update of one session that does not clear the time of its end. -/
theorem Quiet.updateSession (hf : ∀ r : OAuth2SessionRow, r.StaysFinished (f r)) :
    Quiet db (db.updateSession id f) :=
  .of_sessions rfl rfl rfl rfl (.update staysFinished_refl hf _ _)

theorem Quiet.finishSession {now : Time} :
    Quiet db (db.updateSession id (fun r => { r with finishedAt := some now })) :=
  .updateSession fun _ _ => rfl

end Quiet

end Pasion
