import Pasion.Handlers.TokenRotation

/-! A refresh token that was exchanged is not good again once its successor has been used. -/
namespace Pasion.TokenRuns

open Relational TokenEffects Introspection Txn Table

def Op.DrawsRefresh (op : Op) (text : String) : Prop :=
  ∃ env, op.env? = some env ∧ TokenType.generate .refreshToken env.refreshTokenBytes = text

def Op.DrawsAccess (op : Op) (text : String) : Prop :=
  ∃ env, op.env? = some env ∧ TokenType.generate .accessToken env.accessTokenBytes = text

/-- A refresh token is as it was, but that references of it may have been cleared. -/
structure RowKept (db' : Database) (r r' : OAuth2RefreshTokenRow) : Prop where
  text : r'.refreshToken = r.refreshToken
  consumed : r'.consumedAt = r.consumedAt
  revoked : r'.revokedAt = r.revokedAt
  next : r'.nextOAuth2RefreshTokenId = r.nextOAuth2RefreshTokenId ∨
    r'.nextOAuth2RefreshTokenId = none
  access : r'.oauth2AccessTokenId = r.oauth2AccessTokenId ∨ r'.oauth2AccessTokenId = none
  accessThere : ∀ a, r.oauth2AccessTokenId = some a → db'.oauth2AccessTokens.contains a →
    r'.oauth2AccessTokenId = some a

theorem RowKept.refl (db' : Database) (r : OAuth2RefreshTokenRow) : RowKept db' r r :=
  ⟨rfl, rfl, rfl, .inl rfl, .inl rfl, fun _ ha _ => ha⟩

theorem RowKept.of_next {db' : Database} {r r' : OAuth2RefreshTokenRow} {n : Ulid}
    (h : RowKept db' r r') (hn : r'.nextOAuth2RefreshTokenId = some n) :
    r.nextOAuth2RefreshTokenId = some n := by
  rcases h.next with heq | hnone
  · exact heq.symm.trans hn
  · rw [hnone] at hn
    cases hn

/-- What a change other than a refresh does to the tokens: it issues some, or clears some away. -/
structure Plain (op : Op) (db db' : Database) : Prop where
  refresh : ∀ k r', db'.oauth2RefreshTokens.get? k = some r' → op.DrawsRefresh r'.refreshToken ∨
      ∃ r, db.oauth2RefreshTokens.get? k = some r ∧ RowKept db' r r'
  pointed : ∀ k r' n rn, db'.oauth2RefreshTokens.get? k = some r' →
    r'.nextOAuth2RefreshTokenId = some n → db.oauth2RefreshTokens.get? n = some rn →
    ∃ rn', db'.oauth2RefreshTokens.get? n = some rn' ∧ RowKept db' rn rn'
  access : ∀ a ra', db'.oauth2AccessTokens.get? a = some ra' → op.DrawsAccess ra'.accessToken ∨
      ∃ ra, db.oauth2AccessTokens.get? a = some ra ∧ ra'.accessToken = ra.accessToken ∧
        ra'.revokedAt = ra.revokedAt
  used : ∀ k r' a ra, db'.oauth2RefreshTokens.get? k = some r' → r'.oauth2AccessTokenId = some a →
    db.oauth2AccessTokens.get? a = some ra → ra.firstUsedAt.isSome →
    ∃ ra', db'.oauth2AccessTokens.get? a = some ra' ∧ ra'.firstUsedAt.isSome

section Plain

variable {op : Op} {db db' db'' : Database}

theorem Plain.of_eq (hrefresh : db'.oauth2RefreshTokens = db.oauth2RefreshTokens)
    (haccess : db'.oauth2AccessTokens = db.oauth2AccessTokens) : Plain op db db' where
  refresh _ r' hr' := .inr ⟨r', hrefresh ▸ hr', .refl db' r'⟩
  pointed _ _ _ rn _ _ hrn := ⟨rn, hrefresh ▸ hrn, .refl db' rn⟩
  access _ ra' hra' := .inr ⟨ra', haccess ▸ hra', rfl, rfl⟩
  used _ _ _ ra _ _ hra hused := ⟨ra, haccess ▸ hra, hused⟩

theorem Plain.updateAccessToken {id : Ulid} {f : OAuth2AccessTokenRow → OAuth2AccessTokenRow}
    (htext : ∀ ra, (f ra).accessToken = ra.accessToken)
    (hrevoked : ∀ ra, (f ra).revokedAt = ra.revokedAt)
    (hused : ∀ ra, ra.firstUsedAt.isSome → (f ra).firstUsedAt.isSome) :
    Plain op db (db.updateAccessToken id f) where
  refresh _ r' hr' := .inr ⟨r', hr', .refl _ r'⟩
  pointed _ _ _ rn _ _ hrn := ⟨rn, hrn, .refl _ rn⟩
  access a ra' hra' := by
    obtain ⟨ra, hra, rfl⟩ := of_get?_update hra'
    refine .inr ⟨ra, hra, ?_, ?_⟩
    · split_ifs
      · exact htext ra
      · rfl
    · split_ifs
      · exact hrevoked ra
      · rfl
  used _ _ a ra _ _ hra hfirst := by
    have hget : (db.oauth2AccessTokens.update id f).get? a = some (if a = id then f ra else ra) := by
      rw [get?_update, hra]
      split_ifs <;> rfl
    refine ⟨_, hget, ?_⟩
    split_ifs
    · exact hused ra hfirst
    · exact hfirst

theorem plain_deleteAccessTokens {ids : List Ulid} :
    Plain op db (db.delete .oauth2AccessTokens (· ∈ ids)) := by
  have hkept : ∀ r, RowKept (db.delete .oauth2AccessTokens (· ∈ ids)) r { r with
      oauth2AccessTokenId := r.oauth2AccessTokenId.filter (· ∉ ids) } := by
    intro r
    refine ⟨rfl, rfl, rfl, .inl rfl, ?_, fun a ha hthere => ?_⟩
    · cases ha : r.oauth2AccessTokenId with
      | none => exact .inl rfl
      | some a => by_cases hmem : a ∈ ids <;> simp [Option.filter, hmem]
    · obtain ⟨ra, hra⟩ := contains_iff_exists.mp hthere
      simpa [ha] using (get?_deleteAccessTokens.mp hra).2
  refine ⟨fun k r' hr' => ?_, fun k r' n rn hr' hn hrn => ?_, fun a ra' hra' => ?_,
    fun k r' a ra hr' ha hra hused => ?_⟩
  · obtain ⟨r, hr, rfl⟩ := get?_refresh_deleteAccessTokens.mp hr'
    exact .inr ⟨r, hr, hkept r⟩
  · exact ⟨_, get?_refresh_deleteAccessTokens.mpr ⟨rn, hrn, rfl⟩, hkept rn⟩
  · exact .inr ⟨ra', (get?_deleteAccessTokens.mp hra').1, rfl, rfl⟩
  · obtain ⟨r, hr, rfl⟩ := get?_refresh_deleteAccessTokens.mp hr'
    obtain ⟨-, hnot⟩ := Option.filter_eq_some_iff.mp ha
    exact ⟨ra, get?_deleteAccessTokens.mpr ⟨hra, of_decide_eq_true hnot⟩, hused⟩

theorem plain_deleteRefreshTokens {ids : List Ulid} :
    Plain op db (db.delete .oauth2RefreshTokens (· ∈ ids)) := by
  have hkept : ∀ r, RowKept (db.delete .oauth2RefreshTokens (· ∈ ids)) r { r with
      nextOAuth2RefreshTokenId := r.nextOAuth2RefreshTokenId.filter (· ∉ ids) } := by
    intro r
    refine ⟨rfl, rfl, rfl, ?_, .inl rfl, fun _ ha _ => ha⟩
    cases hn : r.nextOAuth2RefreshTokenId with
    | none => exact .inl rfl
    | some n => by_cases hmem : n ∈ ids <;> simp [Option.filter, hmem]
  refine ⟨fun k r' hr' => ?_, fun k r' n rn hr' hn hrn => ?_,
    fun a ra' hra' => .inr ⟨ra', hra', rfl, rfl⟩, fun _ _ a ra _ _ hra hused => ⟨ra, hra, hused⟩⟩
  · obtain ⟨r, hr, -, rfl⟩ := get?_deleteRefreshTokens.mp hr'
    exact .inr ⟨r, hr, hkept r⟩
  · obtain ⟨r, hr, -, rfl⟩ := get?_deleteRefreshTokens.mp hr'
    obtain ⟨-, hnot⟩ := Option.filter_eq_some_iff.mp hn
    exact ⟨_, get?_deleteRefreshTokens.mpr ⟨rn, hrn, by simpa using hnot, rfl⟩, hkept rn⟩

theorem plain_markedUsed {now : Time} {t : AccessToken} : Plain op db (markedUsed now t db) := by
  unfold markedUsed
  split_ifs
  · exact .of_eq rfl rfl
  · exact .updateAccessToken (fun _ => rfl) (fun _ => rfl) fun _ _ => rfl

section Issue

variable {env : TokenEnv} {s : Ulid} (henv : op.env? = some env)
include henv

theorem plain_issueAccess (hid : db.oauth2AccessTokens.get? env.accessTokenId = none) :
    Plain op db (issueAccess env s db) where
  refresh _ r' hr' := .inr ⟨r', hr', .refl _ r'⟩
  pointed _ _ _ rn _ _ hrn := ⟨rn, hrn, .refl _ rn⟩
  access a ra' hra' := by
    rcases of_get?_insert hra' with ⟨-, rfl⟩ | ⟨-, hra⟩
    · exact .inl ⟨env, henv, rfl⟩
    · exact .inr ⟨ra', hra, rfl, rfl⟩
  used _ _ a ra _ _ hra hused := by
    have hne : env.accessTokenId ≠ a := by
      rintro rfl
      rw [hid] at hra
      cases hra
    exact ⟨ra, (get?_insert ..).trans ((if_neg hne.symm).trans hra), hused⟩

theorem plain_issueRefresh (hid : db.oauth2RefreshTokens.get? env.refreshTokenId = none) :
    Plain op db (issueRefresh env s db) where
  refresh k r' hr' := by
    rcases of_get?_insert hr' with ⟨-, rfl⟩ | ⟨-, hr⟩
    · exact .inl ⟨env, henv, rfl⟩
    · exact .inr ⟨r', hr, .refl _ r'⟩
  pointed _ _ n rn _ _ hrn := by
    have hne : env.refreshTokenId ≠ n := by
      rintro rfl
      rw [hid] at hrn
      cases hrn
    exact ⟨rn, (get?_insert ..).trans ((if_neg hne.symm).trans hrn), .refl _ rn⟩
  access _ ra' hra' := .inr ⟨ra', hra', rfl, rfl⟩
  used _ _ _ ra _ _ hra hused := ⟨ra, hra, hused⟩

end Issue

/-- What plain changes and refreshes keep, every change keeps. -/
theorem change_induct {P : Database → Prop} (h : Change op db db') (hdb : P db)
    (hplain : ∀ {db db'}, Plain op db db' → P db → P db')
    (hrefreshed : ∀ {env token res old session db₁}, op.env? = some env →
      db.refreshTokenOf? token = some old → Refreshed env db res db' old session db₁ → P db') :
    P db' := by
  cases h with
  | quiet h => exact hplain (.of_eq h.refreshTokens h.accessTokens) hdb
  | used now t => exact hplain plain_markedUsed hdb
  | consented hid h =>
    obtain ⟨row, -, rfl⟩ := h.after
    refine hplain ?_ hdb
    exact .of_eq rfl rfl
  | @exchanged env res _ grant session henv h =>
    let db₀ := touch session.id env.userAgent db
    have hquiet : Quiet db db₀ := quiet_touch
    have hdb₀ : P db₀ := hplain (.of_eq hquiet.refreshTokens hquiet.accessTokens) hdb
    have haccess : P (issueAccess env session.id db₀) :=
      hplain (plain_issueAccess henv h.freshAccess.id) hdb₀
    have hpair : P (issueRefresh env session.id (issueAccess env session.id db₀)) :=
      hplain (plain_issueRefresh henv h.freshRefresh.id) haccess
    rw [h.after]
    refine hplain ?_ hpair
    exact .of_eq rfl rfl
  | refreshed henv hold h => exact hrefreshed henv hold h
  | @opened env res _ db₁ row refreshed henv hid h =>
    obtain ⟨haccess, hrefresh, -⟩ := h.before
    have hdb₁ : P db₁ := hplain (.of_eq hrefresh haccess) hdb
    have hissued : P (issueAccess env env.sessionId db₁) :=
      hplain (plain_issueAccess henv h.freshAccess.id) hdb₁
    rw [h.after]
    split_ifs with hpair
    · exact hplain (plain_issueRefresh henv (h.freshRefresh hpair).id) hissued
    · exact hissued
  | accessDeleted ids => exact hplain plain_deleteAccessTokens hdb
  | refreshDeleted ids h => exact hplain plain_deleteRefreshTokens hdb
  | sessionsDeleted ids h =>
    have htokens : P ((db.delete .oauth2RefreshTokens
        (· ∈ db.oauth2RefreshTokens.keysWhere (·.oauth2SessionId ∈ ids))).delete .oauth2AccessTokens
        (· ∈ db.oauth2AccessTokens.keysWhere (·.oauth2SessionId ∈ ids))) :=
      hplain plain_deleteAccessTokens (hplain plain_deleteRefreshTokens hdb)
    refine hplain ?_ htokens
    exact .of_eq rfl rfl

end Plain

section Refresh

variable {env : TokenEnv} {db db' db₁ : Database} {res : AccessTokenResponse} {old : RefreshToken}
  {session : Session}
variable {userAgent : Option String}

/-- A refresh token after a refresh that may have consumed or revoked it. -/
structure RowPassed (r r' : OAuth2RefreshTokenRow) : Prop where
  text : r'.refreshToken = r.refreshToken
  access : r'.oauth2AccessTokenId = r.oauth2AccessTokenId
  consumed : r.consumedAt.isSome → r'.consumedAt.isSome
  revoked : r'.revokedAt = none → r.revokedAt = none

theorem RowPassed.refl (r : OAuth2RefreshTokenRow) : RowPassed r r := ⟨rfl, rfl, id, id⟩

theorem row_of_successorGone {now : Time} {k : Ulid} {r' : OAuth2RefreshTokenRow}
    (h : SuccessorGone now old db db₁) (hr' : db₁.oauth2RefreshTokens.get? k = some r') :
    ∃ r, db.oauth2RefreshTokens.get? k = some r ∧ RowPassed r r' ∧
      r'.nextOAuth2RefreshTokenId = r.nextOAuth2RefreshTokenId ∧
      (r'.revokedAt = none → ¬old.isValid → old.state.nextRefreshTokenId ≠ some k) := by
  cases h with
  | none hvalid => exact ⟨r', hr', .refl r', rfl, fun _ hnot => absurd hvalid hnot⟩
  | @revoked next accessToken h =>
    obtain ⟨r, hr, rfl⟩ := of_get?_update hr'
    refine ⟨r, hr, ?_⟩
    split_ifs with hk
    · exact ⟨⟨rfl, rfl, id, fun hnone => by cases hnone⟩, rfl, fun hnone => by cases hnone⟩
    · refine ⟨.refl r, rfl, fun _ _ heq => hk ?_⟩
      exact Option.some.inj (heq.symm.trans h.pointed)

/-- An access token after a refresh, revoked if it was that of the successor. -/
structure AccessPassed (db : Database) (old : RefreshToken) (a : Ulid)
    (ra ra' : OAuth2AccessTokenRow) : Prop where
  text : ra'.accessToken = ra.accessToken
  used : ra'.firstUsedAt = ra.firstUsedAt
  unrevoked : ra'.revokedAt = none → ra.revokedAt = none ∧ ∀ n rn, ¬old.isValid →
    old.state.nextRefreshTokenId = some n → db.oauth2RefreshTokens.get? n = some rn →
    rn.oauth2AccessTokenId ≠ some a

theorem access_of_successorGone {now : Time} {a : Ulid} {ra' : OAuth2AccessTokenRow}
    (h : SuccessorGone now old db db₁) (hra' : db₁.oauth2AccessTokens.get? a = some ra') :
    ∃ ra, db.oauth2AccessTokens.get? a = some ra ∧ AccessPassed db old a ra ra' := by
  cases h with
  | none hvalid =>
    exact ⟨ra', hra', rfl, rfl, fun hra => ⟨hra, fun _ _ hnot => absurd hvalid hnot⟩⟩
  | @revoked next accessToken h =>
    obtain ⟨ra, hra, rfl⟩ := of_get?_update hra'
    refine ⟨ra, hra, ?_⟩
    split_ifs with ha
    · exact ⟨rfl, rfl, fun hnone => by cases hnone⟩
    · refine ⟨rfl, rfl, fun hnone => ⟨hnone, fun n rn _ hn hrn heq => ha ?_⟩⟩
      cases hn.symm.trans h.pointed
      obtain ⟨rn', hrn', -, -, -, haccess⟩ := row_of_refreshToken? h.loaded
      cases hrn.symm.trans hrn'
      exact Option.some.inj (heq.symm.trans (haccess.symm.trans h.access))

theorem contains_of_successorGone {now : Time} (h : SuccessorGone now old db db₁) (k : Ulid) :
    db₁.oauth2RefreshTokens.contains k = db.oauth2RefreshTokens.contains k ∧
      db₁.oauth2AccessTokens.contains k = db.oauth2AccessTokens.contains k := by
  cases h with
  | none hvalid => exact ⟨rfl, rfl⟩
  | revoked h => exact ⟨contains_update .., contains_update ..⟩

theorem touch_refreshTokens {id : Ulid} :
    (touch id userAgent db).oauth2RefreshTokens = db.oauth2RefreshTokens := by
  cases userAgent <;> rfl

theorem touch_accessTokens {id : Ulid} :
    (touch id userAgent db).oauth2AccessTokens = db.oauth2AccessTokens := by
  cases userAgent <;> rfl

section Rows

variable (h : Refreshed env db res db' old session db₁)
include h

/-- The tokens are all there when the new ones are issued. -/
theorem row_before_issue {k : Ulid} {r : OAuth2RefreshTokenRow}
    (hr : db.oauth2RefreshTokens.get? k = some r) :
    ∃ r₁, db₁.oauth2RefreshTokens.get? k = some r₁ ∧ RowPassed r r₁ := by
  have hthere : db₁.oauth2RefreshTokens.contains k := by
    rw [(contains_of_successorGone h.successor k).1, touch_refreshTokens]
    exact contains_iff_exists.mpr ⟨r, hr⟩
  obtain ⟨r₁, hr₁⟩ := contains_iff_exists.mp hthere
  obtain ⟨r₀, hr₀, hpassed, -⟩ := row_of_successorGone h.successor hr₁
  rw [touch_refreshTokens] at hr₀
  cases hr.symm.trans hr₀
  exact ⟨r₁, hr₁, hpassed⟩

@[inherit_doc row_before_issue]
theorem access_before_issue {a : Ulid} {ra : OAuth2AccessTokenRow}
    (hra : db.oauth2AccessTokens.get? a = some ra) :
    ∃ ra₁, db₁.oauth2AccessTokens.get? a = some ra₁ ∧ ra₁.accessToken = ra.accessToken := by
  have hthere : db₁.oauth2AccessTokens.contains a := by
    rw [(contains_of_successorGone h.successor a).2, touch_accessTokens]
    exact contains_iff_exists.mpr ⟨ra, hra⟩
  obtain ⟨ra₁, hra₁⟩ := contains_iff_exists.mp hthere
  obtain ⟨ra₀, hra₀, htext, -⟩ := access_of_successorGone h.successor hra₁
  rw [touch_accessTokens] at hra₀
  cases hra.symm.trans hra₀
  exact ⟨ra₁, hra₁, htext⟩

theorem refresh_id_ne : env.refreshTokenId ≠ old.id := by
  intro heq
  obtain ⟨token, hpresented⟩ := h.presented
  obtain ⟨r, hr, -⟩ := row_of_refreshTokenOf? hpresented
  obtain ⟨r₁, hr₁, -⟩ := row_before_issue h hr
  rw [← heq, h.freshRefresh.id] at hr₁
  cases hr₁

/-- The refresh tokens after a refresh: the new one, the presented one, and the others. -/
theorem row_of_refreshed {k : Ulid} {r' : OAuth2RefreshTokenRow}
    (hr' : db'.oauth2RefreshTokens.get? k = some r') :
    (k = env.refreshTokenId ∧ r' = refreshRow env session.id) ∨
      ∃ r, db.oauth2RefreshTokens.get? k = some r ∧ RowPassed r r' ∧
        (k = old.id → r'.consumedAt.isSome ∧
          r'.nextOAuth2RefreshTokenId = some env.refreshTokenId) ∧
        (k ≠ old.id → r'.nextOAuth2RefreshTokenId = r.nextOAuth2RefreshTokenId) ∧
        (r'.revokedAt = none → ¬old.isValid → old.state.nextRefreshTokenId ≠ some k) := by
  rw [h.after, refreshTokens_revokeAccess] at hr'
  obtain ⟨r₂, hr₂, rfl⟩ := of_get?_update hr'
  rcases of_get?_insert hr₂ with ⟨rfl, rfl⟩ | ⟨hk, hr₁⟩
  · exact .inl ⟨rfl, if_neg (refresh_id_ne h)⟩
  · obtain ⟨r, hr, hpassed, hnext, hgone⟩ := row_of_successorGone h.successor hr₁
    rw [touch_refreshTokens] at hr
    refine .inr ⟨r, hr, ?_⟩
    split_ifs with hold
    · refine ⟨⟨hpassed.text, hpassed.access, fun _ => rfl, hpassed.revoked⟩,
        fun _ => ⟨rfl, rfl⟩, fun hne => absurd hold hne, hgone⟩
    · exact ⟨hpassed, fun heq => absurd heq hold, fun _ => hnext, hgone⟩

theorem refreshed_row {k : Ulid} {r : OAuth2RefreshTokenRow}
    (hr : db.oauth2RefreshTokens.get? k = some r) :
    ∃ r', db'.oauth2RefreshTokens.get? k = some r' ∧ RowPassed r r' := by
  obtain ⟨r₁, hr₁, -⟩ := row_before_issue h hr
  have hthere : db'.oauth2RefreshTokens.contains k := by
    rw [h.after, refreshTokens_revokeAccess]
    exact (contains_update ..).trans
      (contains_insert_of_contains (contains_iff_exists.mpr ⟨r₁, hr₁⟩))
  obtain ⟨r', hr'⟩ := contains_iff_exists.mp hthere
  rcases row_of_refreshed h hr' with ⟨rfl, -⟩ | ⟨r₀, hr₀, hpassed, -⟩
  · rw [h.freshRefresh.id] at hr₁
    cases hr₁
  · cases hr.symm.trans hr₀
    exact ⟨r', hr', hpassed⟩

theorem access_of_refreshed {a : Ulid} {ra' : OAuth2AccessTokenRow}
    (hra' : db'.oauth2AccessTokens.get? a = some ra') :
    (a = env.accessTokenId ∧
        ra'.accessToken = TokenType.generate .accessToken env.accessTokenBytes) ∨
      ∃ ra, db.oauth2AccessTokens.get? a = some ra ∧ AccessPassed db old a ra ra' := by
  have hrevoke : ∃ ra₂, (issueAccess env session.id db₁).oauth2AccessTokens.get? a = some ra₂ ∧
      ra'.accessToken = ra₂.accessToken ∧ ra'.firstUsedAt = ra₂.firstUsedAt ∧
      (ra'.revokedAt = none → ra₂.revokedAt = none) := by
    rw [h.after] at hra'
    unfold revokeAccess at hra'
    split at hra'
    · obtain ⟨ra₂, hra₂, rfl⟩ := of_get?_update hra'
      refine ⟨ra₂, hra₂, ?_⟩
      split_ifs
      · exact ⟨rfl, rfl, fun hnone => (Option.or_eq_none_iff.mp hnone).1⟩
      · exact ⟨rfl, rfl, id⟩
    · exact ⟨ra', hra', rfl, rfl, id⟩
  obtain ⟨ra₂, hra₂, htext, hused, hrevoked⟩ := hrevoke
  rcases of_get?_insert hra₂ with ⟨rfl, rfl⟩ | ⟨-, hra₁⟩
  · exact .inl ⟨rfl, htext⟩
  · obtain ⟨ra, hra, htext₁, hused₁, hgone⟩ := access_of_successorGone h.successor hra₁
    rw [touch_accessTokens] at hra
    rw [touch_refreshTokens] at hgone
    exact .inr ⟨ra, hra, htext.trans htext₁, hused.trans hused₁,
      fun hnone => hgone (hrevoked hnone)⟩

theorem refreshed_access {a : Ulid} {ra : OAuth2AccessTokenRow}
    (hra : db.oauth2AccessTokens.get? a = some ra) :
    ∃ ra', db'.oauth2AccessTokens.get? a = some ra' ∧ ra'.firstUsedAt = ra.firstUsedAt := by
  obtain ⟨ra₁, hra₁, -⟩ := access_before_issue h hra
  have hissued : (issueAccess env session.id db₁).oauth2AccessTokens.contains a :=
    contains_insert_of_contains (contains_iff_exists.mpr ⟨ra₁, hra₁⟩)
  have hthere : db'.oauth2AccessTokens.contains a := by
    rw [h.after]
    unfold revokeAccess
    split
    · exact (contains_update ..).trans hissued
    · exact hissued
  obtain ⟨ra', hra'⟩ := contains_iff_exists.mp hthere
  rcases access_of_refreshed h hra' with ⟨rfl, -⟩ | ⟨ra₀, hra₀, -, hused, -⟩
  · rw [h.freshAccess.id] at hra₁
    cases hra₁
  · cases hra.symm.trans hra₀
    exact ⟨ra', hra', hused⟩

end Rows

end Refresh

section Spent

variable {op : Op} {db db' db₁ : Database} {t : String} {env : TokenEnv}
  {res : AccessTokenResponse} {old : RefreshToken} {session : Session} {r : OAuth2RefreshTokenRow}

/-- The successor was consumed itself, or its access token has been used or is gone. -/
def Blocked (db : Database) (rn : OAuth2RefreshTokenRow) : Prop :=
  rn.consumedAt.isSome ∨ rn.oauth2AccessTokenId = none ∨
    ∃ a ra, rn.oauth2AccessTokenId = some a ∧ db.oauth2AccessTokens.get? a = some ra ∧
      ra.firstUsedAt.isSome

/-- The refresh token, as long as it is there, is consumed and has no successor to give up. -/
def Spent (t : String) (db : Database) : Prop :=
  ∀ k r, db.oauth2RefreshTokens.get? k = some r → r.refreshToken = t →
    r.consumedAt.isSome ∧ ∀ n, r.nextOAuth2RefreshTokenId = some n →
      ∃ rn, db.oauth2RefreshTokens.get? n = some rn ∧ Blocked db rn

theorem next_of_state {state : RefreshTokenState} {n : Ulid}
    (hstate : r.state? = some state) (hn : state.nextRefreshTokenId = some n) :
    r.nextOAuth2RefreshTokenId = some n := by
  cases state with
  | valid => cases hn
  | revoked at_ => cases hn
  | consumed at_ next => exact (state?_consumed.mp hstate).2.2.trans hn

theorem not_isValid_of_consumed
    (hstate : r.state? = some old.state) (hconsumed : r.consumedAt.isSome) : ¬old.isValid := by
  intro hvalid
  rw [state_of_isValid hvalid] at hstate
  rw [(state?_valid.mp hstate).2.1] at hconsumed
  cases hconsumed

/-- A consumed token is accepted for the sake of its successor. -/
theorem successor_of_consumed
    (hold : db.refreshTokenOf? t = some old) (h : Refreshed env db res db' old session db₁)
    (hr : db.oauth2RefreshTokens.get? old.id = some r) (hconsumed : r.consumedAt.isSome) :
    ¬old.isValid ∧ ∃ next, old.state.nextRefreshTokenId = some next ∧
      r.nextOAuth2RefreshTokenId = some next := by
  obtain ⟨r₁, hr₁, -, hstate, -⟩ := row_of_refreshTokenOf? hold
  cases hr.symm.trans hr₁
  have hinvalid := not_isValid_of_consumed hstate hconsumed
  cases h.successor with
  | none hvalid => exact absurd hvalid hinvalid
  | @revoked next accessToken hsuccessor =>
    exact ⟨hinvalid, next.id, hsuccessor.pointed, next_of_state hstate hsuccessor.pointed⟩

/-- A token that a refresh accepts is not spent. -/
theorem not_spent_of_refreshed (hold : db.refreshTokenOf? t = some old)
    (h : Refreshed env db res db' old session db₁) : ¬Spent t db := by
  intro hspent
  obtain ⟨r, hr, htext, hstate, -⟩ := row_of_refreshTokenOf? hold
  obtain ⟨hconsumed, hblocked⟩ := hspent old.id r hr htext
  cases h.successor with
  | none hvalid => exact not_isValid_of_consumed hstate hconsumed hvalid
  | @revoked next accessToken hsuccessor =>
    obtain ⟨rn, hrn, -, hnstate, -, hnaccess⟩ := row_of_refreshToken? hsuccessor.loaded
    obtain ⟨ra, hra, hdecode⟩ := Option.map_eq_some_iff.mp hsuccessor.loadedAccess
    rw [touch_refreshTokens] at hrn
    rw [touch_accessTokens] at hra
    obtain ⟨rn', hrn', hcase⟩ := hblocked next.id (next_of_state hstate hsuccessor.pointed)
    cases hrn.symm.trans hrn'
    have haccess : rn.oauth2AccessTokenId = some accessToken.id :=
      hnaccess.symm.trans hsuccessor.access
    rw [state_of_isValid hsuccessor.valid] at hnstate
    rcases hcase with hcons | hnone | ⟨a, ra', ha, hra', hused⟩
    · rw [(state?_valid.mp hnstate).2.1] at hcons
      cases hcons
    · rw [hnone] at haccess
      cases haccess
    · cases ha.symm.trans haccess
      cases hra.symm.trans hra'
      have hunused := hsuccessor.unused
      rw [← hdecode] at hunused
      rw [show ra.firstUsedAt.isSome = false from hunused] at hused
      cases hused

theorem spent_plain (hfresh : ¬op.DrawsRefresh t) (h : Plain op db db') (hspent : Spent t db) :
    Spent t db' := by
  intro k r' hr' htext
  rcases h.refresh k r' hr' with hnew | ⟨r, hr, hkept⟩
  · exact absurd (htext ▸ hnew) hfresh
  obtain ⟨hconsumed, hblocked⟩ := hspent k r hr (hkept.text.symm.trans htext)
  refine ⟨hkept.consumed ▸ hconsumed, fun n hn => ?_⟩
  obtain ⟨rn, hrn, hcase⟩ := hblocked n (hkept.of_next hn)
  obtain ⟨rn', hrn', hkept'⟩ := h.pointed k r' n rn hr' hn hrn
  refine ⟨rn', hrn', ?_⟩
  rcases hcase with hcons | hnone | ⟨a, ra, ha, hra, hused⟩
  · exact .inl (hkept'.consumed ▸ hcons)
  · refine .inr (.inl ?_)
    rcases hkept'.access with heq | hgone
    · exact heq.trans hnone
    · exact hgone
  · rcases hkept'.access with heq | hgone
    · obtain ⟨ra', hra', hused'⟩ := h.used n rn' a ra hrn' (heq.trans ha) hra hused
      exact .inr (.inr ⟨a, ra', heq.trans ha, hra', hused'⟩)
    · exact .inr (.inl hgone)

theorem spent_change (hfresh : ¬op.DrawsRefresh t) (h : Change op db db') (hspent : Spent t db) :
    Spent t db' := by
  refine change_induct h hspent (spent_plain hfresh) ?_
  intro env token res old session db₁ henv hold h k r' hr' htext
  rcases row_of_refreshed h hr' with ⟨-, rfl⟩ | ⟨r, hr, hpassed, -, hother, -⟩
  · exact absurd ⟨env, henv, htext⟩ hfresh
  have htext' : r.refreshToken = t := hpassed.text.symm.trans htext
  have hne : k ≠ old.id := by
    rintro rfl
    obtain ⟨r₀, hr₀, htoken, -⟩ := row_of_refreshTokenOf? hold
    cases hr.symm.trans hr₀
    obtain rfl := htext'.symm.trans htoken
    exact not_spent_of_refreshed hold h hspent
  obtain ⟨hconsumed, hblocked⟩ := hspent k r hr htext'
  refine ⟨hpassed.consumed hconsumed, fun n hn => ?_⟩
  obtain ⟨rn, hrn, hcase⟩ := hblocked n ((hother hne).symm.trans hn)
  obtain ⟨rn', hrn', hpassed'⟩ := refreshed_row h hrn
  refine ⟨rn', hrn', ?_⟩
  rcases hcase with hcons | hnone | ⟨a, ra, ha, hra, hused⟩
  · exact .inl (hpassed'.consumed hcons)
  · exact .inr (.inl (hpassed'.access.trans hnone))
  · obtain ⟨ra', hra', hused'⟩ := refreshed_access h hra
    exact .inr (.inr ⟨a, ra', hpassed'.access.trans ha, hra', hused' ▸ hused⟩)

theorem spent_run {ops : List Op} (hfresh : ∀ op ∈ ops, ¬op.DrawsRefresh t) (hspent : Spent t db) :
    Spent t (Sequential.run step db ops) :=
  Sequential.run_invariant (fun db op hop => spent_change (hfresh op hop) (step_change db op)) hspent

/-- The presented refresh token is turned down, and no token is issued. -/
def Rejects (env : TokenEnv) (t : String) (client : Client) (db : Database) : Prop :=
  (¬∃ res db', (handleRefreshToken env t client).Returns db res db') ∧
    (step db (.refresh env t client)).oauth2AccessTokens = db.oauth2AccessTokens ∧
    (step db (.refresh env t client)).oauth2RefreshTokens = db.oauth2RefreshTokens

theorem rejects_of_spent (env : TokenEnv) (client : Client) (hspent : Spent t db) :
    Rejects env t client db := by
  have hnot : ¬∃ res db', (handleRefreshToken env t client).Returns db res db' := by
    rintro ⟨res, db', h⟩
    obtain ⟨old, session, db₁, hold, hrefreshed⟩ := returns_handleRefreshToken h
    exact not_spent_of_refreshed hold hrefreshed hspent
  refine ⟨hnot, transact_induct (P := fun s : Database =>
    s.oauth2AccessTokens = db.oauth2AccessTokens ∧ s.oauth2RefreshTokens = db.oauth2RefreshTokens)
    ⟨rfl, rfl⟩ (fun res db' h => ?_) fun e db' h => ?_⟩
  · exact absurd ⟨res, db', h⟩ hnot
  · obtain ⟨sessionId, userAgent, rfl⟩ := savesError_handleRefreshToken h
    exact ⟨quiet_endSession.accessTokens, quiet_endSession.refreshTokens⟩

end Spent

/-- The texts of refresh tokens are a key of their table. -/
def UniqueTexts (db : Database) : Prop :=
  ∀ k k' r r', db.oauth2RefreshTokens.get? k = some r → db.oauth2RefreshTokens.get? k' = some r' →
    r.refreshToken = r'.refreshToken → k = k'

section Rotation

variable {op : Op} {db db' : Database} {t t' : String}

/-- As long as the second token is not revoked, the first one can only lead to it. -/
def LeadsTo (t t' : String) (db : Database) : Prop :=
  ∀ k' r', db.oauth2RefreshTokens.get? k' = some r' → r'.refreshToken = t' → r'.revokedAt = none →
    ∀ k r, db.oauth2RefreshTokens.get? k = some r → r.refreshToken = t →
      r.consumedAt.isSome ∧ ∀ n, r.nextOAuth2RefreshTokenId = some n → n = k'

theorem leadsTo_plain (hfresh : ¬op.DrawsRefresh t) (hfresh' : ¬op.DrawsRefresh t')
    (h : Plain op db db') (hleads : LeadsTo t t' db) : LeadsTo t t' db' := by
  intro k' r' hr' htext' hrevoked k r hr htext
  rcases h.refresh k' r' hr' with hnew | ⟨r₀', hr₀', hkept'⟩
  · exact absurd (htext' ▸ hnew) hfresh'
  rcases h.refresh k r hr with hnew | ⟨r₀, hr₀, hkept⟩
  · exact absurd (htext ▸ hnew) hfresh
  obtain ⟨hconsumed, hnext⟩ := hleads k' r₀' hr₀' (hkept'.text.symm.trans htext')
    (hkept'.revoked.symm.trans hrevoked) k r₀ hr₀ (hkept.text.symm.trans htext)
  exact ⟨hkept.consumed ▸ hconsumed, fun n hn => hnext n (hkept.of_next hn)⟩

theorem leadsTo_change (hfresh : ¬op.DrawsRefresh t) (hfresh' : ¬op.DrawsRefresh t')
    (h : Change op db db') (hleads : LeadsTo t t' db) : LeadsTo t t' db' := by
  refine change_induct h hleads (leadsTo_plain hfresh hfresh') ?_
  intro env token res old session db₁ henv hold h k' r' hr' htext' hrevoked k r hr htext
  rcases row_of_refreshed h hr' with ⟨-, rfl⟩ | ⟨r₀', hr₀', hpassed', -, -, hgone⟩
  · exact absurd ⟨env, henv, htext'⟩ hfresh'
  rcases row_of_refreshed h hr with ⟨-, rfl⟩ | ⟨r₀, hr₀, hpassed, -, hother, -⟩
  · exact absurd ⟨env, henv, htext⟩ hfresh
  obtain ⟨hconsumed, hnext⟩ := hleads k' r₀' hr₀' (hpassed'.text.symm.trans htext')
    (hpassed'.revoked hrevoked) k r₀ hr₀ (hpassed.text.symm.trans htext)
  refine ⟨hpassed.consumed hconsumed, fun n hn => ?_⟩
  by_cases hk : k = old.id
  -- the first token was presented again: then its successor has been revoked
  · subst hk
    obtain ⟨hinvalid, next, hpointed, hstored⟩ := successor_of_consumed hold h hr₀ hconsumed
    rw [hnext next hstored] at hpointed
    exact absurd hpointed (hgone hrevoked hinvalid)
  · exact hnext n ((hother hk).symm.trans hn)

theorem leadsTo_run {ops : List Op}
    (hfresh : ∀ op ∈ ops, ¬op.DrawsRefresh t ∧ ¬op.DrawsRefresh t') (hleads : LeadsTo t t' db) :
    LeadsTo t t' (Sequential.run step db ops) := by
  refine Sequential.run_invariant (fun db op hop => ?_) hleads
  obtain ⟨hfirst, hsecond⟩ := hfresh op hop
  exact leadsTo_change hfirst hsecond (step_change db op)

variable {env : TokenEnv} {res : AccessTokenResponse} {old : RefreshToken} {session : Session}
  {db₁ : Database}

/-- The text of the new refresh token was not in the table. -/
theorem refresh_text_fresh (h : Refreshed env db res db' old session db₁) {k : Ulid}
    {r : OAuth2RefreshTokenRow} (hr : db.oauth2RefreshTokens.get? k = some r) :
    r.refreshToken ≠ TokenType.generate .refreshToken env.refreshTokenBytes := by
  obtain ⟨r₁, hr₁, hpassed⟩ := row_before_issue h hr
  exact fun heq => h.freshRefresh.text k r₁ hr₁ (hpassed.text.trans heq)

theorem leadsTo_refreshed (hunique : UniqueTexts db) (hold : db.refreshTokenOf? t = some old)
    (h : Refreshed env db res db' old session db₁) (ht' : res.refreshToken = some t') :
    t ≠ t' ∧ LeadsTo t t' db' := by
  cases ht'.symm.trans h.refreshToken
  obtain ⟨r₀, hr₀, htoken, -⟩ := row_of_refreshTokenOf? hold
  have hne : t ≠ TokenType.generate .refreshToken env.refreshTokenBytes := by
    rw [← htoken]
    exact refresh_text_fresh h hr₀
  refine ⟨hne, fun k' r' hr' htext' _ k r hr htext => ?_⟩
  have hk' : k' = env.refreshTokenId := by
    rcases row_of_refreshed h hr' with ⟨hk', -⟩ | ⟨r₁, hr₁, hpassed, -⟩
    · exact hk'
    · exact absurd (hpassed.text.symm.trans htext') (refresh_text_fresh h hr₁)
  rcases row_of_refreshed h hr with ⟨-, rfl⟩ | ⟨r₁, hr₁, hpassed, hconsumed, -⟩
  · exact absurd htext.symm hne
  have hk : k = old.id :=
    hunique k old.id r₁ r₀ hr₁ hr₀ (hpassed.text.symm.trans (htext.trans htoken.symm))
  obtain ⟨hsome, hnext⟩ := hconsumed hk
  refine ⟨hsome, fun n hn => ?_⟩
  rw [hk']
  exact Option.some.inj (hn.symm.trans hnext)

/-- Once the second token is exchanged, the first one is spent. -/
theorem spent_of_leadsTo (hne : t ≠ t') (hleads : LeadsTo t t' db)
    (hfresh : t ≠ TokenType.generate .refreshToken env.refreshTokenBytes)
    (hold : db.refreshTokenOf? t' = some old) (h : Refreshed env db res db' old session db₁) :
    Spent t db' := by
  obtain ⟨r₀, hr₀, htoken, hstate, -⟩ := row_of_refreshTokenOf? hold
  have hrevoked : r₀.revokedAt = none := by
    cases h.successor with
    | none hvalid =>
      rw [state_of_isValid hvalid] at hstate
      exact (state?_valid.mp hstate).1
    | @revoked next accessToken hsuccessor =>
      have hpointed := hsuccessor.pointed
      cases hcase : old.state with
      | consumed at_ n =>
        rw [hcase] at hstate
        exact (state?_consumed.mp hstate).1
      | valid => simp [hcase, RefreshTokenState.nextRefreshTokenId] at hpointed
      | revoked at_ => simp [hcase, RefreshTokenState.nextRefreshTokenId] at hpointed
  obtain ⟨r₀', hr₀', -⟩ := refreshed_row h hr₀
  intro k r hr htext
  rcases row_of_refreshed h hr with ⟨-, rfl⟩ | ⟨r₁, hr₁, hpassed, -, hother, -⟩
  · exact absurd htext.symm hfresh
  have htext₁ : r₁.refreshToken = t := hpassed.text.symm.trans htext
  have hk : k ≠ old.id := by
    rintro rfl
    cases hr₁.symm.trans hr₀
    exact hne (htext₁.symm.trans htoken)
  obtain ⟨hconsumed, hnext⟩ := hleads old.id r₀ hr₀ htoken hrevoked k r₁ hr₁ htext₁
  refine ⟨hpassed.consumed hconsumed, fun n hn => ?_⟩
  obtain rfl := hnext n ((hother hk).symm.trans hn)
  rcases row_of_refreshed h hr₀' with ⟨heq, -⟩ | ⟨_, _, _, hnow, -⟩
  · exact absurd heq.symm (refresh_id_ne h)
  · exact ⟨r₀', hr₀', .inl (hnow rfl).1⟩

/-- A refresh token whose successor was exchanged is never good again, if no text is drawn twice. -/
theorem rejects_after_rotation {env env' : TokenEnv} {client client' : Client}
    {res res' : AccessTokenResponse} {db db₁ db₂ : Database} {ops ops' : List Op}
    (hunique : UniqueTexts db) (hfirst : (handleRefreshToken env t client).Returns db res db₁)
    (ht' : res.refreshToken = some t')
    (hsecond : (handleRefreshToken env' t' client').Returns (Sequential.run step db₁ ops) res' db₂)
    (hfresh : ∀ op ∈ ops ++ .refresh env' t' client' :: ops',
      ¬op.DrawsRefresh t ∧ ¬op.DrawsRefresh t')
    (env'' : TokenEnv) (client'' : Client) :
    Rejects env'' t client'' (Sequential.run step db₂ ops') := by
  obtain ⟨old, session, _, hold, hrefreshed⟩ := returns_handleRefreshToken hfirst
  obtain ⟨hne, hleads⟩ := leadsTo_refreshed hunique hold hrefreshed ht'
  have hbetween : LeadsTo t t' (Sequential.run step db₁ ops) :=
    leadsTo_run (fun op hop => hfresh op (List.mem_append_left _ hop)) hleads
  obtain ⟨old', session', _, hold', hrefreshed'⟩ := returns_handleRefreshToken hsecond
  have hsecondFresh : t ≠ TokenType.generate .refreshToken env'.refreshTokenBytes := fun heq =>
    (hfresh _ (List.mem_append_right _ List.mem_cons_self)).1 ⟨env', rfl, heq.symm⟩
  have hspent : Spent t db₂ := spent_of_leadsTo hne hbetween hsecondFresh hold' hrefreshed'
  refine rejects_of_spent env'' client'' (spent_run (fun op hop => ?_) hspent)
  exact (hfresh op (List.mem_append_right _ (List.mem_cons_of_mem _ hop))).1

end Rotation

def adminSession : Database := { Database.empty with
  users := Table.empty.insert 1 ⟨"alice", 0, 0, none, none, true, false, none, none, none⟩
  oauth2Clients := Table.empty.insert 3 .codeFlow
  oauth2Sessions := Table.empty.insert 4
    ⟨some 1, none, 3, ["openid", "urn:pasion:admin"], 0, none, none, none, none, none⟩
  oauth2RefreshTokens := Table.empty.insert 11
    ⟨TokenType.generate .refreshToken [1], 0, none, none, none, 4, none⟩ }

def webClient : Client := ⟨3, Ulid.toString 3, [.authorizationCode, .refreshToken], none⟩

def drawn (n : UInt8) : TokenEnv :=
  ⟨n.toNat, 300, List.replicate 30 n, [n], 10 * n.toNat, 10 * n.toNat + 1, 10 * n.toNat + 2, none⟩

theorem uniqueTexts_adminSession : UniqueTexts adminSession := by
  have hone : ∀ k r, adminSession.oauth2RefreshTokens.get? k = some r → k = 11 := by
    intro k r hr
    rcases of_get?_insert hr with ⟨hk, -⟩ | ⟨-, hempty⟩
    · exact hk
    · cases hempty
  intro k k' r r' hr hr' _
  rw [hone k r hr, hone k' r' hr']

def secondToken : String := TokenType.generate .accessToken (List.replicate 30 2)

def firstRefresh : Repo RefreshTokenExchangeError AccessTokenResponse :=
  handleRefreshToken (drawn 2) (TokenType.generate .refreshToken [1]) webClient

def secondRefresh : Repo RefreshTokenExchangeError AccessTokenResponse :=
  handleRefreshToken (drawn 3) (TokenType.generate .refreshToken [2]) webClient

def afterRefresh : Database := (firstRefresh.exec adminSession).2

/-- The first refresh token comes back after its successor was exchanged. -/
theorem first_token_rejected : ∃ res res' db', firstRefresh.Returns adminSession res afterRefresh ∧
      secondRefresh.Returns (Sequential.run step afterRefresh [.recordActivity [(4, 2, none)]])
        res' db' ∧
      Rejects (drawn 4) (TokenType.generate .refreshToken [1]) webClient db' := by
  have hruns : (firstRefresh.exec adminSession).1.any (fun res =>
        res.refreshToken = some (TokenType.generate .refreshToken [2])) ∧
      (secondRefresh.exec (Sequential.run step afterRefresh
        [.recordActivity [(4, 2, none)]])).1.any (fun _ => true) ∧
      TokenType.generate .refreshToken [3] ≠ TokenType.generate .refreshToken [1] ∧
      TokenType.generate .refreshToken [3] ≠ TokenType.generate .refreshToken [2] := by
    decide +kernel
  obtain ⟨hfirst, hsecond, hne, hne'⟩ := hruns
  obtain ⟨res, hfirst, hres⟩ := exists_returns _ _ _ hfirst
  obtain ⟨res', hsecond, -⟩ := exists_returns _ _ _ hsecond
  have hfresh : ∀ op ∈ [Op.recordActivity [(4, 2, none)]] ++
      .refresh (drawn 3) (TokenType.generate .refreshToken [2]) webClient :: [],
      ¬op.DrawsRefresh (TokenType.generate .refreshToken [1]) ∧
        ¬op.DrawsRefresh (TokenType.generate .refreshToken [2]) := by
    simp [Op.DrawsRefresh, Op.env?, drawn, hne, hne']
  exact ⟨res, res', _, hfirst, hsecond, rejects_after_rotation uniqueTexts_adminSession hfirst
    (of_decide_eq_true hres) hsecond hfresh (drawn 4) webClient⟩

section Use

variable {op : Op} {db db' : Database} {t ta : String}

/-- As long as the access token is not revoked, the refresh token can only lead to it. -/
def LeadsToAccess (t ta : String) (db : Database) : Prop :=
  ∀ a ra, db.oauth2AccessTokens.get? a = some ra → ra.accessToken = ta → ra.revokedAt = none →
    ∀ k r, db.oauth2RefreshTokens.get? k = some r → r.refreshToken = t →
      r.consumedAt.isSome ∧ ∀ n, r.nextOAuth2RefreshTokenId = some n →
        ∃ rn, db.oauth2RefreshTokens.get? n = some rn ∧ rn.oauth2AccessTokenId = some a

theorem leadsToAccess_plain (hfresh : ¬op.DrawsRefresh t) (hfresh' : ¬op.DrawsAccess ta)
    (h : Plain op db db') (hleads : LeadsToAccess t ta db) : LeadsToAccess t ta db' := by
  intro a ra' hra' htext' hrevoked k r' hr' htext
  rcases h.access a ra' hra' with hnew | ⟨ra, hra, hsame, hrevoked'⟩
  · exact absurd (htext' ▸ hnew) hfresh'
  rcases h.refresh k r' hr' with hnew | ⟨r, hr, hkept⟩
  · exact absurd (htext ▸ hnew) hfresh
  obtain ⟨hconsumed, hnext⟩ := hleads a ra hra (hsame.symm.trans htext')
    (hrevoked'.symm.trans hrevoked) k r hr (hkept.text.symm.trans htext)
  refine ⟨hkept.consumed ▸ hconsumed, fun n hn => ?_⟩
  obtain ⟨rn, hrn, haccess⟩ := hnext n (hkept.of_next hn)
  obtain ⟨rn', hrn', hkept'⟩ := h.pointed k r' n rn hr' hn hrn
  have hthere : db'.oauth2AccessTokens.contains a := contains_iff_exists.mpr ⟨ra', hra'⟩
  exact ⟨rn', hrn', hkept'.accessThere a haccess hthere⟩

theorem leadsToAccess_change (hfresh : ¬op.DrawsRefresh t) (hfresh' : ¬op.DrawsAccess ta)
    (h : Change op db db') (hleads : LeadsToAccess t ta db) : LeadsToAccess t ta db' := by
  refine change_induct h hleads (leadsToAccess_plain hfresh hfresh') ?_
  intro env token res old session db₁ henv hold h a ra' hra' htext' hrevoked k r' hr' htext
  rcases access_of_refreshed h hra' with ⟨-, hnew⟩ | ⟨ra, hra, hsame, -, hgone⟩
  · exact absurd ⟨env, henv, hnew.symm.trans htext'⟩ hfresh'
  rcases row_of_refreshed h hr' with ⟨-, rfl⟩ | ⟨r, hr, hpassed, -, hother, -⟩
  · exact absurd ⟨env, henv, htext⟩ hfresh
  obtain ⟨hunrevoked, hlost⟩ := hgone hrevoked
  obtain ⟨hconsumed, hnext⟩ := hleads a ra hra (hsame.symm.trans htext') hunrevoked k r hr
    (hpassed.text.symm.trans htext)
  refine ⟨hpassed.consumed hconsumed, fun n hn => ?_⟩
  by_cases hk : k = old.id
  -- the refresh token was presented again: then the access token it led to has been revoked
  · subst hk
    obtain ⟨hinvalid, next, hpointed, hstored⟩ := successor_of_consumed hold h hr hconsumed
    obtain ⟨rn, hrn, haccess⟩ := hnext next hstored
    exact absurd haccess (hlost next rn hinvalid hpointed hrn)
  · obtain ⟨rn, hrn, haccess⟩ := hnext n ((hother hk).symm.trans hn)
    obtain ⟨rn', hrn', hpassed'⟩ := refreshed_row h hrn
    exact ⟨rn', hrn', hpassed'.access.trans haccess⟩

theorem leadsToAccess_run {ops : List Op}
    (hfresh : ∀ op ∈ ops, ¬op.DrawsRefresh t ∧ ¬op.DrawsAccess ta)
    (hleads : LeadsToAccess t ta db) : LeadsToAccess t ta (Sequential.run step db ops) := by
  refine Sequential.run_invariant (fun db op hop => ?_) hleads
  obtain ⟨hrefresh, haccess⟩ := hfresh op hop
  exact leadsToAccess_change hrefresh haccess (step_change db op)

theorem leadsToAccess_refreshed {env : TokenEnv} {res : AccessTokenResponse} {old : RefreshToken}
    {session : Session} {db₁ : Database} (hunique : UniqueTexts db)
    (hold : db.refreshTokenOf? t = some old) (h : Refreshed env db res db' old session db₁) :
    LeadsToAccess t res.accessToken db' := by
  obtain ⟨r₀, hr₀, htoken, -⟩ := row_of_refreshTokenOf? hold
  have hnew : db'.oauth2RefreshTokens.get? env.refreshTokenId = some (refreshRow env session.id) := by
    rw [h.after, refreshTokens_revokeAccess]
    refine (get?_update ..).trans ((if_neg (refresh_id_ne h)).trans ?_)
    exact (get?_insert ..).trans (if_pos rfl)
  intro a ra hra htext' _ k r hr htext
  have ha : a = env.accessTokenId := by
    rcases access_of_refreshed h hra with ⟨ha, -⟩ | ⟨ra₀, hra₀, hsame, -⟩
    · exact ha
    · obtain ⟨ra₁, hra₁, hsame₁⟩ := access_before_issue h hra₀
      have htaken : ra₁.accessToken = TokenType.generate .accessToken env.accessTokenBytes :=
        hsame₁.trans (hsame.symm.trans (htext'.trans h.accessToken))
      exact absurd htaken (h.freshAccess.text a ra₁ hra₁)
  rcases row_of_refreshed h hr with ⟨-, rfl⟩ | ⟨r₁, hr₁, hpassed, hconsumed, -⟩
  · have htaken : r₀.refreshToken = TokenType.generate .refreshToken env.refreshTokenBytes :=
      htoken.trans htext.symm
    exact absurd htaken (refresh_text_fresh h hr₀)
  have hk : k = old.id :=
    hunique k old.id r₁ r₀ hr₁ hr₀ (hpassed.text.symm.trans (htext.trans htoken.symm))
  obtain ⟨hsome, hnext⟩ := hconsumed hk
  refine ⟨hsome, fun n hn => ?_⟩
  cases hn.symm.trans hnext
  exact ⟨_, hnew, congrArg some ha.symm⟩

/-- The request presents the access token, and is completed. -/
inductive Accepts (ta : String) (db : Database) : Op → Prop where
  | introspect {sha256 : String → List ℕ} {now : Time} {hint : Option OAuthTokenTypeHint}
      {res : IntrospectionResponse} {db' : Database} (hcheck : TokenType.check ta = .ok .accessToken)
      (h : (introspectToken sha256 now ta hint).Returns db res db') :
      Accepts ta db (.introspect sha256 now ta hint)
  | userinfo {x : Userinfo.Signing} {now : Time} {token : Userinfo.RequestToken}
      {res : Userinfo.UserinfoResponse} {db' : Database} (htext : token.text = some ta)
      (h : (Userinfo.handleGet x now token).Returns db res db') :
      Accepts ta db (.userinfo x now token)
  | adminCall {sha256 : String → List ℕ} {now : Time} {authorization : Option (List UInt8)}
      {context : AdminCall.CallContext} {db' : Database}
      (htoken : AdminCall.bearerToken authorization = .ok ta)
      (hcheck : TokenType.check ta = .ok .accessToken)
      (h : (AdminCall.extractCallContext sha256 now authorization).Returns db context db') :
      Accepts ta db (.adminCall sha256 now authorization)

/-- A call of the administration API finds its access token marked already. -/
def adminFindsUsed (db : Database) : Op → Bool
  | .adminCall _ _ authorization =>
    match AdminCall.bearerToken authorization with
    | .ok token => (db.accessTokenOf? token).all AccessToken.isUsed
    | .error _ => true
  | _ => true

theorem markedUsed_of_accepts (h : Accepts ta db op) (hused : adminFindsUsed db op) :
    ∃ now accessToken, db.accessTokenOf? ta = some accessToken ∧ accessToken.isValid now ∧
      step db op = markedUsed now accessToken db := by
  cases h with
  | @introspect sha256 now hint res db' hcheck h =>
    have hstep : step db (.introspect sha256 now ta hint) = db' :=
      congrArg Prod.snd (transact_ok.mpr h)
    obtain ⟨type, hcheck', -, htype⟩ := returns_introspectToken.mp h
    cases hcheck.symm.trans hcheck'
    obtain ⟨accessToken, session, user, hactive, -, rfl⟩ := returns_introspectAccessToken.mp htype
    exact ⟨now, accessToken, hactive.found, hactive.valid, hstep⟩
  | @userinfo x now token res db' htext h =>
    have hstep : step db (.userinfo x now token) = db' := congrArg Prod.snd (transact_ok.mpr h)
    obtain ⟨text, accessToken, session, user, htext', hgranted, rfl⟩ := Userinfo.returns_handleGet h
    cases htext.symm.trans htext'
    exact ⟨now, accessToken, hgranted.found, hgranted.valid, hstep⟩
  | @adminCall sha256 now authorization context db' htoken hcheck h =>
    have hstep : step db (.adminCall sha256 now authorization) = db' :=
      congrArg Prod.snd (transact_ok.mpr h)
    obtain ⟨token, type, htoken', hcheck', hcaller, -⟩ := AdminCall.returns_extractCallContext.mp h
    cases htoken.symm.trans htoken'
    cases hcheck.symm.trans hcheck'
    obtain ⟨accessToken, session, hfound, -, -, hvalid, -, rfl⟩ :=
      AdminCall.returns_oauth2Caller.mp hcaller
    simp only [adminFindsUsed, htoken, hfound, Option.all_some] at hused
    exact ⟨now, accessToken, hfound, hvalid, hstep.trans (if_pos hused).symm⟩

/-- Once the access token is marked as used, the refresh token that led to it is spent. -/
theorem spent_of_markedUsed {now : Time} {accessToken : AccessToken} (hleads : LeadsToAccess t ta db)
    (hfound : db.accessTokenOf? ta = some accessToken) (hvalid : accessToken.isValid now) :
    Spent t (markedUsed now accessToken db) := by
  obtain ⟨⟨a, ra⟩, hfind, rfl⟩ := Option.map_eq_some_iff.mp hfound
  obtain ⟨hra, htext⟩ := find?_some hfind
  have hunrevoked : ra.revokedAt = none := by
    have hstate := (Bool.and_eq_true_iff.mp hvalid).1
    cases hrevoked : ra.revokedAt with
    | none => rfl
    | some at_ => simp [OAuth2AccessTokenRow.toAccessToken, hrevoked, AccessTokenState.isValid] at hstate
  have hrefresh : (markedUsed now (ra.toAccessToken a) db).oauth2RefreshTokens =
      db.oauth2RefreshTokens := by
    unfold markedUsed
    split_ifs <;> rfl
  have hmarked : ∃ ra', (markedUsed now (ra.toAccessToken a) db).oauth2AccessTokens.get? a = some ra' ∧
      ra'.firstUsedAt.isSome := by
    unfold markedUsed
    split_ifs with hused
    · exact ⟨ra, hra, hused⟩
    · exact ⟨{ ra with firstUsedAt := some now },
        (get?_update ..).trans ((if_pos rfl).trans (congrArg _ hra)), rfl⟩
  obtain ⟨ra', hra', hused⟩ := hmarked
  intro k r hr hrtext
  rw [hrefresh] at hr ⊢
  obtain ⟨hconsumed, hnext⟩ := hleads a ra hra (of_decide_eq_true htext) hunrevoked k r hr hrtext
  refine ⟨hconsumed, fun n hn => ?_⟩
  obtain ⟨rn, hrn, haccess⟩ := hnext n hn
  exact ⟨rn, hrn, .inr (.inr ⟨a, ra', haccess, hra', hused⟩)⟩

/-- A refresh token whose access token was accepted is spent, except that the administration API
accepts one that is not marked. -/
theorem rejects_after_use {env : TokenEnv} {client : Client} {res : AccessTokenResponse}
    {db db₁ : Database} {ops ops' : List Op} (hunique : UniqueTexts db)
    (hfirst : (handleRefreshToken env t client).Returns db res db₁)
    (haccepts : Accepts res.accessToken (Sequential.run step db₁ ops) op)
    (hused : adminFindsUsed (Sequential.run step db₁ ops) op)
    (hfresh : ∀ op' ∈ ops ++ op :: ops', ¬op'.DrawsRefresh t ∧ ¬op'.DrawsAccess res.accessToken)
    (env' : TokenEnv) (client' : Client) :
    Rejects env' t client' (Sequential.run step db₁ (ops ++ op :: ops')) := by
  obtain ⟨old, session, _, hold, hrefreshed⟩ := returns_handleRefreshToken hfirst
  have hbetween : LeadsToAccess t res.accessToken (Sequential.run step db₁ ops) :=
    leadsToAccess_run (fun op hop => hfresh op (List.mem_append_left _ hop))
      (leadsToAccess_refreshed hunique hold hrefreshed)
  obtain ⟨now, accessToken, hfound, hvalid, hstep⟩ := markedUsed_of_accepts haccepts hused
  have hspent : Spent t (step (Sequential.run step db₁ ops) op) := by
    rw [hstep]
    exact spent_of_markedUsed hbetween hfound hvalid
  have hrun : Sequential.run step db₁ (ops ++ op :: ops') =
      Sequential.run step (step (Sequential.run step db₁ ops) op) ops' := List.foldl_append
  rw [hrun]
  refine rejects_of_spent env' client' (spent_run (fun op hop => ?_) hspent)
  exact (hfresh op (List.mem_append_right _ (List.mem_cons_of_mem _ hop))).1

end Use

def adminRequest : Op :=
  .adminCall AdminCall.noDigest 3 (some (Str.bytes ("Bearer " ++ secondToken)))

def introspection : Op := .introspect AdminCall.noDigest 3 secondToken none

/-- The access token opens the administration API, and the refresh token is good once more. -/
theorem replay_after_admin_call : UniqueTexts adminSession ∧
    ∃ res, firstRefresh.Returns adminSession res afterRefresh ∧
      Accepts res.accessToken afterRefresh adminRequest ∧
      ∃ res' db', (handleRefreshToken (drawn 4) (TokenType.generate .refreshToken [1])
        webClient).Returns (step afterRefresh adminRequest) res' db' := by
  have hruns : (firstRefresh.exec adminSession).1.any (fun res => res.accessToken = secondToken) ∧
      AdminCall.bearerToken (some (Str.bytes ("Bearer " ++ secondToken))) = .ok secondToken ∧
      TokenType.check secondToken = .ok .accessToken ∧
      ((AdminCall.extractCallContext AdminCall.noDigest 3
        (some (Str.bytes ("Bearer " ++ secondToken)))).exec afterRefresh).1.any (fun _ => true) ∧
      ((handleRefreshToken (drawn 4) (TokenType.generate .refreshToken [1]) webClient).exec
        (step afterRefresh adminRequest)).1.any (fun _ => true) := by
    decide +kernel
  obtain ⟨hfirst, hbearer, hcheck, hcall, hagain⟩ := hruns
  obtain ⟨res, hfirst, hres⟩ := exists_returns _ _ _ hfirst
  obtain ⟨context, hcall, -⟩ := exists_returns _ _ _ hcall
  obtain ⟨res', hagain, -⟩ := exists_returns _ _ _ hagain
  refine ⟨uniqueTexts_adminSession, res, hfirst, ?_, res', _, hagain⟩
  rw [of_decide_eq_true hres]
  exact .adminCall hbearer hcheck hcall

/-- After an introspection of the access token, the refresh token is rejected. -/
theorem replay_after_introspection : ∃ res, firstRefresh.Returns adminSession res afterRefresh ∧
      Rejects (drawn 4) (TokenType.generate .refreshToken [1]) webClient
        (Sequential.run step afterRefresh [introspection, adminRequest]) := by
  have hruns : (firstRefresh.exec adminSession).1.any (fun res => res.accessToken = secondToken) ∧
      TokenType.check secondToken = .ok .accessToken ∧
      ((introspectToken AdminCall.noDigest 3 secondToken none).exec afterRefresh).1.any
        (fun _ => true) := by
    decide +kernel
  obtain ⟨hfirst, hcheck, hintrospect⟩ := hruns
  obtain ⟨res, hfirst, hres⟩ := exists_returns _ _ _ hfirst
  obtain ⟨response, hintrospect, -⟩ := exists_returns _ _ _ hintrospect
  have haccepts : Accepts res.accessToken (Sequential.run step afterRefresh []) introspection := by
    rw [of_decide_eq_true hres]
    exact .introspect hcheck hintrospect
  have hfresh : ∀ op ∈ [] ++ introspection :: [adminRequest],
      ¬op.DrawsRefresh (TokenType.generate .refreshToken [1]) ∧ ¬op.DrawsAccess res.accessToken := by
    simp [Op.DrawsRefresh, Op.DrawsAccess, adminRequest, introspection, Op.env?]
  exact ⟨res, hfirst,
    rejects_after_use uniqueTexts_adminSession hfirst haccepts rfl hfresh (drawn 4) webClient⟩

end Pasion.TokenRuns
