import Pasion.Handlers.CodeExchange
import Pasion.Handlers.TokenLineage

/-! Exchanges and refreshes keep the refresh tokens of each session in one line. -/
namespace Pasion.TokenRuns

open Relational TokenEffects Introspection Table

variable {db : Database}

section Rows

variable {db : Database}
variable {t : RefreshToken}

theorem row_of_refreshToken? {id : Ulid} (h : db.refreshToken? id = some t) :
    ∃ r, db.oauth2RefreshTokens.get? id = some r ∧ t.id = id ∧ r.state? = some t.state ∧
      t.sessionId = r.oauth2SessionId ∧ t.accessTokenId = r.oauth2AccessTokenId := by
  obtain ⟨r, hr, hdecode⟩ := Option.bind_eq_some_iff.mp h
  obtain ⟨hid, hfacts⟩ := r.toRefreshToken_ok (toOption_eq_some.mp hdecode)
  exact ⟨r, hr, hid, hfacts⟩

theorem row_of_refreshTokenOf? {token : String} (h : db.refreshTokenOf? token = some t) :
    ∃ r, db.oauth2RefreshTokens.get? t.id = some r ∧ r.refreshToken = token ∧
      r.state? = some t.state ∧ t.sessionId = r.oauth2SessionId ∧
      t.accessTokenId = r.oauth2AccessTokenId := by
  obtain ⟨⟨k, r⟩, hfind, hdecode⟩ := Option.bind_eq_some_iff.mp h
  obtain ⟨hr, htoken⟩ := find?_some hfind
  obtain ⟨rfl, hfacts⟩ := r.toRefreshToken_ok (toOption_eq_some.mp hdecode)
  exact ⟨r, hr, of_decide_eq_true htoken, hfacts⟩

theorem state_of_isValid (h : t.isValid) : t.state = .valid := by
  unfold RefreshToken.isValid RefreshTokenState.isValid at h
  split at h
  · assumption
  · cases h

end Rows

section Issue

variable {db db' : Database} {env : TokenEnv} {s : Ulid}

/-- No live token of the session is left, and none is about to come from a grant. -/
structure Bare (db : Database) (s : Ulid) : Prop where
  session : db.oauth2Sessions.contains s
  refresh : ∀ k r, db.oauth2RefreshTokens.get? k = some r → r.state? = some .valid →
    r.oauth2SessionId ≠ s
  access : ∀ a ra, db.oauth2AccessTokens.get? a = some ra → ra.revokedAt = none →
    ra.oauth2SessionId ≠ s
  grant : ∀ g, ¬Awaits db g s

theorem Lineage.issueAccess (hdb : Lineage db) (hbare : Bare db s) :
    Lineage (TokenEffects.issueAccess env s db) :=
  hdb.insertAccessToken hbare.session hbare.refresh hbare.access hbare.grant

theorem Lineage.issuePair (hdb : Lineage db) (hbare : Bare db s)
    (hid : db.oauth2RefreshTokens.get? env.refreshTokenId = none) :
    Lineage (issueRefresh env s (TokenEffects.issueAccess env s db)) := by
  refine (hdb.issueAccess hbare).insertRefreshToken hid rfl hbare.session hbare.refresh ?_ ?_
    hbare.grant
  · intro a ra hra hrevoked hsession
    rcases of_get?_insert hra with ⟨rfl, -⟩ | ⟨-, hold⟩
    · rfl
    · exact absurd hsession (hbare.access a ra hold hrevoked)
  · intro a ha
    cases ha
    exact contains_iff_exists.mpr ⟨_, (get?_insert ..).trans (if_pos rfl)⟩

theorem bare_of_fresh (hdb : Lineage db) (hfresh : db.oauth2Sessions.get? s = none)
    (hrefresh : db'.oauth2RefreshTokens = db.oauth2RefreshTokens)
    (haccess : db'.oauth2AccessTokens = db.oauth2AccessTokens)
    (hgrants : db'.oauth2AuthorizationGrants = db.oauth2AuthorizationGrants)
    (hsession : db'.oauth2Sessions.contains s) : Bare db' s := by
  have habsent : ¬db.oauth2Sessions.contains s := by
    unfold Table.contains
    rw [hfresh]
    simp
  refine ⟨hsession, fun k r hr _ heq => habsent ?_, fun a ra hra _ heq => habsent ?_,
    fun g hg => habsent ?_⟩
  · rw [hrefresh] at hr
    exact heq ▸ hdb.refreshSession k r hr
  · rw [haccess] at hra
    exact heq ▸ hdb.accessSession a ra hra
  · obtain ⟨r, fulfilledAt, hr, hstage⟩ := hg
    rw [hgrants] at hr
    exact hdb.grantSession g s ⟨r, fulfilledAt, hr, hstage⟩

theorem weaker_insertSession (hdb : Lineage db) {row : OAuth2SessionRow}
    (hrefresh : db'.oauth2RefreshTokens = db.oauth2RefreshTokens)
    (haccess : db'.oauth2AccessTokens = db.oauth2AccessTokens)
    (hgrants : db'.oauth2AuthorizationGrants = db.oauth2AuthorizationGrants)
    (hsessions : db'.oauth2Sessions = db.oauth2Sessions.insert s row) : Weaker db db' where
  refresh k r' hr' := by
    rw [hrefresh] at hr'
    exact ⟨r', hr', .refl r', fun _ ha _ => ha⟩
  pointed _ _ n rn _ _ hrn hrevoked := by
    rw [hrefresh]
    exact ⟨rn, hrn, hrevoked⟩
  access a ra' hra' := by
    rw [haccess] at hra'
    exact ⟨ra', hra', rfl, fun hrevoked => hrevoked⟩
  accessThere k r' a hr' ha := by
    rw [hrefresh] at hr'
    rw [haccess]
    exact hdb.accessThere k r' a hr' ha
  refreshSession k r' hr' := by
    rw [hrefresh] at hr'
    rw [hsessions]
    exact contains_insert_of_contains (hdb.refreshSession k r' hr')
  accessSession a ra' hra' := by
    rw [haccess] at hra'
    rw [hsessions]
    exact contains_insert_of_contains (hdb.accessSession a ra' hra')
  grants g s' := by
    rintro ⟨r, fulfilledAt, hr, hstage⟩
    rw [hgrants] at hr
    have hawaits : Awaits db g s' := ⟨r, fulfilledAt, hr, hstage⟩
    rw [hsessions]
    exact ⟨hawaits, contains_insert_of_contains (hdb.grantSession g s' hawaits)⟩

theorem lineage_opened {res : AccessTokenResponse} {db₁ : Database} {row : OAuth2SessionRow}
    {refreshed : Bool} (hdb : Lineage db)
    (h : SessionOpened env db res db' db₁ row refreshed) : Lineage db' := by
  obtain ⟨haccess, hrefresh, hgrants, -, -, hsessions⟩ := h.before
  have hdb₁ : Lineage db₁ := hdb.weaken (weaker_insertSession hdb hrefresh haccess hgrants hsessions)
  have hsession : db₁.oauth2Sessions.contains env.sessionId := by
    rw [hsessions]
    exact contains_iff_exists.mpr ⟨row, (get?_insert ..).trans (if_pos rfl)⟩
  have hbare : Bare db₁ env.sessionId := bare_of_fresh hdb h.opened hrefresh haccess hgrants hsession
  rw [h.after]
  split_ifs with hpair
  · exact hdb₁.issuePair hbare (h.freshRefresh hpair).id
  · exact hdb₁.issueAccess hbare

end Issue

section Grants

variable {db db' : Database}
variable {grant : AuthorizationGrant}

theorem lineage_consented {g s : Ulid} {now : Time} (hdb : Lineage db)
    (h : Consent.Fulfilled db db' g s now) : Lineage db' := by
  obtain ⟨row, -, rfl⟩ := h.after
  have hbare : Bare (db.insertSession s row) s := by
    refine bare_of_fresh hdb h.fresh rfl rfl rfl ?_
    exact contains_iff_exists.mpr ⟨row, (get?_insert ..).trans (if_pos rfl)⟩
  have hnew : ∀ g' s', Awaits ((db.insertSession s row).updateGrant g (fun r => { r with
      fulfilledAt := some now
      oauth2SessionId := some s })) g' s' → g' = g ∧ s' = s ∨ Awaits db g' s' := by
    rintro g' s' ⟨r', fulfilledAt, hr', hstage⟩
    obtain ⟨r, hr, rfl⟩ := of_get?_update hr'
    by_cases hg : g' = g
    · rw [if_pos hg] at hstage
      have hid := (AuthorizationGrantRow.stage?_fulfilled.mp hstage).2.2.2
      exact .inl ⟨hg, (Option.some.inj hid).symm⟩
    · rw [if_neg hg] at hstage
      exact .inr ⟨r, fulfilledAt, hr, hstage⟩
  have hsessions : ∀ s', db.oauth2Sessions.contains s' →
      (db.oauth2Sessions.insert s row).contains s' := fun s' => contains_insert_of_contains
  have hapart : ∀ g', ¬Awaits db g' s := fun g' hg' => hbare.grant g' hg'
  refine ⟨hdb.decodes, hdb.pointed, hdb.injective, hdb.stops, hdb.oneValid, hdb.ownAccess,
    hdb.oneAccess, hdb.accessThere, fun k r hr => hsessions _ (hdb.refreshSession k r hr),
    fun a ra hra => hsessions _ (hdb.accessSession a ra hra), fun g' s' hg' => ?_,
    fun g' s' k r hg' hr => ?_, fun g' s' a ra hg' hra => ?_, fun g₁ g₂ s' hg₁ hg₂ => ?_⟩
  · rcases hnew g' s' hg' with ⟨-, rfl⟩ | hold
    · exact hbare.session
    · exact hsessions _ (hdb.grantSession g' s' hold)
  · rcases hnew g' s' hg' with ⟨-, rfl⟩ | hold
    · rintro rfl
      exact absurd (hdb.refreshSession k r hr) (by simp [Table.contains, h.fresh])
    · exact hdb.grantRefresh g' s' k r hold hr
  · rcases hnew g' s' hg' with ⟨-, rfl⟩ | hold
    · rintro rfl
      exact absurd (hdb.accessSession a ra hra) (by simp [Table.contains, h.fresh])
    · exact hdb.grantAccess g' s' a ra hold hra
  · rcases hnew g₁ s' hg₁ with ⟨rfl, rfl⟩ | hold₁ <;> rcases hnew g₂ s' hg₂ with ⟨rfl, hs⟩ | hold₂
    · rfl
    · exact absurd hold₂ (hapart g₂)
    · exact absurd (hs ▸ hold₁) (hapart g₁)
    · exact hdb.grantsApart g₁ g₂ s' hold₁ hold₂

theorem awaits_of_grantOf? {code : String} {s : Ulid}
    {fulfilledAt : Time} (h : db.grantOf? code = some grant)
    (hstage : grant.stage = .fulfilled s fulfilledAt) : Awaits db grant.id s := by
  obtain ⟨⟨g, r⟩, hfind, hdecode⟩ := Option.bind_eq_some_iff.mp h
  obtain ⟨rfl, hrow⟩ := r.toAuthorizationGrant_ok (toOption_eq_some.mp hdecode)
  exact ⟨r, fulfilledAt, (find?_some hfind).1, hrow.trans (congrArg some hstage)⟩

theorem weaker_exchangeGrant (hdb : Lineage db) (g : Ulid) (now : Time) :
    Weaker db (db.updateGrant g (fun r => { r with exchangedAt := some now })) ∧
      ∀ s, ¬Awaits (db.updateGrant g (fun r => { r with exchangedAt := some now })) g s := by
  have hawaits : ∀ g' s, Awaits (db.updateGrant g (fun r => { r with exchangedAt := some now })) g' s →
      g' ≠ g ∧ Awaits db g' s := by
    rintro g' s ⟨r', fulfilledAt, hr', hstage⟩
    obtain ⟨r, hr, rfl⟩ := of_get?_update hr'
    by_cases hg : g' = g
    · rw [if_pos hg] at hstage
      have hnone := (AuthorizationGrantRow.stage?_fulfilled.mp hstage).2.1
      cases hnone
    · rw [if_neg hg] at hstage
      exact ⟨hg, r, fulfilledAt, hr, hstage⟩
  refine ⟨⟨fun k r' hr' => ⟨r', hr', .refl r', fun _ ha _ => ha⟩,
    fun _ _ n rn _ _ hrn hrevoked => ⟨rn, hrn, hrevoked⟩, fun a ra' hra' => ⟨ra', hra', rfl, id⟩,
    hdb.accessThere, hdb.refreshSession, hdb.accessSession, fun g' s hg' => ?_⟩,
    fun s hg => (hawaits g s hg).1 rfl⟩
  have hold := (hawaits g' s hg').2
  exact ⟨hold, hdb.grantSession g' s hold⟩

theorem lineage_exchanged {env : TokenEnv} {res : AccessTokenResponse}
    {session : Session} (hdb : Lineage db) (h : CodeExchanged env db res db' grant session) :
    Lineage db' := by
  obtain ⟨code, hgrant⟩ := h.granted
  obtain ⟨fulfilledAt, hstage⟩ := h.fulfilled
  let db₀ := touch session.id env.userAgent db
  let db₁ := db₀.updateGrant grant.id (fun r => { r with exchangedAt := some env.now })
  have hdb₀ : Lineage db₀ := hdb.weaken (weaker_quiet hdb quiet_touch)
  obtain ⟨hweaker, hdone⟩ := weaker_exchangeGrant hdb₀ grant.id env.now
  have hdb₁ : Lineage db₁ := hdb₀.weaken hweaker
  have hgrants : db₀.oauth2AuthorizationGrants = db.oauth2AuthorizationGrants := by
    unfold db₀ touch
    cases env.userAgent <;> rfl
  have hawaits : Awaits db₀ grant.id session.id := by
    obtain ⟨r, at_, hr, hfulfilled⟩ := awaits_of_grantOf? hgrant hstage
    exact ⟨r, at_, hgrants ▸ hr, hfulfilled⟩
  have hbare : Bare db₁ session.id := by
    refine ⟨hdb₀.grantSession _ _ hawaits, fun k r hr _ => hdb₀.grantRefresh _ _ k r hawaits hr,
      fun a ra hra _ => hdb₀.grantAccess _ _ a ra hawaits hra, fun g hg => ?_⟩
    obtain rfl := hdb₀.grantsApart _ _ _ (hweaker.grants g session.id hg).1 hawaits
    exact hdone session.id hg
  have hafter : db' = issueRefresh env session.id (issueAccess env session.id db₁) := h.after
  rw [hafter]
  exact hdb₁.issuePair hbare h.freshRefresh.id

end Grants

section Refresh

variable {db db' : Database} {env : TokenEnv}
variable {r : OAuth2RefreshTokenRow} {now : Time} {id : Option Ulid} {db₁ : Database}
  {old : RefreshToken}

/-- An update of a refresh token; one that revokes it must leave no pointer to it. -/
theorem weaker_updateRefreshToken (hdb : Lineage db) {k : Ulid}
    {f : OAuth2RefreshTokenRow → OAuth2RefreshTokenRow}
    (hrow : ∀ r, db.oauth2RefreshTokens.get? k = some r → RowWeaker r (f r))
    (haccess : ∀ r, (f r).oauth2AccessTokenId = r.oauth2AccessTokenId)
    (hpointed : (∀ r, r.revokedAt = none → (f r).revokedAt = none) ∨
      ∀ k' r', db.oauth2RefreshTokens.get? k' = some r' → r'.nextOAuth2RefreshTokenId ≠ some k) :
    Weaker db (db.updateRefreshToken k f) := by
  have hrows : ∀ k' r', (db.oauth2RefreshTokens.update k f).get? k' = some r' →
      ∃ r, db.oauth2RefreshTokens.get? k' = some r ∧ RowWeaker r r' ∧
        r'.oauth2AccessTokenId = r.oauth2AccessTokenId := by
    intro k' r' hr'
    obtain ⟨r, hr, rfl⟩ := of_get?_update hr'
    by_cases hk : k' = k
    · subst hk
      rw [if_pos rfl]
      exact ⟨r, hr, hrow r hr, haccess r⟩
    · rw [if_neg hk]
      exact ⟨r, hr, .refl r, rfl⟩
  refine ⟨fun k' r' hr' => ?_, fun k' r' n rn hr' hn hrn hrevoked => ?_,
    fun a ra' hra' => ⟨ra', hra', rfl, id⟩, fun k' r' a hr' ha => ?_, fun k' r' hr' => ?_,
    hdb.accessSession, fun g s hg => ⟨hg, hdb.grantSession g s hg⟩⟩
  · obtain ⟨r, hr, hweaker, hsame⟩ := hrows k' r' hr'
    exact ⟨r, hr, hweaker, fun a ha _ => hsame.trans ha⟩
  · by_cases hk : n = k
    · subst hk
      rcases hpointed with hkeeps | hfree
      · exact ⟨f rn, (get?_update ..).trans ((if_pos rfl).trans (congrArg _ hrn)),
          hkeeps rn hrevoked⟩
      · obtain ⟨r, hr, hweaker, -⟩ := hrows k' r' hr'
        rcases hweaker.next with hsame | hnone
        · exact absurd (hsame ▸ hn) (hfree k' r hr)
        · exact absurd (hn.symm.trans hnone) (by simp)
    · exact ⟨rn, (get?_update ..).trans ((if_neg hk).trans hrn), hrevoked⟩
  · obtain ⟨r, hr, -, hsame⟩ := hrows k' r' hr'
    exact hdb.accessThere k' r a hr (hsame ▸ ha)
  · obtain ⟨r, hr, hweaker, -⟩ := hrows k' r' hr'
    rw [hweaker.session]
    exact hdb.refreshSession k' r hr

theorem weaker_revokeAccess (hdb : Lineage db) (now : Time) (id : Option Ulid) :
    Weaker db (revokeAccess now id db) := by
  cases id with
  | none => exact weaker_quiet hdb (.refl db)
  | some id =>
    refine weaker_updateAccessToken hdb (fun _ => rfl) fun ra hnone => ?_
    dsimp only at hnone
    cases hrevoked : ra.revokedAt with
    | none => rfl
    | some at_ => simp [hrevoked] at hnone

/-- Marks a token as consumed before its successor is known. -/
def retire (now : Time) (r : OAuth2RefreshTokenRow) : OAuth2RefreshTokenRow := { r with
    consumedAt := some now
    nextOAuth2RefreshTokenId := none }

theorem weaker_retire (hdb : Lineage db) (now : Time) {k : Ulid}
    (hr : db.oauth2RefreshTokens.get? k = some r) (hrevoked : r.revokedAt = none) :
    Weaker db (db.updateRefreshToken k (retire now)) := by
  refine weaker_updateRefreshToken hdb (fun r' hr' => ?_) (fun _ => rfl) (.inl fun _ h => h)
  cases hr.symm.trans hr'
  have hunconsumed : (retire now r).consumedAt = none → r.consumedAt = none := by
    intro hnone
    cases hnone
  exact ⟨rfl, fun h => h, hunconsumed, fun _ => ⟨fun _ => hrevoked, fun _ => rfl⟩, .inr rfl⟩

theorem revokeAccess_unrevoked {a : Ulid}
    {ra : OAuth2AccessTokenRow} (hra : (revokeAccess now id db).oauth2AccessTokens.get? a = some ra)
    (hrevoked : ra.revokedAt = none) : db.oauth2AccessTokens.get? a = some ra ∧ id ≠ some a := by
  cases id with
  | none => exact ⟨hra, by simp⟩
  | some id =>
    obtain ⟨ra₀, hra₀, rfl⟩ := of_get?_update hra
    by_cases ha : a = id
    · simp only [if_pos ha] at hrevoked
      cases hold : ra₀.revokedAt <;> simp [hold] at hrevoked
    · rw [if_neg ha]
      exact ⟨hra₀, fun heq => ha (Option.some.inj heq).symm⟩

theorem refreshTokens_revokeAccess :
    (revokeAccess now id db).oauth2RefreshTokens = db.oauth2RefreshTokens := by
  cases id <;> rfl

theorem awaits_revokeAccess {g s : Ulid}
    (h : Awaits (revokeAccess now id db) g s) : Awaits db g s := by
  cases id <;> exact h

/-- The state between the end of the old tokens and the issue of the new ones. -/
structure Retired (now : Time) (old : RefreshToken) (r : OAuth2RefreshTokenRow) (db : Database) :
    Prop where
  lineage : Lineage db
  row : db.oauth2RefreshTokens.get? old.id = some (retire now r)
  bare : Bare db old.sessionId

section Retire

variable {now : Time} {old : RefreshToken} {r : OAuth2RefreshTokenRow} (hdb : Lineage db)
  (hr : db.oauth2RefreshTokens.get? old.id = some r) (hstate : r.state? = some old.state)
  (hsession : old.sessionId = r.oauth2SessionId) (haccess : old.accessTokenId = r.oauth2AccessTokenId)
include hdb hr hstate hsession haccess

theorem retired_of_valid (hvalid : old.isValid) : Retired now old r
      (revokeAccess now old.accessTokenId (db.updateRefreshToken old.id (retire now))) := by
  rw [state_of_isValid hvalid] at hstate
  have hlineage := hdb.weaken (weaker_retire hdb now hr (state?_valid.mp hstate).1)
  refine ⟨hlineage.weaken (weaker_revokeAccess hlineage _ _), ?_, ?_, ?_, ?_, ?_⟩
  · rw [refreshTokens_revokeAccess]
    exact (get?_update ..).trans ((if_pos rfl).trans (congrArg _ hr))
  · rw [sessions_revokeAccess.1, hsession]
    exact hdb.refreshSession old.id r hr
  · intro k r' hr' hv heq
    rw [refreshTokens_revokeAccess] at hr'
    obtain ⟨r₀, hr₀, rfl⟩ := of_get?_update hr'
    by_cases hk : k = old.id
    · rw [if_pos hk] at hv
      have hnone := (state?_valid.mp hv).2.1
      cases hnone
    · rw [if_neg hk] at hv heq
      exact hk (hdb.oneValid k old.id r₀ r hr₀ hr hv hstate (heq.trans hsession))
  · intro a ra hra hrevoked heq
    obtain ⟨hra₀, hother⟩ := revokeAccess_unrevoked hra hrevoked
    have hown := hdb.ownAccess old.id r a ra hr hstate hra₀ hrevoked (heq.trans hsession)
    exact hother (haccess.trans hown)
  · intro g hg
    have hawaits := awaits_revokeAccess hg
    exact hdb.grantRefresh g _ old.id r hawaits hr hsession.symm

omit haccess in
theorem retired_of_successor {next : RefreshToken} {accessToken : AccessToken}
    (h : Successor db old next accessToken) :
    Retired now old r (revokeAccess now old.accessTokenId
      (((db.updateAccessToken accessToken.id (fun r => { r with revokedAt := some now
        })).updateRefreshToken next.id (fun r => { r with revokedAt := some now
        })).updateRefreshToken old.id (retire now))) := by
  obtain ⟨rn, hrn, -, hnstate, -, hnaccess⟩ := row_of_refreshToken? h.loaded
  rw [state_of_isValid h.valid] at hnstate
  obtain ⟨hnrevoked, hnconsumed, -⟩ := state?_valid.mp hnstate
  have hold : r.revokedAt = none ∧ r.consumedAt.isSome ∧
      r.nextOAuth2RefreshTokenId = some next.id := by
    have hpointed := h.pointed
    cases hcases : old.state with
    | valid => simp [hcases, RefreshTokenState.nextRefreshTokenId] at hpointed
    | revoked at_ => simp [hcases, RefreshTokenState.nextRefreshTokenId] at hpointed
    | consumed consumedAt n =>
      rw [hcases] at hstate hpointed
      obtain ⟨hrevoked, hconsumed, hnext⟩ := state?_consumed.mp hstate
      exact ⟨hrevoked, by simp [hconsumed], hnext.trans hpointed⟩
  obtain ⟨hrevoked, hconsumed, hnext⟩ := hold
  obtain ⟨rn', hrn', hnsession, -⟩ := hdb.pointed old.id r next.id hr hnext
  cases hrn.symm.trans hrn'
  have hne : next.id ≠ old.id := by
    intro heq
    rw [heq] at hrn
    cases hr.symm.trans hrn
    rw [hnconsumed] at hconsumed
    cases hconsumed
  -- the old token lets go of its successor before that one is revoked
  let revoke : OAuth2RefreshTokenRow → OAuth2RefreshTokenRow :=
    fun r => { r with revokedAt := some now }
  let db₁ := db.updateRefreshToken old.id (retire now)
  let db₂ := db₁.updateRefreshToken next.id revoke
  have hdb₁ : Lineage db₁ := hdb.weaken (weaker_retire hdb now hr hrevoked)
  have hrn₁ : db₁.oauth2RefreshTokens.get? next.id = some rn :=
    (get?_update ..).trans ((if_neg hne).trans hrn)
  have hdb₂ : Lineage db₂ := by
    refine hdb₁.weaken (weaker_updateRefreshToken hdb₁ (fun r' hr' => ?_) (fun _ => rfl) (.inr ?_))
    · cases hrn₁.symm.trans hr'
      refine ⟨rfl, fun _ => hnrevoked, fun _ => hnconsumed, fun _ => ⟨fun hc => ?_, fun _ => ?_⟩,
        .inl rfl⟩
      · rw [show (revoke rn).consumedAt = none from hnconsumed] at hc
        cases hc
      · exact (state?_valid.mp hnstate).2.2
    · intro k' r' hr' hn'
      obtain ⟨r₀, hr₀, rfl⟩ := of_get?_update hr'
      by_cases hk : k' = old.id
      · rw [if_pos hk] at hn'
        cases hn'
      · rw [if_neg hk] at hn'
        exact hk (hdb.injective k' old.id r₀ r next.id hr₀ hr hn' hnext)
  have hcomm : (((db.updateAccessToken accessToken.id (fun r => { r with revokedAt := some now
      })).updateRefreshToken next.id revoke).updateRefreshToken old.id (retire now)) =
      db₂.updateAccessToken accessToken.id (fun r => { r with revokedAt := some now }) := by
    simp only [db₂, db₁, Database.updateRefreshToken, Database.updateAccessToken,
      update_comm db.oauth2RefreshTokens revoke (retire now) hne]
  have hdb₃ : Lineage (db₂.updateAccessToken accessToken.id (fun r => { r with
      revokedAt := some now })) :=
    hdb₂.weaken (weaker_updateAccessToken hdb₂ (fun _ => rfl) fun _ hnone => by cases hnone)
  rw [hcomm]
  refine ⟨hdb₃.weaken (weaker_revokeAccess hdb₃ _ _), ?_, ?_, ?_, ?_, ?_⟩
  · rw [refreshTokens_revokeAccess]
    refine (get?_update ..).trans ((if_neg hne.symm).trans ?_)
    exact (get?_update ..).trans ((if_pos rfl).trans (congrArg _ hr))
  · rw [sessions_revokeAccess.1, hsession]
    exact hdb.refreshSession old.id r hr
  · intro k r' hr' hv heq
    rw [refreshTokens_revokeAccess] at hr'
    obtain ⟨r₁, hr₁, rfl⟩ := of_get?_update hr'
    obtain ⟨r₀, hr₀, rfl⟩ := of_get?_update hr₁
    by_cases hk : k = next.id
    · rw [if_pos hk] at hv
      have hnone := (state?_valid.mp hv).1
      cases hnone
    by_cases hk' : k = old.id
    · rw [if_neg hk, if_pos hk'] at hv
      have hnone := (state?_valid.mp hv).2.1
      cases hnone
    · rw [if_neg hk, if_neg hk'] at hv heq
      exact hk (hdb.oneValid k next.id r₀ rn hr₀ hrn hv hnstate
        (heq.trans (hsession.trans hnsession.symm)))
  · intro a ra hra hunrevoked heq
    obtain ⟨hra₁, -⟩ := revokeAccess_unrevoked hra hunrevoked
    obtain ⟨ra₀, hra₀, rfl⟩ := of_get?_update hra₁
    by_cases ha : a = accessToken.id
    · rw [if_pos ha] at hunrevoked
      cases hunrevoked
    · rw [if_neg ha] at hunrevoked heq
      have hown := hdb.ownAccess next.id rn a ra₀ hrn hnstate hra₀ hunrevoked
        (heq.trans (hsession.trans hnsession.symm))
      rw [← hnaccess, h.access] at hown
      exact ha (Option.some.inj hown).symm
  · intro g hg
    have hawaits := awaits_revokeAccess hg
    exact hdb.grantRefresh g _ old.id r hawaits hr hsession.symm

end Retire

theorem retired_of_successorGone (hdb : Lineage db)
    (hr : db.oauth2RefreshTokens.get? old.id = some r) (hstate : r.state? = some old.state)
    (hsession : old.sessionId = r.oauth2SessionId)
    (haccess : old.accessTokenId = r.oauth2AccessTokenId) (h : SuccessorGone now old db db₁) :
    Retired now old r
      (revokeAccess now old.accessTokenId (db₁.updateRefreshToken old.id (retire now))) := by
  cases h with
  | none hvalid => exact retired_of_valid hdb hr hstate hsession haccess hvalid
  | revoked hsuccessor => exact retired_of_successor hdb hr hstate hsession hsuccessor

/-- A refresh ends the old tokens, issues new ones, and points to the new refresh token. -/
theorem refreshed_eq {s : Ulid}
    (hne : env.refreshTokenId ≠ old.id) (haccess : old.accessTokenId ≠ some env.accessTokenId) :
    revokeAccess env.now old.accessTokenId
      ((issueRefresh env s (issueAccess env s db₁)).updateRefreshToken old.id (fun r => { r with
        consumedAt := some env.now
        nextOAuth2RefreshTokenId := some env.refreshTokenId })) =
    (issueRefresh env s (issueAccess env s (revokeAccess env.now old.accessTokenId
      (db₁.updateRefreshToken old.id (retire env.now))))).updateRefreshToken old.id (fun r => { r with
        nextOAuth2RefreshTokenId := some env.refreshTokenId }) := by
  unfold revokeAccess issueRefresh issueAccess
  cases hid : old.accessTokenId with
  | none =>
    simp only [Database.updateRefreshToken, Database.insertRefreshToken, Database.insertAccessToken,
      update_insert_of_ne _ _ _ hne, update_update, retire]
  | some id =>
    have hne' : env.accessTokenId ≠ id := by
      rintro rfl
      exact haccess hid
    simp only [Database.updateRefreshToken, Database.insertRefreshToken, Database.insertAccessToken,
      Database.updateAccessToken, update_insert_of_ne _ _ _ hne,
      update_insert_of_ne _ _ _ hne', update_update, retire]

theorem lineage_refreshed {res : AccessTokenResponse} {session : Session} (hdb : Lineage db) (h : Refreshed env db res db' old session db₁) :
    Lineage db' := by
  obtain ⟨token, hpresented⟩ := h.presented
  obtain ⟨r, hr, -, hstate, hsession, haccess⟩ := row_of_refreshTokenOf? hpresented
  have hsid : session.id = old.sessionId := (Database.session?_eq_some h.loaded).1
  let db₀ := touch session.id env.userAgent db
  have hquiet : Quiet db db₀ := quiet_touch
  have hdb₀ : Lineage db₀ := hdb.weaken (weaker_quiet hdb hquiet)
  have hr₀ : db₀.oauth2RefreshTokens.get? old.id = some r := by
    rw [hquiet.refreshTokens]
    exact hr
  have hretired := retired_of_successorGone hdb₀ hr₀ hstate hsession haccess h.successor
  let db₂ := revokeAccess env.now old.accessTokenId (db₁.updateRefreshToken old.id (retire env.now))
  have hfresh : db₂.oauth2RefreshTokens.get? env.refreshTokenId = none := by
    unfold db₂
    rw [refreshTokens_revokeAccess]
    refine (get?_update ..).trans ?_
    rw [h.freshRefresh.id]
    split_ifs <;> rfl
  have hne : env.refreshTokenId ≠ old.id := by
    intro heq
    rw [heq, hretired.row] at hfresh
    cases hfresh
  have hother : old.accessTokenId ≠ some env.accessTokenId := by
    intro heq
    have hthere := hretired.lineage.accessThere old.id _ env.accessTokenId hretired.row
      (haccess.symm.trans heq)
    have habsent : ¬db₂.oauth2AccessTokens.contains env.accessTokenId := by
      unfold db₂
      rw [heq]
      simp only [revokeAccess, Database.updateAccessToken, contains_update]
      simp [Table.contains, Database.updateRefreshToken, h.freshAccess.id]
    exact habsent hthere
  have hpair : Lineage (issueRefresh env session.id (issueAccess env session.id db₂)) := by
    rw [hsid]
    exact hretired.lineage.issuePair hretired.bare hfresh
  rw [h.after, refreshed_eq hne hother]
  have hold : (issueRefresh env session.id (issueAccess env session.id db₂)).oauth2RefreshTokens.get?
      old.id = some (retire env.now r) :=
    (get?_insert ..).trans ((if_neg hne.symm).trans hretired.row)
  have hnew : (issueRefresh env session.id (issueAccess env session.id db₂)).oauth2RefreshTokens.get?
      env.refreshTokenId = some (refreshRow env session.id) :=
    (get?_insert ..).trans (if_pos rfl)
  refine hpair.point hold rfl hnew rfl rfl (hsid.trans hsession) (fun k' r' hr' hn' => ?_) hne
  rcases of_get?_insert hr' with ⟨-, rfl⟩ | ⟨-, hbefore⟩
  · cases hn'
  · obtain ⟨rn, hrn, -⟩ := hretired.lineage.pointed k' r' _ hbefore hn'
    rw [hfresh] at hrn
    cases hrn

end Refresh

/-- Every change keeps the lines: one step. -/
theorem lineage_change {op : Op} {db' : Database} (hdb : Lineage db) (h : Change op db db') :
    Lineage db' := by
  cases h with
  | quiet hquiet => exact hdb.weaken (weaker_quiet hdb hquiet)
  | used now t => exact hdb.weaken (weaker_markedUsed hdb)
  | consented hid hfulfilled => exact lineage_consented hdb hfulfilled
  | exchanged henv hexchanged => exact lineage_exchanged hdb hexchanged
  | refreshed henv hold hrefreshed => exact lineage_refreshed hdb hrefreshed
  | opened henv hid hopened => exact lineage_opened hdb hopened
  | accessDeleted ids => exact hdb.weaken (weaker_deleteAccessTokens hdb)
  | refreshDeleted ids hids => exact hdb.weaken (weaker_deleteRefreshTokens hdb)
  | sessionsDeleted ids hgrants => exact lineage_deleteSessions hdb hgrants

theorem lineage_run {ops : List Op} (hdb : Lineage db) : Lineage (Sequential.run step db ops) := by
  induction ops generalizing db with
  | nil => exact hdb
  | cons op rest ih => exact ih (lineage_change hdb (step_change db op))

/-- Before any token is issued, the grants that wait to be exchanged have sessions of their own. -/
structure NoTokens (db : Database) : Prop where
  access : db.oauth2AccessTokens = .empty
  refresh : db.oauth2RefreshTokens = .empty
  grantSession : ∀ g s, Awaits db g s → db.oauth2Sessions.contains s
  grantsApart : ∀ g g' s, Awaits db g s → Awaits db g' s → g = g'

theorem NoTokens.lineage (h : NoTokens db) : Lineage db := by
  have hrefresh : ∀ k r, db.oauth2RefreshTokens.get? k ≠ some r := by
    intro k r hr
    rw [h.refresh] at hr
    cases hr
  have haccess : ∀ a ra, db.oauth2AccessTokens.get? a ≠ some ra := by
    intro a ra hra
    rw [h.access] at hra
    cases hra
  have hstops : Chain.Stops (successor db) := by
    refine Chain.stops_of_isEmpty fun k => ?_
    unfold successor
    rw [h.refresh]
    rfl
  exact ⟨fun k r hr => absurd hr (hrefresh k r), fun k r _ hr => absurd hr (hrefresh k r),
    fun k _ r _ _ hr => absurd hr (hrefresh k r), hstops,
    fun k _ r _ hr => absurd hr (hrefresh k r), fun k r _ _ hr => absurd hr (hrefresh k r),
    fun a _ ra _ hra => absurd hra (haccess a ra), fun k r _ hr => absurd hr (hrefresh k r),
    fun k r hr => absurd hr (hrefresh k r), fun a ra hra => absurd hra (haccess a ra), h.grantSession,
    fun _ _ k r _ hr => absurd hr (hrefresh k r), fun _ _ a ra _ hra => absurd hra (haccess a ra),
    h.grantsApart⟩

/-- The chain of a consumed token comes to a token whose pointer was cleared. -/
def Cut (db : Database) (k : Ulid) : Prop :=
  ∃ e r, e ∈ StateTransition.eval (successor db) k ∧ db.oauth2RefreshTokens.get? e = some r ∧
    ∃ consumedAt, r.state? = some (.consumed consumedAt none)

/-- At most one valid refresh token and one live access token, at the end of every chain not cut. -/
structure OneLine (db : Database) : Prop where
  refresh : ∀ k k' r r', db.oauth2RefreshTokens.get? k = some r →
    db.oauth2RefreshTokens.get? k' = some r' → r.state? = some .valid → r'.state? = some .valid →
    r.oauth2SessionId = r'.oauth2SessionId → k = k'
  access : ∀ a a' ra ra', db.oauth2AccessTokens.get? a = some ra →
    db.oauth2AccessTokens.get? a' = some ra' → ra.revokedAt = none → ra'.revokedAt = none →
    ra.oauth2SessionId = ra'.oauth2SessionId → a = a'
  chain : ∀ k r consumedAt next, db.oauth2RefreshTokens.get? k = some r →
    r.state? = some (.consumed consumedAt next) → ¬Cut db k →
    ∃ v rv, v ∈ StateTransition.eval (successor db) k ∧
      db.oauth2RefreshTokens.get? v = some rv ∧ rv.state? = some .valid ∧
      rv.oauth2SessionId = r.oauth2SessionId

theorem Lineage.oneLine (h : Lineage db) : OneLine db := by
  refine ⟨h.oneValid, h.oneAccess, fun k r consumedAt next hr hconsumed hcut => ?_⟩
  obtain ⟨e, he⟩ := h.stops k
  -- along the pointers the session stays the same and no token is revoked
  have hend : ∃ re, db.oauth2RefreshTokens.get? e = some re ∧ re.revokedAt = none ∧
      re.oauth2SessionId = r.oauth2SessionId := by
    refine Chain.invariant_of_mem_eval (P := fun k => ∃ rk, db.oauth2RefreshTokens.get? k = some rk ∧
      rk.revokedAt = none ∧ rk.oauth2SessionId = r.oauth2SessionId) ?_ he
      ⟨r, hr, (state?_consumed.mp hconsumed).1, rfl⟩
    rintro a b ⟨ra, hra, -, hsession⟩ hb
    unfold successor at hb
    rw [hra] at hb
    obtain ⟨rb, hrb, hsession', hrevoked⟩ := h.pointed a ra b hra hb
    exact ⟨rb, hrb, hrevoked, hsession'.trans hsession⟩
  obtain ⟨re, hre, hrevoked, hsession⟩ := hend
  have hlast : re.nextOAuth2RefreshTokenId = none := by
    have hstop := (StateTransition.mem_eval.mp he).2
    unfold successor at hstop
    rw [hre] at hstop
    exact hstop
  cases hc : re.consumedAt with
  | none => exact ⟨e, re, he, hre, state?_valid.mpr ⟨hrevoked, hc, hlast⟩, hsession⟩
  | some at_ => exact absurd ⟨e, re, he, hre, at_, state?_consumed.mpr ⟨hrevoked, hc, hlast⟩⟩ hcut

/-- From a store without tokens, every run keeps the tokens of every session in one line. -/
theorem oneLine_of_run {db : Database} (h : NoTokens db) (ops : List Op) :
    OneLine (Sequential.run step db ops) :=
  (lineage_run h.lineage).oneLine

def rotation : List Op :=
  let client : Client := ⟨3, Ulid.toString 3, [.authorizationCode, .refreshToken], none⟩
  let token := TokenType.generate .refreshToken [1]
  [.exchangeCode CodeExchange.agreeable ⟨1, 300, [1], [1], 10, 11, 12, none⟩
      ⟨"code", some "https://client/", none⟩ client,
    .refresh ⟨2, 300, [2], [2], 20, 21, 22, none⟩ token client,
    .refresh ⟨3, 300, [3], [3], 30, 31, 32, none⟩ token client]

theorem noTokens_fulfilledGrant : NoTokens CodeExchange.fulfilledGrant := by
  have hgrant : ∀ g s, Awaits CodeExchange.fulfilledGrant g s → g = 5 ∧ s = 4 := by
    rintro g s ⟨r, fulfilledAt, hr, hstage⟩
    rcases of_get?_insert hr with ⟨rfl, rfl⟩ | ⟨-, hempty⟩
    · have hsession := (AuthorizationGrantRow.stage?_fulfilled.mp hstage).2.2.2
      exact ⟨rfl, (Option.some.inj hsession).symm⟩
    · cases hempty
  refine ⟨rfl, rfl, fun g s hg => ?_, fun g g' s hg hg' => ?_⟩
  · rw [(hgrant g s hg).2]
    rfl
  · rw [(hgrant g s hg).1, (hgrant g' s hg').1]

theorem oneLine_after_rotation : NoTokens CodeExchange.fulfilledGrant ∧
    (Sequential.run step CodeExchange.fulfilledGrant rotation).oauth2RefreshTokens.keys =
      [11, 21, 31] ∧ OneLine (Sequential.run step CodeExchange.fulfilledGrant rotation) :=
  ⟨noTokens_fulfilledGrant, by decide +kernel, oneLine_of_run noTokens_fulfilledGrant rotation⟩

end Pasion.TokenRuns
