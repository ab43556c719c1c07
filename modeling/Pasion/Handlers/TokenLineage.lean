import Pasion.Handlers.TokenRuns
import Pasion.Relational.Chain

/-! The refresh tokens of a session form one line, and the live tokens stand at its end. -/
namespace Pasion.TokenRuns

open Relational TokenEffects Introspection Table

variable {r : OAuth2RefreshTokenRow}

def successor (db : Database) (k : Ulid) : Option Ulid :=
  (db.oauth2RefreshTokens.get? k).bind (·.nextOAuth2RefreshTokenId)

/-- A grant that was fulfilled with the session `s` and waits to be exchanged. -/
def Awaits (db : Database) (g s : Ulid) : Prop :=
  ∃ r fulfilledAt, db.oauth2AuthorizationGrants.get? g = some r ∧
    r.stage? = some (.fulfilled s fulfilledAt)

/-- The columns of a refresh token that decide its state fit together. -/
def Decodes (r : OAuth2RefreshTokenRow) : Prop := (r.consumedAt.isSome → r.revokedAt = none) ∧
    (r.consumedAt = none → r.nextOAuth2RefreshTokenId = none)

theorem state?_valid : r.state? = some .valid ↔ r.revokedAt = none ∧ r.consumedAt = none ∧
      r.nextOAuth2RefreshTokenId = none := by
  unfold OAuth2RefreshTokenRow.state?
  split <;> simp_all

theorem state?_ne_valid {n : Ulid} (h : r.nextOAuth2RefreshTokenId = some n) :
    r.state? ≠ some .valid := by
  intro hvalid
  cases h.symm.trans (state?_valid.mp hvalid).2.2

theorem state?_consumed {consumedAt : Time} {next : Option Ulid} :
    r.state? = some (.consumed consumedAt next) ↔ r.revokedAt = none ∧
      r.consumedAt = some consumedAt ∧ r.nextOAuth2RefreshTokenId = next := by
  unfold OAuth2RefreshTokenRow.state?
  cases r.revokedAt <;> cases r.consumedAt <;> cases r.nextOAuth2RefreshTokenId <;> simp

theorem Decodes.state?_valid_iff (h : Decodes r) :
    r.state? = some .valid ↔ r.revokedAt = none ∧ r.consumedAt = none := by
  rw [state?_valid]
  exact ⟨fun hvalid => ⟨hvalid.1, hvalid.2.1⟩, fun ⟨hr, hc⟩ => ⟨hr, hc, h.2 hc⟩⟩

/-- What holds of the tokens at all times. -/
structure Lineage (db : Database) : Prop where
  decodes : ∀ k r, db.oauth2RefreshTokens.get? k = some r → Decodes r
  pointed : ∀ k r n, db.oauth2RefreshTokens.get? k = some r →
    r.nextOAuth2RefreshTokenId = some n → ∃ rn, db.oauth2RefreshTokens.get? n = some rn ∧
      rn.oauth2SessionId = r.oauth2SessionId ∧ rn.revokedAt = none
  injective : ∀ k k' r r' n, db.oauth2RefreshTokens.get? k = some r →
    db.oauth2RefreshTokens.get? k' = some r' → r.nextOAuth2RefreshTokenId = some n →
    r'.nextOAuth2RefreshTokenId = some n → k = k'
  stops : Chain.Stops (successor db)
  oneValid : ∀ k k' r r', db.oauth2RefreshTokens.get? k = some r →
    db.oauth2RefreshTokens.get? k' = some r' → r.state? = some .valid → r'.state? = some .valid →
    r.oauth2SessionId = r'.oauth2SessionId → k = k'
  ownAccess : ∀ k r a ra, db.oauth2RefreshTokens.get? k = some r → r.state? = some .valid →
    db.oauth2AccessTokens.get? a = some ra → ra.revokedAt = none →
    ra.oauth2SessionId = r.oauth2SessionId → r.oauth2AccessTokenId = some a
  oneAccess : ∀ a a' ra ra', db.oauth2AccessTokens.get? a = some ra →
    db.oauth2AccessTokens.get? a' = some ra' → ra.revokedAt = none → ra'.revokedAt = none →
    ra.oauth2SessionId = ra'.oauth2SessionId → a = a'
  accessThere : ∀ k r a, db.oauth2RefreshTokens.get? k = some r → r.oauth2AccessTokenId = some a →
    db.oauth2AccessTokens.contains a
  refreshSession : ∀ k r, db.oauth2RefreshTokens.get? k = some r →
    db.oauth2Sessions.contains r.oauth2SessionId
  accessSession : ∀ a ra, db.oauth2AccessTokens.get? a = some ra →
    db.oauth2Sessions.contains ra.oauth2SessionId
  grantSession : ∀ g s, Awaits db g s → db.oauth2Sessions.contains s
  grantRefresh : ∀ g s k r, Awaits db g s → db.oauth2RefreshTokens.get? k = some r →
    r.oauth2SessionId ≠ s
  grantAccess : ∀ g s a ra, Awaits db g s → db.oauth2AccessTokens.get? a = some ra →
    ra.oauth2SessionId ≠ s
  grantsApart : ∀ g g' s, Awaits db g s → Awaits db g' s → g = g'

/-- A refresh token after its state has moved on or a reference of it was cleared. -/
structure RowWeaker (r r' : OAuth2RefreshTokenRow) : Prop where
  session : r'.oauth2SessionId = r.oauth2SessionId
  unrevoked : r'.revokedAt = none → r.revokedAt = none
  unconsumed : r'.consumedAt = none → r.consumedAt = none
  decodes : Decodes r → Decodes r'
  next : r'.nextOAuth2RefreshTokenId = r.nextOAuth2RefreshTokenId ∨
    r'.nextOAuth2RefreshTokenId = none

theorem RowWeaker.refl (r : OAuth2RefreshTokenRow) : RowWeaker r r := ⟨rfl, id, id, id, .inl rfl⟩

theorem RowWeaker.valid {r' : OAuth2RefreshTokenRow} (h : RowWeaker r r') (hr : Decodes r)
    (hvalid : r'.state? = some .valid) : r.state? = some .valid := by
  obtain ⟨hrevoked, hconsumed, -⟩ := state?_valid.mp hvalid
  exact hr.state?_valid_iff.mpr ⟨h.unrevoked hrevoked, h.unconsumed hconsumed⟩

theorem RowWeaker.next_some {r' : OAuth2RefreshTokenRow} {n : Ulid} (h : RowWeaker r r')
    (hn : r'.nextOAuth2RefreshTokenId = some n) : r.nextOAuth2RefreshTokenId = some n := by
  rcases h.next with hsame | hnone
  · exact hsame ▸ hn
  · exact absurd (hn.symm.trans hnone) (by simp)

/-- Tokens and grants at most disappear or move on, and no reference is left hanging. -/
structure Weaker (db db' : Database) : Prop where
  refresh : ∀ k r', db'.oauth2RefreshTokens.get? k = some r' →
    ∃ r, db.oauth2RefreshTokens.get? k = some r ∧ RowWeaker r r' ∧
      ∀ a, r.oauth2AccessTokenId = some a → db'.oauth2AccessTokens.contains a →
        r'.oauth2AccessTokenId = some a
  pointed : ∀ k r' n rn, db'.oauth2RefreshTokens.get? k = some r' →
    r'.nextOAuth2RefreshTokenId = some n → db.oauth2RefreshTokens.get? n = some rn →
    rn.revokedAt = none → ∃ rn', db'.oauth2RefreshTokens.get? n = some rn' ∧ rn'.revokedAt = none
  access : ∀ a ra', db'.oauth2AccessTokens.get? a = some ra' →
    ∃ ra, db.oauth2AccessTokens.get? a = some ra ∧ ra'.oauth2SessionId = ra.oauth2SessionId ∧
      (ra'.revokedAt = none → ra.revokedAt = none)
  accessThere : ∀ k r' a, db'.oauth2RefreshTokens.get? k = some r' →
    r'.oauth2AccessTokenId = some a → db'.oauth2AccessTokens.contains a
  refreshSession : ∀ k r', db'.oauth2RefreshTokens.get? k = some r' →
    db'.oauth2Sessions.contains r'.oauth2SessionId
  accessSession : ∀ a ra', db'.oauth2AccessTokens.get? a = some ra' →
    db'.oauth2Sessions.contains ra'.oauth2SessionId
  grants : ∀ g s, Awaits db' g s → Awaits db g s ∧ db'.oauth2Sessions.contains s

section Weaker

variable {db db' : Database}
variable {ids : List Ulid}

theorem Weaker.successor (h : Weaker db db') (k : Ulid) :
    successor db' k = successor db k ∨ successor db' k = none := by
  unfold TokenRuns.successor
  cases hr' : db'.oauth2RefreshTokens.get? k with
  | none => exact .inr rfl
  | some r' =>
    obtain ⟨r, hr, hrow, -⟩ := h.refresh k r' hr'
    rw [hr]
    exact hrow.next

theorem Lineage.weaken (hdb : Lineage db) (h : Weaker db db') : Lineage db' where
  decodes k r' hr' := by
    obtain ⟨r, hr, hrow, -⟩ := h.refresh k r' hr'
    exact hrow.decodes (hdb.decodes k r hr)
  pointed k r' n hr' hn := by
    obtain ⟨r, hr, hrow, -⟩ := h.refresh k r' hr'
    obtain ⟨rn, hrn, hsession, hrevoked⟩ := hdb.pointed k r n hr (hrow.next_some hn)
    obtain ⟨rn', hrn', hrevoked'⟩ := h.pointed k r' n rn hr' hn hrn hrevoked
    obtain ⟨rn₀, hrn₀, hrow', -⟩ := h.refresh n rn' hrn'
    cases hrn.symm.trans hrn₀
    exact ⟨rn', hrn', (hrow'.session.trans hsession).trans hrow.session.symm, hrevoked'⟩
  injective k k' r r' n hr hr' hn hn' := by
    obtain ⟨r₀, hr₀, hrow, -⟩ := h.refresh k r hr
    obtain ⟨r₀', hr₀', hrow', -⟩ := h.refresh k' r' hr'
    exact hdb.injective k k' r₀ r₀' n hr₀ hr₀' (hrow.next_some hn) (hrow'.next_some hn')
  stops := hdb.stops.of_shortened fun k => (h.successor k).imp id .inl
  oneValid k k' r r' hr hr' hv hv' hsession := by
    obtain ⟨r₀, hr₀, hrow, -⟩ := h.refresh k r hr
    obtain ⟨r₀', hr₀', hrow', -⟩ := h.refresh k' r' hr'
    refine hdb.oneValid k k' r₀ r₀' hr₀ hr₀' (hrow.valid (hdb.decodes k r₀ hr₀) hv)
      (hrow'.valid (hdb.decodes k' r₀' hr₀') hv') ?_
    rw [← hrow.session, ← hrow'.session]
    exact hsession
  ownAccess k r a ra hr hv hra hrevoked hsession := by
    obtain ⟨r₀, hr₀, hrow, hkept⟩ := h.refresh k r hr
    obtain ⟨ra₀, hra₀, hsession₀, hrevoked₀⟩ := h.access a ra hra
    refine hkept a ?_ (Option.isSome_iff_exists.mpr ⟨ra, hra⟩)
    refine hdb.ownAccess k r₀ a ra₀ hr₀ (hrow.valid (hdb.decodes k r₀ hr₀) hv) hra₀
      (hrevoked₀ hrevoked) ?_
    rw [← hsession₀, ← hrow.session]
    exact hsession
  oneAccess a a' ra ra' hra hra' hrevoked hrevoked' hsession := by
    obtain ⟨ra₀, hra₀, hsession₀, hrevoked₀⟩ := h.access a ra hra
    obtain ⟨ra₀', hra₀', hsession₀', hrevoked₀'⟩ := h.access a' ra' hra'
    refine hdb.oneAccess a a' ra₀ ra₀' hra₀ hra₀' (hrevoked₀ hrevoked) (hrevoked₀' hrevoked') ?_
    rw [← hsession₀, ← hsession₀']
    exact hsession
  accessThere := h.accessThere
  refreshSession := h.refreshSession
  accessSession := h.accessSession
  grantSession g s hg := (h.grants g s hg).2
  grantRefresh g s k r hg hr := by
    obtain ⟨r₀, hr₀, hrow, -⟩ := h.refresh k r hr
    rw [hrow.session]
    exact hdb.grantRefresh g s k r₀ (h.grants g s hg).1 hr₀
  grantAccess g s a ra hg hra := by
    obtain ⟨ra₀, hra₀, hsession₀, -⟩ := h.access a ra hra
    rw [hsession₀]
    exact hdb.grantAccess g s a ra₀ (h.grants g s hg).1 hra₀
  grantsApart g g' s hg hg' := hdb.grantsApart g g' s (h.grants g s hg).1 (h.grants g' s hg').1

theorem weaker_quiet (hdb : Lineage db) (h : Quiet db db') : Weaker db db' where
  refresh k r' hr' := by
    rw [h.refreshTokens] at hr'
    exact ⟨r', hr', .refl r', fun _ ha _ => ha⟩
  pointed _ _ n rn _ _ hrn hrevoked := by
    rw [h.refreshTokens]
    exact ⟨rn, hrn, hrevoked⟩
  access a ra' hra' := by
    rw [h.accessTokens] at hra'
    exact ⟨ra', hra', rfl, fun hrevoked => hrevoked⟩
  accessThere k r' a hr' ha := by
    rw [h.refreshTokens] at hr'
    rw [h.accessTokens]
    exact hdb.accessThere k r' a hr' ha
  refreshSession k r' hr' := by
    rw [h.refreshTokens] at hr'
    exact h.sessions.contains_iff.mpr (hdb.refreshSession k r' hr')
  accessSession a ra' hra' := by
    rw [h.accessTokens] at hra'
    exact h.sessions.contains_iff.mpr (hdb.accessSession a ra' hra')
  grants g s := by
    rintro ⟨r, fulfilledAt, hr, hstage⟩
    have hawaits : Awaits db g s := ⟨r, fulfilledAt, h.grants g r hr, hstage⟩
    exact ⟨hawaits, h.sessions.contains_iff.mpr (hdb.grantSession g s hawaits)⟩

theorem weaker_updateAccessToken (hdb : Lineage db) {id : Ulid}
    {f : OAuth2AccessTokenRow → OAuth2AccessTokenRow}
    (hsession : ∀ ra, (f ra).oauth2SessionId = ra.oauth2SessionId)
    (hrevoked : ∀ ra, (f ra).revokedAt = none → ra.revokedAt = none) :
    Weaker db (db.updateAccessToken id f) where
  refresh k r' hr' := ⟨r', hr', .refl r', fun _ ha _ => ha⟩
  pointed _ _ n rn _ _ hrn hunrevoked := ⟨rn, hrn, hunrevoked⟩
  access a ra' hra' := by
    obtain ⟨ra, hra, rfl⟩ := of_get?_update hra'
    refine ⟨ra, hra, ?_, ?_⟩
    · split_ifs
      · exact hsession ra
      · rfl
    · split_ifs
      · exact hrevoked ra
      · exact fun hnone => hnone
  accessThere k r' a hr' ha := by
    have hthere := hdb.accessThere k r' a hr' ha
    rw [← contains_update _ id _ f] at hthere
    exact hthere
  refreshSession := hdb.refreshSession
  accessSession a ra' hra' := by
    obtain ⟨ra, hra, rfl⟩ := of_get?_update hra'
    have hthere := hdb.accessSession a ra hra
    split_ifs
    · rw [hsession ra]
      exact hthere
    · exact hthere
  grants g s hg := ⟨hg, hdb.grantSession g s hg⟩

theorem weaker_markedUsed (hdb : Lineage db) {now : Time} {t : AccessToken} :
    Weaker db (markedUsed now t db) := by
  unfold markedUsed
  split_ifs
  · exact weaker_quiet hdb (.refl db)
  · exact weaker_updateAccessToken hdb (fun _ => rfl) fun _ hrevoked => hrevoked

theorem weaker_deleteAccessTokens (hdb : Lineage db) :
    Weaker db (db.delete .oauth2AccessTokens (· ∈ ids)) where
  refresh k r' hr' := by
    obtain ⟨r, hr, rfl⟩ := get?_refresh_deleteAccessTokens.mp hr'
    refine ⟨r, hr, ⟨rfl, id, id, id, .inl rfl⟩, fun a ha hthere => ?_⟩
    obtain ⟨ra, hra⟩ := contains_iff_exists.mp hthere
    simpa [ha] using (get?_deleteAccessTokens.mp hra).2
  pointed k r' n rn hr' hn hrn hrevoked :=
    ⟨_, get?_refresh_deleteAccessTokens.mpr ⟨rn, hrn, rfl⟩, hrevoked⟩
  access a ra' hra' := ⟨ra', (get?_deleteAccessTokens.mp hra').1, rfl, id⟩
  accessThere k r' a hr' ha := by
    obtain ⟨r, hr, rfl⟩ := get?_refresh_deleteAccessTokens.mp hr'
    obtain ⟨ha, hkept⟩ := Option.filter_eq_some_iff.mp ha
    obtain ⟨ra, hra⟩ := contains_iff_exists.mp (hdb.accessThere k r a hr ha)
    exact contains_iff_exists.mpr ⟨ra, get?_deleteAccessTokens.mpr ⟨hra, of_decide_eq_true hkept⟩⟩
  refreshSession k r' hr' := by
    obtain ⟨r, hr, rfl⟩ := get?_refresh_deleteAccessTokens.mp hr'
    exact hdb.refreshSession k r hr
  accessSession a ra' hra' := hdb.accessSession a ra' (get?_deleteAccessTokens.mp hra').1
  grants g s hg := ⟨hg, hdb.grantSession g s hg⟩

theorem weaker_deleteRefreshTokens (hdb : Lineage db) :
    Weaker db (db.delete .oauth2RefreshTokens (· ∈ ids)) where
  refresh k r' hr' := by
    obtain ⟨r, hr, -, rfl⟩ := get?_deleteRefreshTokens.mp hr'
    refine ⟨r, hr, ⟨rfl, id, id, fun hdecodes => ⟨hdecodes.1, fun hc => ?_⟩, ?_⟩, fun _ ha _ => ha⟩
    · dsimp only at hc ⊢
      rw [hdecodes.2 hc]
      rfl
    · cases hn : r.nextOAuth2RefreshTokenId with
      | none => exact .inl rfl
      | some n => by_cases hmem : n ∈ ids <;> simp [Option.filter, hmem]
  pointed k r' n rn hr' hn hrn hrevoked := by
    obtain ⟨r, hr, -, rfl⟩ := get?_deleteRefreshTokens.mp hr'
    obtain ⟨-, hkept⟩ := Option.filter_eq_some_iff.mp hn
    exact ⟨_, get?_deleteRefreshTokens.mpr ⟨rn, hrn, by simpa using hkept, rfl⟩, hrevoked⟩
  access a ra' hra' := ⟨ra', hra', rfl, id⟩
  accessThere k r' a hr' ha := by
    obtain ⟨r, hr, -, rfl⟩ := get?_deleteRefreshTokens.mp hr'
    exact hdb.accessThere k r a hr ha
  refreshSession k r' hr' := by
    obtain ⟨r, hr, -, rfl⟩ := get?_deleteRefreshTokens.mp hr'
    exact hdb.refreshSession k r hr
  accessSession := hdb.accessSession
  grants g s hg := ⟨hg, hdb.grantSession g s hg⟩

/-- The tokens of deleted sessions go with them. -/
theorem lineage_deleteSessions (hdb : Lineage db)
    (hgrants : ∀ g r, db.oauth2AuthorizationGrants.get? g = some r →
      ∀ id ∈ r.oauth2SessionId, id ∉ ids) :
    Lineage (OAuth2SessionRepository.deleteSessions db db ids) := by
  let db₁ := db.delete .oauth2RefreshTokens
    (· ∈ db.oauth2RefreshTokens.keysWhere (·.oauth2SessionId ∈ ids))
  let db₂ := db₁.delete .oauth2AccessTokens
    (· ∈ db.oauth2AccessTokens.keysWhere (·.oauth2SessionId ∈ ids))
  have hdb₁ : Lineage db₁ := hdb.weaken (weaker_deleteRefreshTokens hdb)
  have hdb₂ : Lineage db₂ := hdb₁.weaken (weaker_deleteAccessTokens hdb₁)
  have hkept : ∀ s, db.oauth2Sessions.contains s → s ∉ ids →
      (db.oauth2Sessions.deleteKeys (· ∈ ids)).contains s := by
    intro s hs hnot
    rw [contains_deleteKeys, hs, decide_eq_false hnot]
    rfl
  refine hdb₂.weaken {
    refresh := fun k r' hr' => ⟨r', hr', .refl r', fun _ ha _ => ha⟩
    pointed := fun _ _ n rn _ _ hrn hrevoked => ⟨rn, hrn, hrevoked⟩
    access := fun a ra' hra' => ⟨ra', hra', rfl, id⟩
    accessThere := hdb₂.accessThere
    refreshSession := fun k r' hr' => ?_
    accessSession := fun a ra' hra' => ?_
    grants := fun g s hg => ⟨hg, ?_⟩ }
  · obtain ⟨r₁, hr₁, rfl⟩ := get?_refresh_deleteAccessTokens.mp hr'
    obtain ⟨r, hr, hnot, rfl⟩ := get?_deleteRefreshTokens.mp hr₁
    refine hkept _ (hdb.refreshSession k r hr) fun hmem => hnot ?_
    exact mem_keysWhere.mpr ⟨r, hr, decide_eq_true hmem⟩
  · obtain ⟨hra, hnot⟩ := get?_deleteAccessTokens.mp hra'
    refine hkept _ (hdb.accessSession a ra' hra) fun hmem => hnot ?_
    exact mem_keysWhere.mpr ⟨ra', hra, decide_eq_true hmem⟩
  · obtain ⟨r, fulfilledAt, hr, hstage⟩ := hg
    have hid := (AuthorizationGrantRow.stage?_fulfilled.mp hstage).2.2.2
    exact hkept s (hdb.grantSession g s ⟨r, fulfilledAt, hr, hstage⟩) (hgrants g r hr s hid)

end Weaker

section Issue

variable {db : Database} {id : Ulid}
variable {row : OAuth2RefreshTokenRow}

theorem Lineage.insertAccessToken (hdb : Lineage db) {row : OAuth2AccessTokenRow}
    (hsession : db.oauth2Sessions.contains row.oauth2SessionId)
    (hvalid : ∀ k r, db.oauth2RefreshTokens.get? k = some r → r.state? = some .valid →
      r.oauth2SessionId ≠ row.oauth2SessionId)
    (hlive : ∀ a ra, db.oauth2AccessTokens.get? a = some ra → ra.revokedAt = none →
      ra.oauth2SessionId ≠ row.oauth2SessionId)
    (hgrant : ∀ g, ¬Awaits db g row.oauth2SessionId) : Lineage (db.insertAccessToken id row) where
  decodes := hdb.decodes
  pointed := hdb.pointed
  injective := hdb.injective
  stops := hdb.stops
  oneValid := hdb.oneValid
  ownAccess k r a ra hr hv hra hrevoked hs := by
    rcases of_get?_insert hra with ⟨rfl, rfl⟩ | ⟨-, hra⟩
    · exact absurd hs.symm (hvalid k r hr hv)
    · exact hdb.ownAccess k r a ra hr hv hra hrevoked hs
  oneAccess a a' ra ra' hra hra' hrevoked hrevoked' hs := by
    rcases of_get?_insert hra with ⟨rfl, rfl⟩ | ⟨-, hold⟩ <;>
      rcases of_get?_insert hra' with ⟨rfl, rfl⟩ | ⟨-, hold'⟩
    · rfl
    · exact absurd hs.symm (hlive a' ra' hold' hrevoked')
    · exact absurd hs (hlive a ra hold hrevoked)
    · exact hdb.oneAccess a a' ra ra' hold hold' hrevoked hrevoked' hs
  accessThere k r a hr ha := contains_insert_of_contains (hdb.accessThere k r a hr ha)
  refreshSession := hdb.refreshSession
  accessSession a ra hra := by
    rcases of_get?_insert hra with ⟨rfl, rfl⟩ | ⟨-, hra⟩
    · exact hsession
    · exact hdb.accessSession a ra hra
  grantSession := hdb.grantSession
  grantRefresh := hdb.grantRefresh
  grantAccess g s a ra hg hra := by
    rcases of_get?_insert hra with ⟨rfl, rfl⟩ | ⟨-, hra⟩
    · rintro rfl
      exact hgrant g hg
    · exact hdb.grantAccess g s a ra hg hra
  grantsApart := hdb.grantsApart

theorem successor_insert (hnext : row.nextOAuth2RefreshTokenId = none)
    (k : Ulid) : successor (db.insertRefreshToken id row) k = successor db k ∨
      successor (db.insertRefreshToken id row) k = none := by
  unfold successor Database.insertRefreshToken
  dsimp only
  rw [get?_insert]
  split_ifs
  · exact .inr hnext
  · exact .inl rfl

theorem Lineage.insertRefreshToken (hdb : Lineage db)
    (hid : db.oauth2RefreshTokens.get? id = none) (hrow : row.state? = some .valid)
    (hsession : db.oauth2Sessions.contains row.oauth2SessionId)
    (hvalid : ∀ k r, db.oauth2RefreshTokens.get? k = some r → r.state? = some .valid →
      r.oauth2SessionId ≠ row.oauth2SessionId)
    (hown : ∀ a ra, db.oauth2AccessTokens.get? a = some ra → ra.revokedAt = none →
      ra.oauth2SessionId = row.oauth2SessionId → row.oauth2AccessTokenId = some a)
    (hthere : ∀ a, row.oauth2AccessTokenId = some a → db.oauth2AccessTokens.contains a)
    (hgrant : ∀ g, ¬Awaits db g row.oauth2SessionId) : Lineage (db.insertRefreshToken id row) where
  decodes k r hr := by
    rcases of_get?_insert hr with ⟨-, rfl⟩ | ⟨-, hr⟩
    · exact ⟨fun _ => (state?_valid.mp hrow).1, fun _ => (state?_valid.mp hrow).2.2⟩
    · exact hdb.decodes k r hr
  pointed k r n hr hn := by
    rcases of_get?_insert hr with ⟨-, rfl⟩ | ⟨-, hr⟩
    · exact absurd hrow (state?_ne_valid hn)
    · obtain ⟨rn, hrn, hfacts⟩ := hdb.pointed k r n hr hn
      have hne : n ≠ id := by
        rintro rfl
        rw [hid] at hrn
        cases hrn
      exact ⟨rn, (get?_insert ..).trans ((if_neg hne).trans hrn), hfacts⟩
  injective k k' r r' n hr hr' hn hn' := by
    rcases of_get?_insert hr with ⟨-, rfl⟩ | ⟨-, hr⟩
    · exact absurd hrow (state?_ne_valid hn)
    rcases of_get?_insert hr' with ⟨-, rfl⟩ | ⟨-, hr'⟩
    · exact absurd hrow (state?_ne_valid hn')
    · exact hdb.injective k k' r r' n hr hr' hn hn'
  stops := hdb.stops.of_shortened fun k =>
    (successor_insert (state?_valid.mp hrow).2.2 k).imp (fun h => h) .inl
  oneValid k k' r r' hr hr' hv hv' hs := by
    rcases of_get?_insert hr with ⟨rfl, rfl⟩ | ⟨-, hold⟩ <;>
      rcases of_get?_insert hr' with ⟨rfl, rfl⟩ | ⟨-, hold'⟩
    · rfl
    · exact absurd hs.symm (hvalid k' r' hold' hv')
    · exact absurd hs (hvalid k r hold hv)
    · exact hdb.oneValid k k' r r' hold hold' hv hv' hs
  ownAccess k r a ra hr hv hra hunrevoked hs := by
    rcases of_get?_insert hr with ⟨-, rfl⟩ | ⟨-, hr⟩
    · exact hown a ra hra hunrevoked hs
    · exact hdb.ownAccess k r a ra hr hv hra hunrevoked hs
  oneAccess := hdb.oneAccess
  accessThere k r a hr ha := by
    rcases of_get?_insert hr with ⟨-, rfl⟩ | ⟨-, hr⟩
    · exact hthere a ha
    · exact hdb.accessThere k r a hr ha
  refreshSession k r hr := by
    rcases of_get?_insert hr with ⟨-, rfl⟩ | ⟨-, hr⟩
    · exact hsession
    · exact hdb.refreshSession k r hr
  accessSession := hdb.accessSession
  grantSession := hdb.grantSession
  grantRefresh g s k r hg hr := by
    rcases of_get?_insert hr with ⟨-, rfl⟩ | ⟨-, hr⟩
    · rintro rfl
      exact hgrant g hg
    · exact hdb.grantRefresh g s k r hg hr
  grantAccess := hdb.grantAccess
  grantsApart := hdb.grantsApart

section Point

variable {k n k' : Ulid} {r r' : OAuth2RefreshTokenRow}

def pointTo (n : Ulid) (r : OAuth2RefreshTokenRow) : OAuth2RefreshTokenRow :=
  { r with nextOAuth2RefreshTokenId := some n }

/-- Every row is the one from before, but for the new pointer of `k`. -/
theorem of_get?_point (hr : db.oauth2RefreshTokens.get? k = some r)
    (hr' : (db.oauth2RefreshTokens.update k (pointTo n)).get? k' = some r') :
    k' = k ∧ r' = pointTo n r ∨ k' ≠ k ∧ db.oauth2RefreshTokens.get? k' = some r' := by
  obtain ⟨r₀, hr₀, rfl⟩ := of_get?_update hr'
  by_cases hk : k' = k
  · subst hk
    cases hr.symm.trans hr₀
    exact .inl ⟨rfl, if_pos rfl⟩
  · rw [if_neg hk]
    exact .inr ⟨hk, hr₀⟩

theorem exists_get?_point (hr' : db.oauth2RefreshTokens.get? k' = some r') :
    ∃ r'', (db.oauth2RefreshTokens.update k (pointTo n)).get? k' = some r'' ∧
      r''.oauth2SessionId = r'.oauth2SessionId ∧ r''.revokedAt = r'.revokedAt := by
  rw [get?_update, hr']
  split_ifs
  · exact ⟨pointTo n r', rfl, rfl, rfl⟩
  · exact ⟨r', rfl, rfl, rfl⟩

theorem successor_point (hr : db.oauth2RefreshTokens.get? k = some r) (k' : Ulid) :
    successor (db.updateRefreshToken k (pointTo n)) k' =
      if k' = k then some n else successor db k' := by
  unfold successor Database.updateRefreshToken
  dsimp only
  rw [get?_update]
  by_cases hk : k' = k
  · rw [if_pos hk, if_pos hk, hk, hr]
    rfl
  · rw [if_neg hk, if_neg hk]

theorem Lineage.point (hdb : Lineage db) {rn : OAuth2RefreshTokenRow}
    (hr : db.oauth2RefreshTokens.get? k = some r) (hconsumed : r.consumedAt.isSome)
    (hrn : db.oauth2RefreshTokens.get? n = some rn) (hrevoked : rn.revokedAt = none)
    (hlast : rn.nextOAuth2RefreshTokenId = none) (hsession : rn.oauth2SessionId = r.oauth2SessionId)
    (hfree : ∀ k' r', db.oauth2RefreshTokens.get? k' = some r' →
      r'.nextOAuth2RefreshTokenId ≠ some n) (hne : n ≠ k) :
    Lineage (db.updateRefreshToken k (pointTo n)) where
  decodes k' r' hr' := by
    rcases of_get?_point hr hr' with ⟨-, rfl⟩ | ⟨-, hold⟩
    · refine ⟨(hdb.decodes k r hr).1, fun hnone => ?_⟩
      rw [show r.consumedAt = none from hnone] at hconsumed
      cases hconsumed
    · exact hdb.decodes k' r' hold
  pointed k' r' n' hr' hn' := by
    have hbefore : ∃ rn', db.oauth2RefreshTokens.get? n' = some rn' ∧
        rn'.oauth2SessionId = r'.oauth2SessionId ∧ rn'.revokedAt = none := by
      rcases of_get?_point hr hr' with ⟨-, rfl⟩ | ⟨-, hold⟩
      · cases hn'
        exact ⟨rn, hrn, hsession, hrevoked⟩
      · exact hdb.pointed k' r' n' hold hn'
    obtain ⟨rn', hrn', hs, hunrevoked⟩ := hbefore
    obtain ⟨rn'', hrn'', hs', hsame⟩ := exists_get?_point hrn'
    exact ⟨rn'', hrn'', hs'.trans hs, hsame.trans hunrevoked⟩
  injective k₁ k₂ r₁ r₂ n' hr₁ hr₂ hn₁ hn₂ := by
    rcases of_get?_point hr hr₁ with ⟨rfl, rfl⟩ | ⟨-, hold₁⟩ <;>
      rcases of_get?_point hr hr₂ with ⟨hk₂, rfl⟩ | ⟨-, hold₂⟩
    · exact hk₂.symm
    · cases hn₁
      exact absurd hn₂ (hfree k₂ r₂ hold₂)
    · cases hn₂
      exact absurd hn₁ (hfree k₁ r₁ hold₁)
    · exact hdb.injective k₁ k₂ r₁ r₂ n' hold₁ hold₂ hn₁ hn₂
  stops := by
    refine hdb.stops.of_shortened fun k' => ?_
    by_cases hk : k' = k
    · refine .inr (.inr ⟨n, (successor_point hr k').trans (if_pos hk),
        (successor_point hr n).trans ((if_neg hne).trans ?_)⟩)
      unfold successor
      rw [hrn]
      exact hlast
    · exact .inl ((successor_point hr k').trans (if_neg hk))
  oneValid k₁ k₂ r₁ r₂ hr₁ hr₂ hv₁ hv₂ hs := by
    rcases of_get?_point hr hr₁ with ⟨-, rfl⟩ | ⟨-, hold₁⟩
    · exact absurd hv₁ (state?_ne_valid rfl)
    rcases of_get?_point hr hr₂ with ⟨-, rfl⟩ | ⟨-, hold₂⟩
    · exact absurd hv₂ (state?_ne_valid rfl)
    · exact hdb.oneValid k₁ k₂ r₁ r₂ hold₁ hold₂ hv₁ hv₂ hs
  ownAccess k' r' a ra hr' hv hra hunrevoked hs := by
    rcases of_get?_point hr hr' with ⟨-, rfl⟩ | ⟨-, hold⟩
    · exact absurd hv (state?_ne_valid rfl)
    · exact hdb.ownAccess k' r' a ra hold hv hra hunrevoked hs
  oneAccess := hdb.oneAccess
  accessThere k' r' a hr' ha := by
    rcases of_get?_point hr hr' with ⟨-, rfl⟩ | ⟨-, hold⟩
    · exact hdb.accessThere k r a hr ha
    · exact hdb.accessThere k' r' a hold ha
  refreshSession k' r' hr' := by
    rcases of_get?_point hr hr' with ⟨-, rfl⟩ | ⟨-, hold⟩
    · exact hdb.refreshSession k r hr
    · exact hdb.refreshSession k' r' hold
  accessSession := hdb.accessSession
  grantSession := hdb.grantSession
  grantRefresh g s k' r' hg hr' := by
    rcases of_get?_point hr hr' with ⟨-, rfl⟩ | ⟨-, hold⟩
    · exact hdb.grantRefresh g s k r hg hr
    · exact hdb.grantRefresh g s k' r' hg hold
  grantAccess := hdb.grantAccess
  grantsApart := hdb.grantsApart

end Point

end Issue

end Pasion.TokenRuns
