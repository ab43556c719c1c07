import Pasion.Handlers.TokenRotation

/-! Interleaved refreshes, and whether the refresh tokens stay readable. -/
namespace Pasion.RefreshRace

open Relational TokenRuns Txn Table

structure Request where
  env : TokenEnv
  token : String
  client : Client

abbrev State (ι : Type) := Config ι Database LockKey RefreshTokenExchangeError AccessTokenResponse

def start {ι : Type} (db : Database) (requests : ι → Request) : State ι :=
  .start db (fun i => handleRefreshToken (requests i).env (requests i).token (requests i).client)

/-- The refresh token is not revoked, and consumed only if it is the one the request presents. -/
def unsettled (token : String) (k : LockKey) (db : Database) : Bool :=
  match k with
  | .row .oauth2RefreshTokens id =>
    (db.oauth2RefreshTokens.get? id).all (fun r =>
      r.revokedAt.isNone && (r.consumedAt.isNone || r.refreshToken = token))
  | _ => true

/-- Refresh tokens keep their text, stay consumed, and stay readable. -/
def refreshTokens : Keyed Database LockKey Ulid String OAuth2RefreshTokenRow where
  row db k := db.oauth2RefreshTokens.get? k
  lockOf := .row .oauth2RefreshTokens
  col := OAuth2RefreshTokenRow.refreshToken
  colLock := .unique .oauth2RefreshTokens
  Step r r' := r'.refreshToken = r.refreshToken ∧ (r.consumedAt.isSome → r'.consumedAt.isSome) ∧
    (Decodes r → Decodes r')
  Good := Decodes
  step_refl _ := ⟨rfl, id, id⟩
  step_trans h h' := ⟨h'.1.trans h.1, fun hr => h'.2.1 (h.2.1 hr), fun hr => h'.2.2 (h.2.2 hr)⟩
  col_step h := h.1
  good_step h := h.2.2

def LeavesRefreshTokens (e : Effect Database LockKey) : Prop :=
  ∀ db, (e.write db).oauth2RefreshTokens = db.oauth2RefreshTokens

theorem leaves_idle : LeavesRefreshTokens .idle := fun _ => rfl

theorem row_eq_of_leaves {e : Effect Database LockKey} (h : LeavesRefreshTokens e) (db : Database) :
    refreshTokens.row (e.write db) = refreshTokens.row db := by
  funext k
  exact congrArg (·.get? k) (h db)

section Quiet

variable {ε : Type} [FromRepository ε]

omit [FromRepository ε] in
theorem leaves_of_aside {α : Type} {p : Repo ε α} (h : p.Issues Aside) :
    p.Issues LeavesRefreshTokens :=
  h.mono fun _ he => he.refreshTokens

theorem issues_revokeAccessToken (now : Time) (accessToken : AccessToken) :
    (OAuth2AccessTokenRepository.revoke now accessToken :
      Repo ε AccessToken).Issues LeavesRefreshTokens := by
  refine Txn.Issues.bind ?_ fun _ => Repo.issues_transition _
  exact Repo.issues_updateRow leaves_idle fun _ => rfl

theorem issues_revokeAccessTokenOf (now : Time) (refreshToken : RefreshToken) :
    (revokeAccessTokenOf now refreshToken).Issues LeavesRefreshTokens := by
  unfold revokeAccessTokenOf
  cases refreshToken.accessTokenId with
  | none => exact issues_pure _
  | some accessTokenId =>
    refine (issues_query _).bind fun accessToken => ?_
    cases accessToken with
    | none => exact issues_pure _
    | some accessToken =>
      simp only [revokeUnlessRevoked]
      split_ifs
      · exact issues_pure _
      · exact (issues_revokeAccessToken _ _).bind fun _ => issues_pure _

end Quiet

section Plays

variable {ι : Type}

abbrev Error := RefreshTokenExchangeError

def protocol (ι : Type) : Protocol ι Database LockKey Error AccessTokenResponse :=
  refreshTokens.protocol

def role (token : String) : Role Database LockKey Error AccessTokenResponse where
  Allowed _ db e := ∀ k ∈ e.locks, unsettled token k db
  PostE _ _ _ := True
  Post _ _ _ := True

/-- Nothing that refreshes do to the table undoes the fact. -/
def Lasting (K : Database → Prop) : Prop := ∀ db db', refreshTokens.Evolves db db' → K db → K db'

variable {token : String} {α β : Type} {x : Repo Error α} {f : α → Repo Error β}
  {Post : β → Database → Effect Database LockKey → Prop} {db : Database}
  {w : Effect Database LockKey}

variable {K : Database → Prop} {id : Ulid} {old next : RefreshToken} {now : Time}

/-- A part that leaves the refresh tokens alone keeps lasting facts. -/
theorem quiet_bind (hK : Lasting K) (hx : x.Issues LeavesRefreshTokens)
    (hs : K db) (hf : ∀ a db w, K db →
      (f a).Relies ((protocol ι).rules (role token)) (fun _ _ _ => True) Post db w) :
    (x >>= f).Relies ((protocol ι).rules (role token)) (fun _ _ _ => True) Post db w := by
  refine relies_bind.mpr (hx.relies (I := fun db _ => K db) ⟨?_, ?_⟩ hs ?_ ?_)
  · exact fun db db' _ hdb hrely => hK db db' hrely.evolves hdb
  · intro db _ e hdb he _
    have hrow := row_eq_of_leaves he
    exact ⟨Keyed.guar_of_eq hrow, hK db _ (Keyed.guar_of_eq hrow).evolves hdb⟩
  · exact hf
  · exact fun _ _ _ _ => trivial

theorem guar_idle : refreshTokens.Guar db .idle := Keyed.guar_of_eq fun _ => rfl

theorem guar_updateRefreshToken {g : OAuth2RefreshTokenRow → OAuth2RefreshTokenRow}
    (hg : ∀ r, db.oauth2RefreshTokens.get? id = some r → refreshTokens.Step r (g r)) :
    refreshTokens.Guar db ⟨(·.updateRefreshToken id g), [.row .oauth2RefreshTokens id]⟩ where
  rowWise := by
    refine ⟨fun db k hk => ?_, fun db db' k heq => ?_⟩
    · have hne : k ≠ id := fun h => hk (List.mem_singleton.mpr (congrArg _ h))
      exact (get?_update ..).trans (if_neg hne)
    · refine (get?_update ..).trans (Eq.trans ?_ (get?_update ..).symm)
      rw [show db.oauth2RefreshTokens.get? k = db'.oauth2RefreshTokens.get? k from heq]
  evolves k r hr := by
    have hget : (db.oauth2RefreshTokens.update id g).get? k = some (if k = id then g r else r) := by
      rw [get?_update, show db.oauth2RefreshTokens.get? k = some r from hr]
      split_ifs <;> rfl
    refine ⟨_, hget, ?_⟩
    split_ifs with hk
    · exact hg r (hk ▸ hr)
    · exact refreshTokens.step_refl r
  adds k r hnone hr := by
    obtain ⟨r₀, hr₀, -⟩ := of_get?_update hr
    rw [show db.oauth2RefreshTokens.get? k = none from hnone] at hr₀
    cases hr₀

theorem guar_insertRefreshToken {row : OAuth2RefreshTokenRow}
    (hid : db.oauth2RefreshTokens.get? id = none) (hrow : Decodes row)
    (htext : ∀ k r, db.oauth2RefreshTokens.get? k = some r → r.refreshToken ≠ row.refreshToken) :
    refreshTokens.Guar db ⟨(·.insertRefreshToken id row),
      [.row .oauth2RefreshTokens id, .unique .oauth2RefreshTokens row.refreshToken]⟩ where
  rowWise := by
    refine ⟨fun db k hk => ?_, fun db db' k heq => ?_⟩
    · have hne : k ≠ id := fun h => hk (List.mem_cons.mpr (.inl (congrArg _ h)))
      exact (get?_insert ..).trans (if_neg hne)
    · refine (get?_insert ..).trans (Eq.trans ?_ (get?_insert ..).symm)
      rw [show db.oauth2RefreshTokens.get? k = db'.oauth2RefreshTokens.get? k from heq]
  evolves k r hr := by
    have hne : k ≠ id := by
      rintro rfl
      rw [show db.oauth2RefreshTokens.get? k = some r from hr] at hid
      cases hid
    exact ⟨r, (get?_insert ..).trans ((if_neg hne).trans hr), refreshTokens.step_refl r⟩
  adds k r hnone hr := by
    rcases of_get?_insert hr with ⟨rfl, rfl⟩ | ⟨-, hr₀⟩
    · refine ⟨List.mem_cons_of_mem _ (List.mem_singleton_self _), hrow, fun k' r' hr' hcol => ?_⟩
      rcases of_get?_insert hr' with ⟨rfl, -⟩ | ⟨-, hr₀'⟩
      · rfl
      · exact absurd hcol (htext k' r' hr₀')
    · rw [show db.oauth2RefreshTokens.get? k = none from hnone] at hr₀
      cases hr₀

/-- The token that was found is still there under its text, and consumed unless found valid. -/
def Presented (token : String) (old : RefreshToken) (db : Database) : Prop :=
  ∃ r, db.oauth2RefreshTokens.get? old.id = some r ∧ r.refreshToken = token ∧
    (¬old.isValid → old.state.nextRefreshTokenId.isSome → r.consumedAt.isSome)

theorem lasting_presented (token : String) (old : RefreshToken) :
    Lasting (Presented token old) := by
  rintro db db' h ⟨r, hr, htext, hconsumed⟩
  obtain ⟨r', hr', hstep⟩ := h old.id r hr
  exact ⟨r', hr', hstep.1.trans htext, fun hv hn => hstep.2.1 (hconsumed hv hn)⟩

theorem presented_of_refreshTokenOf? (h : db.refreshTokenOf? token = some old) :
    Presented token old db := by
  obtain ⟨r, hr, htext, hstate, -⟩ := row_of_refreshTokenOf? h
  refine ⟨r, hr, htext, fun hv hn => ?_⟩
  cases hcase : old.state with
  | valid => simp [RefreshToken.isValid, hcase, RefreshTokenState.isValid] at hv
  | revoked at_ => simp [hcase, RefreshTokenState.nextRefreshTokenId] at hn
  | consumed at_ next =>
    rw [hcase] at hstate
    rw [(state?_consumed.mp hstate).2.1]
    rfl

/-- The successor that the transaction found is another token than the one presented. -/
def Other (token : String) (id : Ulid) (db : Database) : Prop :=
  ∃ r, db.oauth2RefreshTokens.get? id = some r ∧ r.refreshToken ≠ token

theorem lasting_other (token : String) (id : Ulid) : Lasting (Other token id) := by
  rintro db db' h ⟨r, hr, htext⟩
  obtain ⟨r', hr', hstep⟩ := h id r hr
  refine ⟨r', hr', ?_⟩
  rw [hstep.1]
  exact htext

variable (ι token) in
abbrev Follows (x : Repo Error α) (Post : α → Database → Effect Database LockKey → Prop) :
    Database → Effect Database LockKey → Prop :=
  x.Relies ((protocol ι).rules (role token)) (fun _ _ _ => True) Post

theorem unsettled_row {r : OAuth2RefreshTokenRow}
    (h : unsettled token (.row .oauth2RefreshTokens id) db)
    (hr : db.oauth2RefreshTokens.get? id = some r) :
    r.revokedAt = none ∧ (r.consumedAt = none ∨ r.refreshToken = token) := by
  simpa [unsettled, hr] using h

theorem other_of_valid {nextId : Ulid} (hunique : refreshTokens.Unique db)
    (hold : Presented token old db) (hinvalid : ¬old.isValid)
    (hnext : old.state.nextRefreshTokenId = some nextId)
    (hloaded : db.refreshToken? nextId = some next) (hvalid : next.isValid) :
    Other token next.id db := by
  obtain ⟨r, hr, htext, hconsumed⟩ := hold
  obtain ⟨rn, hrn, rfl, hstate, -⟩ := row_of_refreshToken? hloaded
  refine ⟨rn, hrn, fun heq => ?_⟩
  have hid : next.id = old.id := hunique next.id old.id rn r hrn hr (heq.trans htext.symm)
  rw [hid] at hrn
  cases hr.symm.trans hrn
  have hsome := hconsumed hinvalid (by rw [hnext]; rfl)
  rw [state_of_isValid hvalid] at hstate
  rw [(state?_valid.mp hstate).2.1] at hsome
  cases hsome

theorem follows_revokeRefreshToken (hK : Lasting K) (hs : K db) (hother : Other token next.id db) :
    Follows ι token (OAuth2RefreshTokenRepository.revoke now next) (fun _ db _ => K db) db w := by
  simp only [OAuth2RefreshTokenRepository.revoke, relies_bind, Repo.relies_updateRow,
    Repo.relies_transition]
  intro db' hrely
  refine ⟨fun _ _ => guar_idle, fun _ _ hallowed => ?_⟩
  obtain ⟨rn, hrn, hne⟩ := lasting_other token next.id db db' hrely.evolves hother
  obtain ⟨-, hcase⟩ := unsettled_row (hallowed _ (List.mem_singleton_self _)) hrn
  have hunconsumed : rn.consumedAt = none := hcase.resolve_right hne
  have hguar : refreshTokens.Guar db' ⟨(·.updateRefreshToken next.id (fun r =>
      { r with revokedAt := some now })), [.row .oauth2RefreshTokens next.id]⟩ := by
    refine guar_updateRefreshToken fun r hr => ?_
    cases hrn.symm.trans hr
    refine ⟨rfl, id, fun hdecodes => ⟨fun hsome => ?_, hdecodes.2⟩⟩
    rw [show rn.consumedAt = none from hunconsumed] at hsome
    cases hsome
  exact ⟨hguar, fun _ _ => hK db' _ hguar.evolves (hK db db' hrely.evolves hs)⟩

theorem follows_revokeUnusedSuccessor (hold : Presented token old db) (hinvalid : ¬old.isValid) :
    Follows ι token (revokeUnusedSuccessor now old) (fun _ db _ => Presented token old db) db w := by
  have hlasting := lasting_presented token old
  refine relies_ofOption_bind.mpr fun nextId hnext => ?_
  refine Repo.relies_fetch_bind.mpr fun db₁ hrely found hfound => ?_
  refine relies_ofOption_bind.mpr ?_
  rintro next rfl
  refine relies_require_bind.mpr fun hvalid => ?_
  have hold₁ : Presented token old db₁ := hlasting db db₁ hrely.evolves hold
  have hother : Other token next.id db₁ :=
    other_of_valid hrely.unique hold₁ hinvalid hnext (mapM_eq_ok_some.mp hfound) hvalid
  have hboth : Lasting (fun db => Presented token old db ∧ Other token next.id db) :=
    fun db db' h hdb => ⟨hlasting db db' h hdb.1, lasting_other token next.id db db' h hdb.2⟩
  refine relies_ofOption_bind.mpr fun accessTokenId _ => ?_
  refine quiet_bind hboth (issues_query _) ⟨hold₁, hother⟩ fun found db₂ w hdb₂ => ?_
  refine relies_ofOption_bind.mpr fun nextAccessToken _ => ?_
  refine relies_require_bind.mpr fun _ => ?_
  refine quiet_bind hboth (issues_revokeAccessToken _ _) hdb₂ fun _ db₃ w hdb₃ => ?_
  exact (follows_revokeRefreshToken hlasting hdb₃.1 hdb₃.2).bind fun _ _ _ hold => hold

theorem follows_revokeLostSuccessor (hold : Presented token old db) :
    Follows ι token (revokeLostSuccessor now old) (fun _ db _ => Presented token old db) db w := by
  unfold revokeLostSuccessor
  split_ifs with hvalid
  · exact hold
  · exact follows_revokeUnusedSuccessor hold hvalid

theorem follows_addRefreshToken {session : Session}
    {accessToken : AccessToken} {text : String} (hK : Lasting K) (hs : K db) :
    Follows ι token (OAuth2RefreshTokenRepository.add now id session accessToken text)
      (fun _ db _ => K db) db w := by
  simp only [OAuth2RefreshTokenRepository.add, relies_bind, Repo.relies_insert, relies_pure]
  intro db' hrely
  refine ⟨fun _ _ => guar_idle, fun hviolation _ => ?_⟩
  obtain ⟨hid, htext⟩ := OAuth2RefreshTokenRepository.violation_eq_none hviolation
  have hguar : refreshTokens.Guar db' ⟨(·.insertRefreshToken id
      ⟨text, now, none, none, some accessToken.id, session.id, none⟩),
      [.row .oauth2RefreshTokens id, .unique .oauth2RefreshTokens text]⟩ :=
    guar_insertRefreshToken hid ⟨fun _ => rfl, fun _ => rfl⟩ htext
  exact ⟨hguar, hK db' _ hguar.evolves (hK db db' hrely.evolves hs)⟩

theorem follows_consume {new : RefreshToken} :
    Follows ι token (OAuth2RefreshTokenRepository.consume now old new) (fun _ _ _ => True) db w := by
  simp only [OAuth2RefreshTokenRepository.consume, relies_bind, Repo.relies_updateRow,
    Repo.relies_transition]
  intro db' _
  refine ⟨fun _ _ => guar_idle, fun _ _ hallowed => ⟨?_, fun _ _ => trivial⟩⟩
  refine guar_updateRefreshToken fun r hr => ?_
  obtain ⟨hunrevoked, -⟩ := unsettled_row (hallowed _ (List.mem_singleton_self _)) hr
  exact ⟨rfl, fun _ => rfl, fun _ => ⟨fun _ => hunrevoked, fun hnone => by cases hnone⟩⟩

theorem plays_handleRefreshToken (env : TokenEnv) (token : String) (client : Client)
    (db : Database) :
    (protocol ι).Plays (role token) (handleRefreshToken env token client) db .idle := by
  have hlasting := lasting_presented token
  refine relies_require_bind.mpr fun _ => ?_
  refine Repo.relies_fetch_bind.mpr fun db₁ _ found hfound => ?_
  refine relies_ofOption_bind.mpr ?_
  rintro old rfl
  have hold : Presented token old db₁ := presented_of_refreshTokenOf? (mapM_eq_ok_some.mp hfound)
  refine quiet_bind (hlasting old) (Repo.issues_fetch _) hold fun found db₂ w hold => ?_
  refine relies_ofOption_bind.mpr fun session _ => ?_
  refine quiet_bind (hlasting old) (leaves_of_aside issues_recordUserAgent) hold fun session db₃ w hold => ?_
  refine relies_require_bind.mpr fun _ => ?_
  refine quiet_bind (hlasting old) (leaves_of_aside issues_ensureMayKeepAdminScope) hold
    fun _ db₄ w hold => ?_
  refine relies_require_bind.mpr fun _ => ?_
  refine (follows_revokeLostSuccessor hold).bind fun _ db₅ w hold => ?_
  have hpair : Follows ι token (generateTokenPair env session env.accessTokenTtl)
      (fun _ db _ => Presented token old db) db₅ w := by
    refine quiet_bind (hlasting old) (leaves_of_aside issues_addAccessToken) hold fun accessToken db₆ w hold => ?_
    exact (follows_addRefreshToken (hlasting old) hold).bind fun _ _ _ hold => hold
  refine hpair.bind fun pair db₆ w _ => ?_
  refine follows_consume.bind fun old' db₇ w _ => ?_
  have htrue : Lasting (fun _ => True) := fun _ _ _ _ => trivial
  exact quiet_bind htrue (issues_revokeAccessTokenOf _ _) trivial fun _ _ _ _ => trivial

end Plays

/-- Every refresh token of the store decodes. -/
def AllDecode (db : Database) : Prop :=
  ∀ k r, db.oauth2RefreshTokens.get? k = some r → Decodes r ∧ ∃ t, r.toRefreshToken k = .ok t

theorem toRefreshToken_of_decodes {r : OAuth2RefreshTokenRow} (h : Decodes r) (k : Ulid) :
    ∃ t, r.toRefreshToken k = .ok t := by
  obtain ⟨hrevoked, hnext⟩ := h
  unfold OAuth2RefreshTokenRow.toRefreshToken OAuth2RefreshTokenRow.state?
  cases hc : r.consumedAt with
  | none =>
    rw [hnext hc]
    cases r.revokedAt <;> exact ⟨_, rfl⟩
  | some at_ =>
    rw [hrevoked (by rw [hc]; rfl)]
    cases r.nextOAuth2RefreshTokenId <;> exact ⟨_, rfl⟩

/-- One request after the other, each stored refresh token can be read, its session and its access
token are there, no code is still to be exchanged for the session, and its successor is an unrevoked
token of the same session that succeeds no other one. -/
theorem refresh_tokens_intact {db : Database} (h : NoTokens db) (ops : List Op) {k : Ulid}
    {r : OAuth2RefreshTokenRow}
    (hr : (Sequential.run step db ops).oauth2RefreshTokens.get? k = some r) :
    let db' := Sequential.run step db ops
    (∃ t, r.toRefreshToken k = .ok t) ∧ db'.oauth2Sessions.contains r.oauth2SessionId ∧
      (∀ a, r.oauth2AccessTokenId = some a → db'.oauth2AccessTokens.contains a) ∧
      (∀ g, ¬Awaits db' g r.oauth2SessionId) ∧
      ∀ n, r.nextOAuth2RefreshTokenId = some n →
        (∃ rn, db'.oauth2RefreshTokens.get? n = some rn ∧
          rn.oauth2SessionId = r.oauth2SessionId ∧ rn.revokedAt = none) ∧
        ∀ k' r', db'.oauth2RefreshTokens.get? k' = some r' →
          r'.nextOAuth2RefreshTokenId = some n → k' = k := by
  have hlineage : Lineage (Sequential.run step db ops) := lineage_run h.lineage
  refine ⟨toRefreshToken_of_decodes (hlineage.decodes k r hr) k, hlineage.refreshSession k r hr,
    fun a => hlineage.accessThere k r a hr, fun g hg => hlineage.grantRefresh g _ k r hg hr rfl,
    fun n hn => ⟨hlineage.pointed k r n hr hn, ?_⟩⟩
  exact fun k' r' hr' hn' => hlineage.injective k' k r' r n hr' hr hn' hn

theorem rotated_token_intact : ∃ r,
    (Sequential.run step CodeExchange.fulfilledGrant rotation).oauth2RefreshTokens.get? 11 =
      some r ∧ ∃ t, r.toRefreshToken 11 = .ok t := by
  obtain ⟨r, hr⟩ := Option.isSome_iff_exists.mp (by decide +kernel : ((Sequential.run step
    CodeExchange.fulfilledGrant rotation).oauth2RefreshTokens.get? 11).isSome)
  exact ⟨r, hr, (refresh_tokens_intact noTokens_fulfilledGrant rotation hr).1⟩

/-- Refresh tokens decode where each write finds its token not revoked, or consumed if presented. -/
theorem allDecode_of_unsettled {ι : Type} [DecidableEq ι] {db : Database} {requests : ι → Request}
    {xs : List (ι × Action)} {c : State ι} (hunique : refreshTokens.Unique db) (hdb : AllDecode db)
    (halong : (start db requests).along
      (Config.writesSeeing fun i => unsettled (requests i).token) xs)
    (hrun : (start db requests).run xs = some c) : AllDecode c.data := by
  obtain ⟨l, hfollows⟩ := Config.follows_of_run (protocol ι)
    (fun i => role (requests i).token) Keyed.sound Keyed.records
    ⟨hunique, fun k r hr => (hdb k r hr).1⟩ (fun i => plays_handleRefreshToken _ _ _ _)
    (fun _ _ _ => Config.locks_of_writesSeeing) halong hrun
  intro k r hr
  have hdecodes : Decodes r := hfollows.hist.2 k r hr
  exact ⟨hdecodes, toRefreshToken_of_decodes hdecodes k⟩

section Race

def lostResponse : Database := { Database.alice with
  oauth2Clients := Table.empty.insert 3 .codeFlow
  oauth2Sessions := Table.empty.insert 4
    ⟨some 1, none, 3, ["openid"], 0, none, none, none, none, none⟩
  oauth2AccessTokens := Table.empty.insert 20 ⟨4, "access", 1, none, none, none⟩
  oauth2RefreshTokens := (Table.empty.insert 11 ⟨"first", 0, some 1, none, none, 4, some 21⟩).insert
    21 ⟨"second", 1, none, none, some 20, 4, none⟩ }

def bothTokens (i : Bool) : Request :=
  let client : Client := ⟨3, Ulid.toString 3, [.refreshToken], none⟩
  if i then ⟨⟨2, 300, [3], [3], 30, 31, 32, none⟩, "first", client⟩
  else ⟨⟨2, 300, [4], [4], 40, 41, 42, none⟩, "second", client⟩

theorem rows_lostResponse {k : Ulid} {r : OAuth2RefreshTokenRow}
    (hr : lostResponse.oauth2RefreshTokens.get? k = some r) :
    (k = 21 ∧ r = ⟨"second", 1, none, none, some 20, 4, none⟩) ∨
      k = 11 ∧ r = ⟨"first", 0, some 1, none, none, 4, some 21⟩ := by
  rcases of_get?_insert hr with hnew | ⟨-, hr⟩
  · exact .inl hnew
  · rcases of_get?_insert hr with hnew | ⟨-, hr⟩
    · exact .inr hnew
    · cases hr

theorem unique_lostResponse : refreshTokens.Unique lostResponse := by
  intro k k' r r' hr hr' hcol
  rcases rows_lostResponse hr with ⟨rfl, rfl⟩ | ⟨rfl, rfl⟩ <;>
    rcases rows_lostResponse hr' with ⟨rfl, rfl⟩ | ⟨rfl, rfl⟩
  · rfl
  · exact absurd hcol (by decide)
  · exact absurd hcol (by decide)
  · rfl

theorem allDecode_lostResponse : AllDecode lostResponse := by
  intro k r hr
  have hdecodes : Decodes r := by
    rcases rows_lostResponse hr with ⟨-, rfl⟩ | ⟨-, rfl⟩
    · exact ⟨fun _ => rfl, fun _ => rfl⟩
    · exact ⟨fun _ => rfl, fun hnone => by cases hnone⟩
  exact ⟨hdecodes, toRefreshToken_of_decodes hdecodes k⟩

/-- The first token comes once more while its successor is exchanged, and revokes it. -/
theorem consumed_and_revoked : refreshTokens.Unique lostResponse ∧ AllDecode lostResponse ∧
    ∃ (xs : List (Bool × Action)) (c : State Bool),
      (start lostResponse bothTokens).run xs = some c ∧ ¬AllDecode c.data := by
  let xs : List (Bool × Action) := List.replicate 4 (true, .advance) ++
    List.replicate 8 (false, .advance) ++ List.replicate 6 (true, .advance)
  have hbad : ((start lostResponse bothTokens).run xs).any (fun c =>
      (c.data.oauth2RefreshTokens.get? 21).any (fun r =>
        r.consumedAt.isSome && r.revokedAt.isSome)) := by
    decide +kernel
  obtain ⟨c, hc, hany⟩ := (Option.any_eq_true _ _).mp hbad
  obtain ⟨r, hr, hboth⟩ := (Option.any_eq_true _ _).mp hany
  obtain ⟨hconsumed, hrevoked⟩ := Bool.and_eq_true_iff.mp hboth
  refine ⟨unique_lostResponse, allDecode_lostResponse, xs, c, hc, fun hdecode => ?_⟩
  rw [(hdecode 21 r hr).1.1 hconsumed] at hrevoked
  cases hrevoked

/-- The first token alone, presented twice: its successor is revoked. -/
theorem allDecode_lost_successor : ∃ c,
    (start lostResponse bothTokens).run (List.replicate 10 (true, .advance)) = some c ∧
      c.hasCommitted true ∧ AllDecode c.data := by
  have hrun : ((start lostResponse bothTokens).run (List.replicate 10 (true, .advance))).any
      (·.hasCommitted true) := by
    decide +kernel
  obtain ⟨c, hc, hcommitted⟩ := (Option.any_eq_true _ _).mp hrun
  exact ⟨c, hc, hcommitted, allDecode_of_unsettled unique_lostResponse allDecode_lostResponse
    (by decide +kernel) hc⟩

end Race

end Pasion.RefreshRace
