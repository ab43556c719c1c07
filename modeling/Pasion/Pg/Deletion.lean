import Pasion.Pg.BrowserSession
import Pasion.Pg.OAuth2Session
import Pasion.Relational.Loop

/-! Deletions of upstream providers and of clients, with everything that belongs to them. -/
namespace Pasion

open Relational Txn Table

variable {ε : Type} [FromRepository ε]

def UpstreamOAuthProviderRepository.deleteById (id : Ulid) : Repo ε Unit := do
  let _ ← Repo.deleteRows .upstreamOAuthAuthorizationSessions
    (·.upstreamOAuthAuthorizationSessions.keysWhere (·.upstreamOAuthProviderId = id))
  let _ ← Repo.deleteRows .upstreamOAuthLinks
    (·.upstreamOAuthLinks.keysWhere (·.upstreamOAuthProviderId = id))
  Repo.deleteRow .upstreamOAuthProviders (·.upstreamOAuthProviders.contains id) id

section Provider

/-- The data after each of the three statements. -/
def Database.withoutSessionsOf (p : Ulid) (db : Database) : Database :=
  db.delete .upstreamOAuthAuthorizationSessions
    (· ∈ db.upstreamOAuthAuthorizationSessions.keysWhere (·.upstreamOAuthProviderId = p))

@[inherit_doc Database.withoutSessionsOf]
def Database.withoutLinksOf (p : Ulid) (db : Database) : Database :=
  (db.withoutSessionsOf p).delete .upstreamOAuthLinks
    (· ∈ db.upstreamOAuthLinks.keysWhere (·.upstreamOAuthProviderId = p))

@[inherit_doc Database.withoutSessionsOf]
def Database.withoutProvider (p : Ulid) (db : Database) : Database :=
  (db.withoutLinksOf p).delete .upstreamOAuthProviders (· ∈ [p])

variable {db db' : Database} {p : Ulid}

theorem get?_session_withoutProvider {id : Ulid} {s : UpstreamOAuthAuthorizationSessionRow} :
    (db.withoutProvider p).upstreamOAuthAuthorizationSessions.get? id = some s ↔
      db.upstreamOAuthAuthorizationSessions.get? id = some s ∧ s.upstreamOAuthProviderId ≠ p := by
  have hget := get?_deleteKeys_keysWhere (t := db.upstreamOAuthAuthorizationSessions)
    (p := (·.upstreamOAuthProviderId = p)) (k := id) (r := s)
  rwa [decide_eq_false_iff_not] at hget

theorem get?_link_withoutProvider {id : Ulid} {l : UpstreamOAuthLinkRow} :
    (db.withoutProvider p).upstreamOAuthLinks.get? id = some l ↔
      db.upstreamOAuthLinks.get? id = some l ∧ l.upstreamOAuthProviderId ≠ p := by
  have hget := get?_deleteKeys_keysWhere (t := db.upstreamOAuthLinks)
    (p := (·.upstreamOAuthProviderId = p)) (k := id) (r := l)
  rwa [decide_eq_false_iff_not] at hget

theorem stranded_withoutSessionsOf : db.stranded (db.withoutSessionsOf p) = false ↔
      ∀ id r session s, db.userSessionAuthentications.get? id = some r →
        r.upstreamOAuthAuthorizationSessionId = some session →
        db.upstreamOAuthAuthorizationSessions.get? session = some s →
        s.upstreamOAuthProviderId ≠ p := by
  have hrestricting : ForeignKey.restricting .upstreamOAuthAuthorizationSessions =
      [.userSessionAuthenticationsUpstreamOAuthAuthorizationSessionId] := rfl
  rw [Database.withoutSessionsOf, Database.stranded_delete, hrestricting, List.any_cons,
    List.any_nil, Bool.or_false]
  refine (Reference.not_strands_iff (fun id => contains_deleteKeys _ id) ?_).trans ?_
  · exact fun id hid => contains_of_mem_keysWhere (of_decide_eq_true hid)
  · refine forall₃_congr fun id r session => ?_
    simp only [decide_eq_false_iff_not, mem_keysWhere, not_exists, not_and,
      decide_eq_true_eq]
    exact ⟨fun h s hr hsession => h hr hsession s, fun h hr hsession s => h s hr hsession⟩

theorem stranded_withoutLinksOf : (db.withoutSessionsOf p).stranded (db.withoutLinksOf p) = false ↔
      ∀ id s link l, db.upstreamOAuthAuthorizationSessions.get? id = some s →
        s.upstreamOAuthProviderId ≠ p → s.upstreamOAuthLinkId = some link →
        db.upstreamOAuthLinks.get? link = some l → l.upstreamOAuthProviderId ≠ p := by
  have hrestricting : ForeignKey.restricting .upstreamOAuthLinks =
      [.upstreamOAuthAuthorizationSessionsUpstreamOAuthLinkId] := rfl
  rw [Database.withoutLinksOf, Database.stranded_delete, hrestricting, List.any_cons,
    List.any_nil, Bool.or_false]
  refine (Reference.not_strands_iff (fun id => contains_deleteKeys _ id) ?_).trans ?_
  · exact fun id hid => contains_of_mem_keysWhere (of_decide_eq_true hid)
  · refine forall₃_congr fun id s link => ?_
    simp only [decide_eq_false_iff_not, mem_keysWhere, not_exists, not_and,
      decide_eq_true_eq]
    constructor
    · intro h l hs hother hlink hl
      exact h (get?_session_withoutProvider.mpr ⟨hs, hother⟩) hlink l hl
    · intro h hs hlink l hl
      obtain ⟨hs, hother⟩ := get?_session_withoutProvider.mp hs
      exact h l hs hother hlink hl

/-- With its sessions and its links gone, nothing refers to a provider. -/
theorem stranded_withoutProvider :
    (db.withoutLinksOf p).stranded (db.withoutProvider p) = false := by
  have hrestricting : ForeignKey.restricting .upstreamOAuthProviders =
      [.upstreamOAuthLinksUpstreamOAuthProviderId,
        .upstreamOAuthAuthorizationSessionsUpstreamOAuthProviderId] := rfl
  have hkeys := fun id => contains_deleteKeys
    (t := (db.withoutLinksOf p).upstreamOAuthProviders) (· ∈ [p]) id
  rw [Database.withoutProvider, Database.stranded_delete, hrestricting, List.any_cons,
    List.any_cons, List.any_nil, Bool.or_false, Bool.or_eq_false_iff]
  constructor
  · refine Reference.not_strands_of_not_mem hkeys fun x hx hmem => ?_
    obtain ⟨id, l, hl, hcell⟩ := mem_column.mp hmem
    cases hcell
    exact (get?_link_withoutProvider.mp hl).2 (by simpa using hx)
  · refine Reference.not_strands_of_not_mem hkeys fun x hx hmem => ?_
    obtain ⟨id, s, hs, hcell⟩ := mem_column.mp hmem
    cases hcell
    exact (get?_session_withoutProvider.mp hs).2 (by simpa using hx)

theorem returns_deleteById :
    (UpstreamOAuthProviderRepository.deleteById p : Repo ε _).Returns db () db' ↔
      db.upstreamOAuthProviders.contains p ∧ db.stranded (db.withoutSessionsOf p) = false ∧
      (db.withoutSessionsOf p).stranded (db.withoutLinksOf p) = false ∧
      db.withoutProvider p = db' := by
  simp only [UpstreamOAuthProviderRepository.deleteById, returns_bind, Repo.returns_deleteRows,
    Repo.returns_deleteRow]
  constructor
  · rintro ⟨_, _, ⟨h₁, -, rfl⟩, _, _, ⟨h₂, -, rfl⟩, hp, -, rfl⟩
    exact ⟨hp, h₁, h₂, rfl⟩
  · rintro ⟨hp, h₁, h₂, rfl⟩
    exact ⟨_, _, ⟨h₁, rfl, rfl⟩, _, _, ⟨h₂, rfl, rfl⟩, hp, stranded_withoutProvider, rfl⟩

/-- A provider goes unless sessions that stay refer to its sessions or links. -/
theorem deletes_provider_iff {p : Ulid} (hp : db.upstreamOAuthProviders.contains p) :
    (∃ db', (UpstreamOAuthProviderRepository.deleteById p : Repo DatabaseError _).Returns db () db' ∧
      (∀ id l, db'.upstreamOAuthLinks.get? id = some l → l.upstreamOAuthProviderId ≠ p) ∧
      (∀ id s, db'.upstreamOAuthAuthorizationSessions.get? id = some s →
        s.upstreamOAuthProviderId ≠ p) ∧
      (∀ id l, l.upstreamOAuthProviderId ≠ p →
        (db'.upstreamOAuthLinks.get? id = some l ↔ db.upstreamOAuthLinks.get? id = some l)) ∧
      ∀ id s, s.upstreamOAuthProviderId ≠ p →
        (db'.upstreamOAuthAuthorizationSessions.get? id = some s ↔
          db.upstreamOAuthAuthorizationSessions.get? id = some s)) ↔
    (∀ id r session s, db.userSessionAuthentications.get? id = some r →
      r.upstreamOAuthAuthorizationSessionId = some session →
      db.upstreamOAuthAuthorizationSessions.get? session = some s →
      s.upstreamOAuthProviderId ≠ p) ∧
    ∀ id s link l, db.upstreamOAuthAuthorizationSessions.get? id = some s →
      s.upstreamOAuthProviderId ≠ p → s.upstreamOAuthLinkId = some link →
      db.upstreamOAuthLinks.get? link = some l → l.upstreamOAuthProviderId ≠ p := by
  rw [← stranded_withoutSessionsOf, ← stranded_withoutLinksOf]
  constructor
  · rintro ⟨db', hreturns, -⟩
    obtain ⟨-, hsessions, hlinks, -⟩ := returns_deleteById.mp hreturns
    exact ⟨hsessions, hlinks⟩
  · rintro ⟨hsessions, hlinks⟩
    refine ⟨_, returns_deleteById.mpr ⟨hp, hsessions, hlinks, rfl⟩, ?_, ?_, ?_, ?_⟩
    · intro id l hl
      exact (get?_link_withoutProvider.mp hl).2
    · intro id s hs
      exact (get?_session_withoutProvider.mp hs).2
    · intro id l hother
      exact get?_link_withoutProvider.trans (and_iff_left hother)
    · intro id s hother
      exact get?_session_withoutProvider.trans (and_iff_left hother)

def loggedInUpstream : Database := { Database.alice with
  userSessions := Table.empty.insert 2 ⟨1, 0, none, none, none, none⟩
  userSessionAuthentications := Table.empty.insert 3 ⟨2, 0, none, some 6⟩
  upstreamOAuthProviders := Table.empty.insert 4
    ⟨none, none, none, "config", 0, 0, none, none, .default⟩
  upstreamOAuthLinks := Table.empty.insert 5 ⟨4, some 1, "alice", none, 0, 0⟩
  upstreamOAuthAuthorizationSessions := Table.empty.insert 6
    ⟨4, some 5, none, none, none, none, some 0, some 0, none, some 2, "state"⟩ }

theorem provider_with_login_stays : loggedInUpstream.foreignKeysHold ∧
    loggedInUpstream.upstreamOAuthProviders.contains 4 ∧
    ¬(UpstreamOAuthProviderRepository.deleteById 4 : Repo DatabaseError _).Succeeds
      loggedInUpstream := by
  decide +kernel

def linkedOnly : Database := { loggedInUpstream with userSessionAuthentications := .empty }

theorem deletes_linked_provider : linkedOnly.upstreamOAuthProviders.contains 4 ∧
    ∃ db', (UpstreamOAuthProviderRepository.deleteById 4 : Repo DatabaseError _).Returns
      linkedOnly () db' := by
  have hp : linkedOnly.upstreamOAuthProviders.contains 4 := by decide
  refine ⟨hp, Exists.imp (fun _ h => h.1) ((deletes_provider_iff hp).mpr ⟨?_, ?_⟩)⟩
  · intro id r session s hr
    cases hr
  · intro id s link l hs hother
    obtain ⟨-, rfl⟩ | ⟨-, hs⟩ := of_get?_insert hs
    · exact absurd rfl hother
    · cases hs

end Provider

namespace OAuth2ClientRepository

def sessionsOf (clientId : Ulid) (db : Database) : List Ulid :=
  db.oauth2Sessions.keysWhere (·.oauth2ClientId = clientId)

def personalSessionsOf (clientId : Ulid) (db : Database) : List Ulid :=
  db.personalSessions.keysWhere (·.ownerOAuth2ClientId = some clientId)

def deleteById (id : Ulid) : Repo ε Unit := do
  let _ ← Repo.deleteRows .oauth2AuthorizationGrants
    (·.oauth2AuthorizationGrants.keysWhere (·.oauth2ClientId = id))
  let _ ← Repo.deleteRows .oauth2AccessTokens
    (fun db => db.oauth2AccessTokens.keysWhere (·.oauth2SessionId ∈ sessionsOf id db))
  let _ ← Repo.deleteRows .oauth2RefreshTokens
    (fun db => db.oauth2RefreshTokens.keysWhere (·.oauth2SessionId ∈ sessionsOf id db))
  let _ ← Repo.deleteRows .oauth2Sessions (sessionsOf id)
  let _ ← Repo.deleteRows .personalAccessTokens
    (fun db => db.personalAccessTokens.keysWhere (·.personalSessionId ∈ personalSessionsOf id db))
  let _ ← Repo.deleteRows .personalSessions (personalSessionsOf id)
  Repo.deleteRow .oauth2Clients (·.oauth2Clients.contains id) id

end OAuth2ClientRepository

section Client

open OAuth2ClientRepository

/-- Without a client, its grants and device codes, and its sessions with their tokens. -/
def Database.withoutClient (c : Ulid) (db : Database) : Database := { db with
  oauth2Clients := db.oauth2Clients.deleteKeys (· ∈ [c])
  oauth2ClientLocalizedMetadata :=
    db.oauth2ClientLocalizedMetadata.delete (fun _ r => r.clientId = c)
  oauth2Sessions := db.oauth2Sessions.delete (fun _ r => r.oauth2ClientId = c)
  oauth2AccessTokens :=
    db.oauth2AccessTokens.delete (fun _ r => r.oauth2SessionId ∈ sessionsOf c db)
  oauth2RefreshTokens :=
    db.oauth2RefreshTokens.delete (fun _ r => r.oauth2SessionId ∈ sessionsOf c db)
  oauth2AuthorizationGrants := db.oauth2AuthorizationGrants.delete (fun _ r => r.oauth2ClientId = c)
  oauth2DeviceCodeGrant := db.oauth2DeviceCodeGrant.delete (fun _ r => r.oauth2ClientId = c)
  personalSessions := db.personalSessions.delete (fun _ r => r.ownerOAuth2ClientId = some c)
  personalAccessTokens :=
    db.personalAccessTokens.delete (fun _ r => r.personalSessionId ∈ personalSessionsOf c db) }

/-- No row of another client refers to a session or a token of this one. -/
structure Database.KeepsToItself (c : Ulid) (db : Database) : Prop where
  grants : ∀ id g s, db.oauth2AuthorizationGrants.get? id = some g → g.oauth2SessionId = some s →
    s ∈ sessionsOf c db → g.oauth2ClientId = c
  deviceGrants : ∀ id g s, db.oauth2DeviceCodeGrant.get? id = some g →
    g.oauth2SessionId = some s → s ∈ sessionsOf c db → g.oauth2ClientId = c
  accessTokens : ∀ id t a r, db.oauth2RefreshTokens.get? id = some t →
    t.oauth2AccessTokenId = some a → db.oauth2AccessTokens.get? a = some r →
    r.oauth2SessionId ∈ sessionsOf c db → t.oauth2SessionId ∈ sessionsOf c db
  nextTokens : ∀ id t n r, db.oauth2RefreshTokens.get? id = some t →
    t.nextOAuth2RefreshTokenId = some n → db.oauth2RefreshTokens.get? n = some r →
    r.oauth2SessionId ∈ sessionsOf c db → t.oauth2SessionId ∈ sessionsOf c db

variable {db : Database} {c : Ulid}

/-- The refresh tokens that stay lose no reference. -/
theorem refreshTokens_withoutClient {t cleared : Table Ulid OAuth2RefreshTokenRow}
    {accessGone : Ulid → Bool} (sessions : List Ulid)
    (hcleared : cleared = t.setNull (·.oauth2AccessTokenId) ({ · with oauth2AccessTokenId := none })
      accessGone)
    (haccess : ∀ id r a, t.get? id = some r → r.oauth2AccessTokenId = some a → accessGone a →
      r.oauth2SessionId ∈ sessions)
    (hnext : ∀ id r n r', t.get? id = some r → r.nextOAuth2RefreshTokenId = some n →
      t.get? n = some r' → r'.oauth2SessionId ∈ sessions → r.oauth2SessionId ∈ sessions) :
    (cleared.deleteKeys (· ∈ cleared.keysWhere (·.oauth2SessionId ∈ sessions))).setNull
      (·.nextOAuth2RefreshTokenId) ({ · with nextOAuth2RefreshTokenId := none })
      (· ∈ cleared.keysWhere (·.oauth2SessionId ∈ sessions)) =
    t.delete (fun _ r => r.oauth2SessionId ∈ sessions) := by
  let own (r : OAuth2RefreshTokenRow) : Bool := r.oauth2SessionId ∈ sessions
  have hgone : cleared.deleteKeys (· ∈ cleared.keysWhere own) = t.delete (fun _ r => own r) := by
    rw [deleteKeys_keysWhere, hcleared]
    refine delete_setNull (p := own) (fun _ => rfl) fun id r a hr hother ha => ?_
    rw [Bool.eq_false_iff]
    exact fun hg => of_decide_eq_false hother (haccess id r a hr ha hg)
  rw [hgone]
  refine setNull_eq_self fun id r n hr hn => ?_
  obtain ⟨hr, hother⟩ := get?_delete_eq_some.mp hr
  refine decide_eq_false fun hmem => of_decide_eq_false hother ?_
  rw [hcleared, mem_keysWhere_setNull] at hmem
  · obtain ⟨r', hr', hsession⟩ := mem_keysWhere.mp hmem
    exact hnext id r n r' hr hn hr' (of_decide_eq_true hsession)
  · exact fun _ => rfl

theorem deviceGrants_withoutClient (h : db.KeepsToItself c) :
    (db.oauth2DeviceCodeGrant.cascade (·.oauth2SessionId) (· ∈ sessionsOf c db)).cascade
      (some ·.oauth2ClientId) (· ∈ [c]) =
    db.oauth2DeviceCodeGrant.delete (fun _ r => r.oauth2ClientId = c) := by
  refine ext_get? fun id => ?_
  simp only [Table.cascade, get?_delete]
  cases hg : db.oauth2DeviceCodeGrant.get? id with
  | none => rfl
  | some g =>
    by_cases hown : g.oauth2ClientId = c
    · cases hsession : g.oauth2SessionId.any (· ∈ sessionsOf c db) <;>
        simp [Option.filter, hown, hsession]
    · have hkept : g.oauth2SessionId.any (· ∈ sessionsOf c db) = false := by
        cases hs : g.oauth2SessionId with
        | none => rfl
        | some s => exact decide_eq_false fun hmem => hown (h.deviceGrants id g s hg hs hmem)
      simp [Option.filter, hown, hkept]

theorem cascade_metadata : db.oauth2ClientLocalizedMetadata.cascade (some ·.clientId) (· ∈ [c]) =
      db.oauth2ClientLocalizedMetadata.delete (fun _ r => r.clientId = c) := by
  simp only [Table.cascade, Option.any_some, List.mem_singleton]

/-- No session, grant or personal session refers to the client any more. -/
theorem stranded_oauth2Clients (hsessions : ∀ id r, db.oauth2Sessions.get? id = some r →
      r.oauth2ClientId ≠ c)
    (hgrants : ∀ id r, db.oauth2AuthorizationGrants.get? id = some r → r.oauth2ClientId ≠ c)
    (hpersonal : ∀ id r, db.personalSessions.get? id = some r → r.ownerOAuth2ClientId ≠ some c) :
    db.stranded (db.delete .oauth2Clients (· ∈ [c])) = false := by
  have hrestricting : ForeignKey.restricting .oauth2Clients =
      [.oauth2SessionsOAuth2ClientId, .oauth2AuthorizationGrantsOAuth2ClientId,
        .personalSessionsOwnerOAuth2ClientId] := rfl
  have hkeys := fun id => contains_deleteKeys (t := db.oauth2Clients) (· ∈ [c]) id
  rw [Database.stranded_delete, hrestricting, List.any_cons, List.any_cons, List.any_cons,
    List.any_nil, Bool.or_false, Bool.or_eq_false_iff, Bool.or_eq_false_iff]
  refine ⟨?_, ?_, ?_⟩ <;> refine Reference.not_strands_of_not_mem hkeys fun x hx hmem => ?_ <;>
    obtain ⟨id, r, hr, hcell⟩ := mem_column.mp hmem <;>
    obtain rfl : x = c := by simpa using hx
  · exact hsessions id r hr (Option.some.inj hcell)
  · exact hgrants id r hr (Option.some.inj hcell)
  · exact hpersonal id r hr hcell

theorem stranded_personalSessions {ids : List Ulid}
    (htokens : ∀ id r, db.personalAccessTokens.get? id = some r → r.personalSessionId ∉ ids) :
    db.stranded (db.delete .personalSessions (· ∈ ids)) = false := by
  have hrestricting : ForeignKey.restricting .personalSessions =
      [.personalAccessTokensPersonalSessionId] := rfl
  have hkeys := fun id => contains_deleteKeys (t := db.personalSessions) (· ∈ ids) id
  rw [Database.stranded_delete, hrestricting, List.any_cons, List.any_nil, Bool.or_false]
  refine Reference.not_strands_of_not_mem hkeys fun x hx hmem => ?_
  obtain ⟨id, r, hr, hcell⟩ := mem_column.mp hmem
  cases hcell
  exact htokens id r hr (of_decide_eq_true hx)

/-- The data after each of the statements that come before the client itself is deleted. -/
def Database.withoutGrantsOf (c : Ulid) (db : Database) : Database := { db with
  oauth2AuthorizationGrants :=
    db.oauth2AuthorizationGrants.delete (fun _ r => r.oauth2ClientId = c) }

@[inherit_doc Database.withoutGrantsOf]
def Database.withoutAccessTokensOf (c : Ulid) (db : Database) : Database :=
  { db.withoutGrantsOf c with
    oauth2AccessTokens :=
      db.oauth2AccessTokens.delete (fun _ r => r.oauth2SessionId ∈ sessionsOf c db)
    oauth2RefreshTokens := db.oauth2RefreshTokens.setNull (·.oauth2AccessTokenId)
      ({ · with oauth2AccessTokenId := none })
      (· ∈ db.oauth2AccessTokens.keysWhere (·.oauth2SessionId ∈ sessionsOf c db)) }

@[inherit_doc Database.withoutGrantsOf]
def Database.withoutRefreshTokensOf (c : Ulid) (db : Database) : Database :=
  { db.withoutAccessTokensOf c with
    oauth2RefreshTokens :=
      db.oauth2RefreshTokens.delete (fun _ r => r.oauth2SessionId ∈ sessionsOf c db) }

@[inherit_doc Database.withoutGrantsOf]
def Database.withoutOAuth2SessionsOf (c : Ulid) (db : Database) : Database :=
  { db.withoutRefreshTokensOf c with
    oauth2Sessions := db.oauth2Sessions.delete (fun _ r => r.oauth2ClientId = c)
    oauth2DeviceCodeGrant :=
      db.oauth2DeviceCodeGrant.cascade (·.oauth2SessionId) (· ∈ sessionsOf c db) }

@[inherit_doc Database.withoutGrantsOf]
def Database.withoutPersonalTokensOf (c : Ulid) (db : Database) : Database :=
  { db.withoutOAuth2SessionsOf c with
    personalAccessTokens := db.personalAccessTokens.delete
      (fun _ r => r.personalSessionId ∈ personalSessionsOf c db) }

@[inherit_doc Database.withoutGrantsOf]
def Database.withoutPersonalSessionsOf (c : Ulid) (db : Database) : Database :=
  { db.withoutPersonalTokensOf c with
    personalSessions := db.personalSessions.delete (fun _ r => r.ownerOAuth2ClientId = some c) }

/-- The statements of `deleteById`, each on what those before it have left. -/
theorem returns_deleteGrants : ∃ n, (Repo.deleteRows .oauth2AuthorizationGrants
    (·.oauth2AuthorizationGrants.keysWhere (·.oauth2ClientId = c)) : Repo ε ℕ).Returns db n
    (db.withoutGrantsOf c) := by
  refine ⟨_, Repo.returns_deleteRows.mpr ⟨Database.not_stranded_delete rfl, rfl, ?_⟩⟩
  simp only [Database.delete, deleteKeys_keysWhere]
  rfl

@[inherit_doc returns_deleteGrants]
theorem returns_deleteAccessTokens : ∃ n, (Repo.deleteRows .oauth2AccessTokens
    (fun db => db.oauth2AccessTokens.keysWhere (·.oauth2SessionId ∈ sessionsOf c db)) :
      Repo ε ℕ).Returns (db.withoutGrantsOf c) n (db.withoutAccessTokensOf c) := by
  refine ⟨_, Repo.returns_deleteRows.mpr ⟨Database.not_stranded_delete rfl, rfl, ?_⟩⟩
  simp only [Database.delete, deleteKeys_keysWhere]
  rfl

@[inherit_doc returns_deleteGrants]
theorem returns_deleteRefreshTokens (h : db.KeepsToItself c) :
    ∃ n, (Repo.deleteRows .oauth2RefreshTokens
      (fun db => db.oauth2RefreshTokens.keysWhere (·.oauth2SessionId ∈ sessionsOf c db)) :
        Repo ε ℕ).Returns (db.withoutAccessTokensOf c) n (db.withoutRefreshTokensOf c) := by
  have haccess : ∀ id r a, db.oauth2RefreshTokens.get? id = some r → r.oauth2AccessTokenId = some a →
      decide (a ∈ db.oauth2AccessTokens.keysWhere (·.oauth2SessionId ∈ sessionsOf c db)) →
      r.oauth2SessionId ∈ sessionsOf c db := by
    intro id r a hr ha hgone
    obtain ⟨r', hr', hsession⟩ := mem_keysWhere.mp (of_decide_eq_true hgone)
    exact h.accessTokens id r a r' hr ha hr' (of_decide_eq_true hsession)
  refine ⟨_, Repo.returns_deleteRows.mpr ⟨Database.not_stranded_delete rfl, rfl, ?_⟩⟩
  rw [Database.withoutRefreshTokensOf,
    ← refreshTokens_withoutClient (sessionsOf c db) rfl haccess h.nextTokens]
  rfl

@[inherit_doc returns_deleteGrants]
theorem returns_deleteOAuth2Sessions (h : db.KeepsToItself c) :
    ∃ n, (Repo.deleteRows .oauth2Sessions (sessionsOf c) : Repo ε ℕ).Returns
      (db.withoutRefreshTokensOf c) n (db.withoutOAuth2SessionsOf c) := by
  have hids : ∀ id ∈ sessionsOf c (db.withoutRefreshTokensOf c),
      (db.withoutRefreshTokensOf c).oauth2Sessions.contains id :=
    fun _ => contains_of_mem_keysWhere
  refine ⟨_, Repo.returns_deleteRows.mpr ⟨?_, rfl, ?_⟩⟩
  · refine (OAuth2SessionRepository.stranded_oauth2Sessions hids).mpr ⟨?_, ?_, ?_⟩
    · exact fun id r hr => of_decide_eq_false (get?_delete_eq_some.mp hr).2
    · exact fun id r hr => of_decide_eq_false (get?_delete_eq_some.mp hr).2
    · intro id r s hr hs hmem
      obtain ⟨hr, hother⟩ := get?_delete_eq_some.mp hr
      exact of_decide_eq_false hother (h.grants id r s hr hs hmem)
  · have hkeys : db.oauth2Sessions.deleteKeys (· ∈ sessionsOf c db) =
        db.oauth2Sessions.delete (fun _ r => r.oauth2ClientId = c) := deleteKeys_keysWhere _
    rw [Database.withoutOAuth2SessionsOf, ← hkeys]
    rfl

@[inherit_doc returns_deleteGrants]
theorem returns_deletePersonalTokens : ∃ n, (Repo.deleteRows .personalAccessTokens
    (fun db => db.personalAccessTokens.keysWhere
      (·.personalSessionId ∈ personalSessionsOf c db)) : Repo ε ℕ).Returns
      (db.withoutOAuth2SessionsOf c) n (db.withoutPersonalTokensOf c) := by
  refine ⟨_, Repo.returns_deleteRows.mpr ⟨Database.not_stranded_delete rfl, rfl, ?_⟩⟩
  simp only [Database.delete, deleteKeys_keysWhere]
  rfl

@[inherit_doc returns_deleteGrants]
theorem returns_deletePersonalSessions :
    ∃ n, (Repo.deleteRows .personalSessions (personalSessionsOf c) : Repo ε ℕ).Returns
      (db.withoutPersonalTokensOf c) n (db.withoutPersonalSessionsOf c) := by
  refine ⟨_, Repo.returns_deleteRows.mpr ⟨?_, rfl, ?_⟩⟩
  · exact stranded_personalSessions fun id r hr =>
      of_decide_eq_false (get?_delete_eq_some.mp hr).2
  · have hkeys : db.personalSessions.deleteKeys (· ∈ personalSessionsOf c db) =
        db.personalSessions.delete (fun _ r => r.ownerOAuth2ClientId = some c) :=
      deleteKeys_keysWhere _
    rw [Database.withoutPersonalSessionsOf, ← hkeys]
    rfl

@[inherit_doc returns_deleteGrants]
theorem returns_deleteClientRow (hc : db.oauth2Clients.contains c) (h : db.KeepsToItself c) :
    (Repo.deleteRow .oauth2Clients (·.oauth2Clients.contains c) c : Repo ε Unit).Returns
      (db.withoutPersonalSessionsOf c) () (db.withoutClient c) := by
  refine Repo.returns_deleteRow.mpr ⟨hc, ?_, ?_⟩
  · refine stranded_oauth2Clients (fun id r hr => ?_) (fun id r hr => ?_) fun id r hr => ?_ <;>
      exact of_decide_eq_false (get?_delete_eq_some.mp hr).2
  · simp only [Database.delete, Database.withoutPersonalSessionsOf, Database.withoutPersonalTokensOf,
      Database.withoutOAuth2SessionsOf, Database.withoutRefreshTokensOf,
      Database.withoutAccessTokensOf, Database.withoutGrantsOf, deviceGrants_withoutClient h,
      cascade_metadata, Database.withoutClient]

theorem returns_deleteClient (hc : db.oauth2Clients.contains c) (h : db.KeepsToItself c) :
    (OAuth2ClientRepository.deleteById c : Repo ε _).Returns db () (db.withoutClient c) := by
  obtain ⟨_, hgrants⟩ := returns_deleteGrants (ε := ε) (c := c)
  obtain ⟨_, haccess⟩ := returns_deleteAccessTokens (ε := ε) (c := c)
  obtain ⟨_, hrefresh⟩ := returns_deleteRefreshTokens (ε := ε) h
  obtain ⟨_, hsessions⟩ := returns_deleteOAuth2Sessions (ε := ε) h
  obtain ⟨_, hpersonalTokens⟩ := returns_deletePersonalTokens (ε := ε) (c := c)
  obtain ⟨_, hpersonal⟩ := returns_deletePersonalSessions (ε := ε) (c := c)
  simp only [OAuth2ClientRepository.deleteById, returns_bind]
  exact ⟨_, _, hgrants, _, _, haccess, _, _, hrefresh, _, _, hsessions, _, _, hpersonalTokens,
    _, _, hpersonal, returns_deleteClientRow hc h⟩

/-- The other deletions leave the clients with their texts. -/
theorem clients_deleteRows {table : DeletableTable} {ids : Database → List Ulid} {n : ℕ}
    {db' : Database} (htable : table ≠ .oauth2Clients)
    (h : (Repo.deleteRows table ids : Repo ε ℕ).Returns db n db') :
    db'.oauth2Clients = db.oauth2Clients ∧
      db'.oauth2ClientLocalizedMetadata = db.oauth2ClientLocalizedMetadata := by
  obtain ⟨-, -, rfl⟩ := Repo.returns_deleteRows.mp h
  cases table <;> first | exact absurd rfl htable | exact ⟨rfl, rfl⟩

theorem OAuth2ClientRepository.of_returns_deleteById {db' : Database}
    (h : (deleteById c : Repo ε _).Returns db () db') :
    db'.oauth2Clients = db.oauth2Clients.deleteKeys (· ∈ [c]) ∧ db'.oauth2ClientLocalizedMetadata =
        db.oauth2ClientLocalizedMetadata.delete (fun _ r => r.clientId = c) := by
  obtain ⟨_, db₁, h₁, h⟩ := returns_bind.mp h
  obtain ⟨_, db₂, h₂, h⟩ := returns_bind.mp h
  obtain ⟨_, db₃, h₃, h⟩ := returns_bind.mp h
  obtain ⟨_, db₄, h₄, h⟩ := returns_bind.mp h
  obtain ⟨_, db₅, h₅, h⟩ := returns_bind.mp h
  obtain ⟨_, db₆, h₆, h⟩ := returns_bind.mp h
  obtain ⟨-, -, rfl⟩ := Repo.returns_deleteRow.mp h
  obtain ⟨hc₁, hm₁⟩ := clients_deleteRows (by decide) h₁
  obtain ⟨hc₂, hm₂⟩ := clients_deleteRows (by decide) h₂
  obtain ⟨hc₃, hm₃⟩ := clients_deleteRows (by decide) h₃
  obtain ⟨hc₄, hm₄⟩ := clients_deleteRows (by decide) h₄
  obtain ⟨hc₅, hm₅⟩ := clients_deleteRows (by decide) h₅
  obtain ⟨hc₆, hm₆⟩ := clients_deleteRows (by decide) h₆
  rw [← hc₁, ← hc₂, ← hc₃, ← hc₄, ← hc₅, ← hc₆, ← hm₁, ← hm₂, ← hm₃, ← hm₄, ← hm₅, ← hm₆]
  exact ⟨rfl, cascade_metadata⟩

def Database.refersToClient (c : Ulid) (db : Database) : Bool :=
  db.oauth2Sessions.any (fun _ r => r.oauth2ClientId = c) ||
  db.oauth2AuthorizationGrants.any (fun _ r => r.oauth2ClientId = c) ||
  db.oauth2DeviceCodeGrant.any (fun _ r => r.oauth2ClientId = c) ||
  db.oauth2ClientLocalizedMetadata.any (fun _ r => r.clientId = c) ||
  db.personalSessions.any (fun _ r => r.ownerOAuth2ClientId = some c)

def Database.refersToSession (s : Ulid) (db : Database) : Bool :=
  db.oauth2AccessTokens.any (fun _ r => r.oauth2SessionId = s) ||
  db.oauth2RefreshTokens.any (fun _ r => r.oauth2SessionId = s) ||
  db.oauth2AuthorizationGrants.any (fun _ r => r.oauth2SessionId = some s) ||
  db.oauth2DeviceCodeGrant.any (fun _ r => r.oauth2SessionId = some s)

theorem any_delete_eq_false {K R : Type} [LinearOrder K] {t : Table K R} {p q : K → R → Bool}
    (h : ∀ k r, t.get? k = some r → q k r → p k r) : (t.delete p).any q = false := by
  rw [Bool.eq_false_iff, ne_eq, any_iff]
  rintro ⟨k, r, hr, hq⟩
  obtain ⟨hr, hp⟩ := get?_delete_eq_some.mp hr
  simp [h k r hr hq] at hp

theorem refersToClient_withoutClient : (db.withoutClient c).refersToClient c = false := by
  simp only [Database.refersToClient, Database.withoutClient, Bool.or_eq_false_iff]
  refine ⟨⟨⟨⟨?_, ?_⟩, ?_⟩, ?_⟩, ?_⟩ <;> exact any_delete_eq_false fun _ _ _ hq => hq

theorem refersToSession_withoutClient (h : db.KeepsToItself c) {s : Ulid}
    (hs : s ∈ sessionsOf c db) : (db.withoutClient c).refersToSession s = false := by
  simp only [Database.refersToSession, Database.withoutClient, Bool.or_eq_false_iff]
  refine ⟨⟨⟨?_, ?_⟩, ?_⟩, ?_⟩ <;> refine any_delete_eq_false fun id r hr hq => ?_ <;>
    have hq := of_decide_eq_true hq
  · exact decide_eq_true (hq ▸ hs)
  · exact decide_eq_true (hq ▸ hs)
  · exact decide_eq_true (h.grants id r s hr hq hs)
  · exact decide_eq_true (h.deviceGrants id r s hr hq hs)

/-- A client goes with what belongs to it and nothing else, if no other refers to that. -/
theorem deletes_client {c : Ulid} (hc : db.oauth2Clients.contains c) (h : db.KeepsToItself c) :
    (OAuth2ClientRepository.deleteById c : Repo DatabaseError _).Returns db ()
      (db.withoutClient c) ∧
    (db.withoutClient c).refersToClient c = false ∧
    ∀ s ∈ sessionsOf c db, (db.withoutClient c).refersToSession s = false :=
  ⟨returns_deleteClient hc h, refersToClient_withoutClient,
    fun _ hs => refersToSession_withoutClient h hs⟩

def crossedGrant : Database := { Database.alice with
  oauth2Clients := (Table.empty.insert 3 .codeFlow).insert 8 .codeFlow
  oauth2Sessions := Table.empty.insert 4
    ⟨some 1, none, 3, ["openid"], 0, none, none, none, none, none⟩
  oauth2AuthorizationGrants := Table.empty.insert 5
    ⟨0, none, some 0, some 0, "openid", none, none, "https://client/", true, "query", true, false,
      some "code", none, none, none, none, 8, some 4⟩ }

theorem crossed_client_stays : crossedGrant.foreignKeysHold ∧
    crossedGrant.oauth2Clients.contains 3 ∧
    ¬(OAuth2ClientRepository.deleteById 3 : Repo DatabaseError _).Succeeds crossedGrant := by
  decide +kernel

/-- The condition of `deletes_client`, as a check of the rows. -/
def Database.keepsToItself (c : Ulid) (db : Database) : Bool :=
  let own (s : Ulid) : Bool := s ∈ sessionsOf c db
  !db.oauth2AuthorizationGrants.any (fun _ g => g.oauth2SessionId.any own && g.oauth2ClientId ≠ c) &&
  !db.oauth2DeviceCodeGrant.any (fun _ g => g.oauth2SessionId.any own && g.oauth2ClientId ≠ c) &&
  !db.oauth2RefreshTokens.any (fun _ t => t.oauth2AccessTokenId.any
    (fun a => (db.oauth2AccessTokens.get? a).any (own ·.oauth2SessionId)) && !own t.oauth2SessionId) &&
  !db.oauth2RefreshTokens.any (fun _ t => t.nextOAuth2RefreshTokenId.any
    (fun n => (db.oauth2RefreshTokens.get? n).any (own ·.oauth2SessionId)) && !own t.oauth2SessionId)

theorem keepsToItself_iff : db.keepsToItself c ↔ db.KeepsToItself c := by
  have hnone : ∀ {R : Type} (t : Table Ulid R) (p : R → Bool),
      (!t.any (fun _ r => p r)) ↔ ∀ id r, t.get? id = some r → ¬p r := by
    intro R t p
    rw [Bool.not_eq_true', Bool.eq_false_iff, ne_eq, any_iff]
    grind
  simp only [Database.keepsToItself, Bool.and_eq_true, hnone, Option.any_eq_true,
    decide_eq_true_eq, Bool.not_eq_true', decide_eq_false_iff_not]
  constructor
  · rintro ⟨⟨⟨hgrants, hdevice⟩, haccess⟩, hnext⟩
    exact ⟨by grind, by grind, by grind, by grind⟩
  · intro h
    exact ⟨⟨⟨by grind [h.grants], by grind [h.deviceGrants]⟩, by grind [h.accessTokens]⟩,
      by grind [h.nextTokens]⟩

instance : Decidable (db.KeepsToItself c) := decidable_of_iff _ keepsToItself_iff

/-- Two clients of one user, each with a session, tokens, grants and a personal session. -/
def twoClients : Database :=
  let session (c : Ulid) : OAuth2SessionRow :=
    ⟨some 1, none, c, ["openid"], 0, none, none, none, none, none⟩
  let grant (c s : Ulid) (code : String) : AuthorizationGrantRow :=
    ⟨0, none, some 0, some 0, "openid", none, none, "https://client/", true, "query", true, false,
      some code, none, none, none, none, c, some s⟩
  let device (c s : Ulid) (code : String) : DeviceCodeGrantRow :=
    ⟨c, "openid", code, code, 0, 9, some 0, none, some 0, some 2, some s, none, none⟩
  let personal (c : Ulid) : PersonalSessionRow :=
    ⟨none, some c, 1, "token", ["openid"], 0, none, none, none⟩
  { Database.alice with
    userSessions := Table.empty.insert 2 ⟨1, 0, none, none, none, none⟩
    oauth2Clients := (Table.empty.insert 3 .codeFlow).insert 8 .codeFlow
    oauth2ClientLocalizedMetadata := (Table.empty.insert "3" ⟨3, "de", "name", "Drei"⟩).insert "8"
      ⟨8, "de", "name", "Acht"⟩
    oauth2Sessions := (Table.empty.insert 31 (session 3)).insert 81 (session 8)
    oauth2AccessTokens := (Table.empty.insert 32 ⟨31, "at3", 0, none, none, none⟩).insert 82
      ⟨81, "at8", 0, none, none, none⟩
    oauth2RefreshTokens := ((Table.empty.insert 33 ⟨"rt3", 0, some 1, none, none, 31, some 34⟩).insert 34
      ⟨"rt3b", 1, none, none, some 32, 31, none⟩).insert 83 ⟨"rt8", 0, none, none, some 82, 81, none⟩
    oauth2AuthorizationGrants := (Table.empty.insert 35 (grant 3 31 "c3")).insert 85 (grant 8 81 "c8")
    oauth2DeviceCodeGrant := (Table.empty.insert 36 (device 3 31 "d3")).insert 86 (device 8 81 "d8")
    personalSessions := (Table.empty.insert 37 (personal 3)).insert 87 (personal 8)
    personalAccessTokens := (Table.empty.insert 38 ⟨37, [3], 0, none, none⟩).insert 88
      ⟨87, [8], 0, none, none⟩ }

/-- The rows of the other client are those that stay. -/
theorem deletes_one_client : twoClients.foreignKeysHold ∧ sessionsOf 3 twoClients = [31] ∧
    (OAuth2ClientRepository.deleteById 3 : Repo DatabaseError _).Returns twoClients ()
      (twoClients.withoutClient 3) ∧
    (twoClients.withoutClient 3).refersToSession 31 = false ∧
    (twoClients.withoutClient 3).foreignKeysHold ∧
    (twoClients.withoutClient 3).refersToClient 8 ∧
    (twoClients.withoutClient 3).refersToSession 81 := by
  have hc : twoClients.oauth2Clients.contains 3 := by decide +kernel
  have hsessions : sessionsOf 3 twoClients = [31] := by decide +kernel
  obtain ⟨hreturns, -, hgone⟩ := deletes_client hc (by decide +kernel)
  refine ⟨by decide +kernel, hsessions, hreturns, hgone 31 ?_, by decide +kernel⟩
  rw [hsessions]
  exact List.mem_singleton_self 31

end Client

end Pasion
