import Pasion.Pg.Deletion
import Pasion.Pg.StaticClients
import Pasion.Pg.UpstreamProviders

/-! The synchronisation of the configuration with the database. Each statement commits by itself,
so that the data a run leaves are those of `exec`, also when it fails. -/
namespace Pasion.ConfigSync

open Relational Txn Table

inductive SyncError where
  | repository (e : DatabaseError)
  | other (text : String)

instance : FromRepository SyncError := ⟨.repository⟩

/-- `lockKey` is the key of the advisory lock, and the secrets are what reading them gives. -/
structure Env where
  now : Time
  lockKey : ℕ
  encryptToString : String → Except String String
  parseUrl : String → Option Url

structure ProviderConfig where
  id : Ulid
  enabled : Bool
  (clientSecret signInWithApple : Option (Except String String))
  scope : String
  humanName : Option String
  claimsImports : ClaimsImports
  responseMode : Option ResponseMode
  onBackchannelLogout : UpstreamOAuthProviderOnBackchannelLogout

inductive ClientAuthMethodConfig where
  | none
  | clientSecretBasic
  | clientSecretPost
  | clientSecretJwt
  | privateKeyJwt

structure ClientConfig where
  clientId : Ulid
  authMethod : ClientAuthMethodConfig
  clientName : Option String
  clientSecret : Option (Except String String)
  (jwks jwksUri : Option String)
  redirectUris : List Url

def ClientConfig.clientAuthMethod (c : ClientConfig) : OAuthClientAuthenticationMethod :=
  match c.authMethod with
  | .none => .none
  | .clientSecretBasic => .clientSecretBasic
  | .clientSecretPost => .clientSecretPost
  | .clientSecretJwt => .clientSecretJwt
  | .privateKeyJwt => .privateKeyJwt

def ClientConfig.staticClient (c : ClientConfig) (encryptedClientSecret : Option String) :
    StaticClient where
  clientName := c.clientName
  clientAuthMethod := c.clientAuthMethod
  encryptedClientSecret
  jwks := c.jwks
  jwksUri := c.jwksUri
  redirectUris := c.redirectUris

def enabledIds (providers : List ProviderConfig) : List Ulid :=
  (providers.filter (·.enabled)).map (·.id)

/-- The configuration has priority over what was enabled before; what is disabled is collected. -/
def processExisting (env : Env) (dryRun : Bool) (configIds : List Ulid) :
    List UpstreamOAuthProvider → Table Ulid UpstreamOAuthProvider →
      Repo SyncError (Table Ulid UpstreamOAuthProvider)
  | [], existingDisabled => pure existingDisabled
  | provider :: rest, existingDisabled =>
    if provider.enabled then
      if provider.id ∈ configIds then processExisting env dryRun configIds rest existingDisabled
      else do
        let provider ←
          if dryRun then pure provider
          else UpstreamOAuthProviderRepository.disable env.now provider
        processExisting env dryRun configIds rest (existingDisabled.insert provider.id provider)
    else processExisting env dryRun configIds rest (existingDisabled.insert provider.id provider)

def deleteProvider (dryRun : Bool) (id : Ulid) : Repo SyncError Unit :=
  if dryRun then pure () else UpstreamOAuthProviderRepository.deleteById id

/-- The secret, or the key of the other provider in its place. -/
def encryptedClientSecret (env : Env) (p : ProviderConfig) : Except String (Option String) :=
  match p.clientSecret, p.signInWithApple with
  | some secret, _ => do
    let value ← secret
    let encrypted ← env.encryptToString value
    pure (some encrypted)
  | none, some siwa => do
    let encoded ← siwa
    let encrypted ← env.encryptToString encoded
    pure (some encrypted)
  | none, none => pure none

/-- The position in the configuration is the position in the UI. -/
def ProviderConfig.params (p : ProviderConfig) (index : ℕ) : UpstreamOAuthProviderParams where
  humanName := p.humanName
  claimsImports := p.claimsImports
  responseMode := p.responseMode
  uiOrder := min index (2 ^ 31 - 1)
  onBackchannelLogout := p.onBackchannelLogout
  source := .config

/-- A provider with the same id that is managed by hand is left alone. -/
def writeProvider (env : Env) (p : ProviderConfig) (index : ℕ) : Repo SyncError Unit := do
  let _ ← Txn.ofExcept (encryptedClientSecret env p) .other
  let existing ← UpstreamOAuthProviderRepository.lookup p.id
  if existing.any (·.source = .manual) then pure ()
  else do
    let _ ← Txn.ofOption (Scope.fromStr p.scope) (.other "scope")
    let _ ← UpstreamOAuthProviderRepository.upsert env.now p.id (p.params index)
    pure ()

def upsertProvider (env : Env) (dryRun : Bool) (p : ProviderConfig × ℕ) : Repo SyncError Unit :=
  if !p.1.enabled || dryRun then pure () else writeProvider env p.1 p.2

def syncProviders (env : Env) (providers : List ProviderConfig) (prune dryRun : Bool) :
    Repo SyncError Unit := do
  let page ← UpstreamOAuthProviderRepository.list ⟨none, some .config⟩ (.first 1000)
  let existingDisabled ← processExisting env dryRun (enabledIds providers)
    (page.edges.map Prod.snd) .empty
  Txn.forEach (deleteProvider dryRun) (if prune then existingDisabled.keys else [])
  Txn.forEach (upsertProvider env dryRun) providers.zipIdx

def deleteClient (dryRun : Bool) (client : RegisteredClient) : Repo SyncError Unit :=
  if dryRun then pure () else OAuth2ClientRepository.deleteById client.id

def upsertClient (env : Env) (dryRun : Bool) (c : ClientConfig) : Repo SyncError Unit :=
  if dryRun then pure ()
  else do
    let clientSecret ← Txn.ofExcept (c.clientSecret.mapM id) .other
    let encryptedClientSecret ← Txn.ofExcept (clientSecret.mapM env.encryptToString) .other
    let _ ← OAuth2ClientRepository.upsertStatic c.clientId (c.staticClient encryptedClientSecret)
    pure ()

def syncClients (env : Env) (clients : List ClientConfig) (prune dryRun : Bool) :
    Repo SyncError Unit := do
  let existing ← OAuth2ClientRepository.allStatic env.parseUrl
  let toDelete := existing.filter (fun client => client.id ∉ clients.map (·.clientId))
  Txn.forEach (deleteClient dryRun) (if prune then toDelete else [])
  Txn.forEach (upsertClient env dryRun) clients

def configSync (env : Env) (providers : List ProviderConfig) (clients : List ClientConfig)
    (prune dryRun : Bool) : Repo SyncError Unit := do
  Txn.execute (fun _ => ⟨fun db => db, [.advisory env.lockKey]⟩) (fun _ => ())
  syncProviders env providers prune dryRun
  syncClients env clients prune dryRun

/-- What the providers' part of a run leaves alone. -/
def clientTables (db : Database) : Table Ulid OAuth2ClientRow × Table String LocalizedMetadataRow :=
  (db.oauth2Clients, db.oauth2ClientLocalizedMetadata)

/-- What the clients' part of a run leaves alone. -/
def upstreamTables (db : Database) :
    Table Ulid UpstreamOAuthProviderRow × Table Ulid UpstreamOAuthLinkRow ×
      Table Ulid UpstreamOAuthAuthorizationSessionRow :=
  (db.upstreamOAuthProviders, db.upstreamOAuthLinks, db.upstreamOAuthAuthorizationSessions)

variable {env : Env} {providers : List ProviderConfig} {clients : List ClientConfig}
  {prune dryRun : Bool}

section Writes

variable {E : Effect Database LockKey → Prop} (hidle : E .idle)

section Rows

variable (hrow : dryRun = false →
  ∀ (t : Database → Table Ulid UpstreamOAuthProviderRow) (locks : List LockKey),
    E ⟨fun db => { db with upstreamOAuthProviders := t db }, locks⟩)

include hidle hrow

theorem issues_processExisting {configIds : List Ulid} (page : List UpstreamOAuthProvider)
    (existingDisabled : Table Ulid UpstreamOAuthProvider) :
    (processExisting env dryRun configIds page existingDisabled).Issues E := by
  induction page generalizing existingDisabled with
  | nil => exact issues_pure _
  | cons provider rest ih =>
    unfold processExisting
    split_ifs with henabled hconfig hdry
    · exact ih existingDisabled
    · exact (issues_pure _).bind fun _ => ih _
    · refine Txn.Issues.bind ?_ fun _ => ih _
      refine (Repo.issues_updateRow hidle ?_).bind fun _ => issues_pure _
      exact hrow (Bool.eq_false_iff.mpr hdry) _ _
    · exact ih _

theorem issues_upsertProvider (p : ProviderConfig × ℕ) :
    (upsertProvider env dryRun p).Issues E := by
  unfold upsertProvider
  split_ifs with hskipped
  · exact issues_pure _
  · have hdry : dryRun = false := by
      cases dryRun with
      | true => simp at hskipped
      | false => rfl
    refine (issues_ofExcept _ _).bind fun _ => (Repo.issues_fetch _).bind fun existing => ?_
    split_ifs
    · exact issues_pure _
    · refine (issues_ofOption _ _).bind fun _ => Txn.Issues.bind ?_ fun _ => issues_pure _
      refine (Repo.issues_statement hidle fun _ => ?_).bind fun _ => issues_pure _
      exact hrow hdry _ _

end Rows

section Providers

variable (hwrite : dryRun = false → ∀ e : Effect Database LockKey,
  (∀ db, clientTables (e.write db) = clientTables db) → E e)

include hidle hwrite

theorem issues_deleteProvider (id : Ulid) : (deleteProvider dryRun id).Issues E := by
  unfold deleteProvider
  split_ifs with hdry
  · exact issues_pure _
  · have hdelete := hwrite (Bool.eq_false_iff.mpr hdry)
    refine (Repo.issues_deleteRows hidle (fun _ _ => hdelete _ fun _ => rfl) _).bind fun _ => ?_
    refine (Repo.issues_deleteRows hidle (fun _ _ => hdelete _ fun _ => rfl) _).bind fun _ => ?_
    exact Repo.issues_deleteRow hidle (fun _ _ => hdelete _ fun _ => rfl) _ _

theorem issues_syncProviders : (syncProviders env providers prune dryRun).Issues E := by
  have hrow : dryRun = false →
      ∀ (t : Database → Table Ulid UpstreamOAuthProviderRow) (locks : List LockKey),
        E ⟨fun db => { db with upstreamOAuthProviders := t db }, locks⟩ :=
    fun hdry _ _ => hwrite hdry _ fun _ => rfl
  refine (Repo.issues_fetch _).bind fun page => ?_
  refine (issues_processExisting hidle hrow _ _).bind fun existingDisabled => ?_
  refine (issues_forEach (issues_deleteProvider hidle hwrite) _).bind fun _ => ?_
  exact issues_forEach (issues_upsertProvider hidle hrow) _

end Providers

section Clients

variable (hwrite : dryRun = false → ∀ e : Effect Database LockKey,
  (∀ db, upstreamTables (e.write db) = upstreamTables db) → E e)

include hidle hwrite

theorem issues_deleteClient (client : RegisteredClient) :
    (deleteClient dryRun client).Issues E := by
  unfold deleteClient
  split_ifs with hdry
  · exact issues_pure _
  · have hdelete := hwrite (Bool.eq_false_iff.mpr hdry)
    iterate 6
      refine (Repo.issues_deleteRows hidle (fun _ _ => hdelete _ fun _ => rfl) _).bind fun _ => ?_
    exact Repo.issues_deleteRow hidle (fun _ _ => hdelete _ fun _ => rfl) _ _

theorem issues_upsertClient (c : ClientConfig) : (upsertClient env dryRun c).Issues E := by
  unfold upsertClient
  split_ifs with hdry
  · exact issues_pure _
  · refine (issues_ofExcept _ _).bind fun _ => (issues_ofExcept _ _).bind fun _ => ?_
    refine Txn.Issues.bind ?_ fun _ => issues_pure _
    refine (Repo.issues_insert hidle ?_).bind fun _ =>
      (issues_ofOption _ _).bind fun _ => issues_pure _
    exact hwrite (Bool.eq_false_iff.mpr hdry) _ fun _ => rfl

theorem issues_syncClients : (syncClients env clients prune dryRun).Issues E := by
  refine Txn.Issues.bind ((Repo.issues_fetch _).bind fun _ => issues_query _) fun existing => ?_
  refine (issues_forEach (issues_deleteClient hidle hwrite) _).bind fun _ => ?_
  exact issues_forEach (issues_upsertClient hidle hwrite) _

end Clients

end Writes

/-- Every write of the run is behind the test for a dry run. -/
theorem exec_dryRun (db : Database) :
    ((configSync env providers clients prune true).exec db).2 = db := by
  change id _ = id db
  refine Txn.Issues.exec_eq ?_ db
  refine (issues_execute fun _ _ => rfl).bind fun _ => ?_
  refine (issues_syncProviders (fun _ => rfl) (by nofun)).bind fun _ => ?_
  exact issues_syncClients (fun _ => rfl) (by nofun)

section Clients

variable {db db' db'' : Database} {id : Ulid}
variable {client : RegisteredClient} {c : ClientConfig}

def IsStatic (db : Database) (id : Ulid) : Prop :=
  ∃ r, db.oauth2Clients.get? id = some r ∧ r.isStatic = some true

/-- The row of a client is the same, and so are its localized texts. -/
structure SameClient (id : Ulid) (db db' : Database) : Prop where
  row : db'.oauth2Clients.get? id = db.oauth2Clients.get? id
  localized : ∀ key m, m.clientId = id → (db'.oauth2ClientLocalizedMetadata.get? key = some m ↔
      db.oauth2ClientLocalizedMetadata.get? key = some m)

theorem SameClient.of_clientTables (h : clientTables db' = clientTables db) :
    SameClient id db db' := by
  obtain ⟨hclients, hlocalized⟩ := Prod.mk.inj h
  exact ⟨by rw [hclients], fun key m _ => by rw [hlocalized]⟩

theorem SameClient.trans (h : SameClient id db db') (h' : SameClient id db' db'') :
    SameClient id db db'' :=
  ⟨h'.row.trans h.row, fun key m hm => (h'.localized key m hm).trans (h.localized key m hm)⟩

theorem SameClient.isStatic_iff (h : SameClient id db db') : IsStatic db' id ↔ IsStatic db id := by
  unfold IsStatic
  rw [h.row]

theorem get?_deleteClient (h : (deleteClient false client).Returns db () db') :
    db'.oauth2Clients.get? client.id = none := by
  rw [(OAuth2ClientRepository.of_returns_deleteById h).1, get?_deleteKeys]
  simp

theorem sameClient_deleteClient (hother : id ≠ client.id)
    (h : (deleteClient false client).Returns db () db') : SameClient id db db' := by
  obtain ⟨hclients, hlocalized⟩ := OAuth2ClientRepository.of_returns_deleteById h
  constructor
  · rw [hclients, get?_deleteKeys]
    simp [hother]
  · intro key m hm
    rw [hlocalized, get?_delete_eq_some, decide_eq_false_iff_not]
    exact and_iff_left (hm ▸ hother)

theorem returns_upsertClient (h : (upsertClient env false c).Returns db () db') :
    ∃ secret, db' = { db with
      oauth2Clients := db.oauth2Clients.insert c.clientId
        (OAuth2ClientRow.upserted (c.staticClient secret)
          (db.oauth2Clients.get? c.clientId)) } := by
  obtain ⟨_, -, h⟩ := returns_ofExcept_bind.mp h
  obtain ⟨secret, -, h⟩ := returns_ofExcept_bind.mp h
  obtain ⟨_, db₁, hupsert, h⟩ := returns_bind.mp h
  obtain ⟨-, rfl⟩ := returns_pure.mp h
  exact ⟨secret, OAuth2ClientRepository.returns_upsertStatic hupsert⟩

theorem isStatic_upsertClient
    (h : (upsertClient env false c).Returns db () db') : IsStatic db' c.clientId := by
  obtain ⟨secret, rfl⟩ := returns_upsertClient h
  exact ⟨_, by rw [get?_insert, if_pos rfl], OAuth2ClientRow.isStatic_upserted _ _⟩

theorem sameClient_upsertClient (hother : id ≠ c.clientId)
    (h : (upsertClient env false c).Returns db () db') : SameClient id db db' := by
  obtain ⟨secret, rfl⟩ := returns_upsertClient h
  exact ⟨by rw [get?_insert, if_neg hother], fun _ _ _ => Iff.rfl⟩

/-- Deleted and written clients are two sets, and what is in neither stays. -/
theorem returns_syncClients (h : (syncClients env clients true false).Returns db () db') :
    (∀ id, IsStatic db' id ↔ id ∈ clients.map (·.clientId)) ∧
      ∀ id, id ∉ clients.map (·.clientId) → ¬IsStatic db id → SameClient id db db' := by
  obtain ⟨existing, db₀, hexisting, hrest⟩ := returns_bind.mp h
  obtain ⟨rfl, hstatic⟩ := OAuth2ClientRepository.returns_allStatic hexisting
  obtain ⟨_, db₁, hdelete, hupsert⟩ := returns_bind.mp hrest
  have hdeleted : ∀ id, id ∉ clients.map (·.clientId) → IsStatic db₀ id →
      db₁.oauth2Clients.get? id = none := by
    intro id hid hold
    obtain ⟨client, hclient, rfl⟩ := List.mem_map.mp ((hstatic id).mpr hold)
    refine forEach_establishes (P := fun client s => s.oauth2Clients.get? client.id = none)
      (fun _ _ _ _ => get?_deleteClient) (fun b _ b' _ s s' hs hb' => ?_) hdelete client
      (List.mem_filter.mpr ⟨hclient, decide_eq_true hid⟩)
    by_cases hsame : b.id = b'.id
    · rw [hsame]
      exact get?_deleteClient hb'
    · exact (sameClient_deleteClient hsame hb').row.trans hs
  have hkept : ∀ id, ¬IsStatic db₀ id → SameClient id db₀ db₁ := by
    intro id hid
    refine forEach_keeps (I := SameClient id db₀) (fun client hclient s s' hs hs' => ?_)
      ⟨rfl, fun _ _ _ => Iff.rfl⟩ hdelete
    refine hs.trans (sameClient_deleteClient (fun hsame => hid ?_) hs')
    exact (hstatic id).mp (List.mem_map.mpr ⟨client, (List.mem_filter.mp hclient).1, hsame.symm⟩)
  have hsame : ∀ id, id ∉ clients.map (·.clientId) → SameClient id db₁ db' := by
    intro id hid
    refine forEach_keeps (I := SameClient id db₁) (fun c hc s s' hs hs' => ?_)
      ⟨rfl, fun _ _ _ => Iff.rfl⟩ hupsert
    refine hs.trans (sameClient_upsertClient (fun hsame => hid ?_) hs')
    exact List.mem_map.mpr ⟨c, hc, hsame.symm⟩
  refine ⟨fun id => ⟨fun hnew => ?_, fun hid => ?_⟩, fun id hid hold => ?_⟩
  · by_contra hid
    obtain ⟨r, hr, hrstatic⟩ := (hsame id hid).isStatic_iff.mp hnew
    by_cases hold : IsStatic db₀ id
    · rw [hdeleted id hid hold] at hr
      cases hr
    · exact hold ((hkept id hold).isStatic_iff.mp ⟨r, hr, hrstatic⟩)
  · obtain ⟨c, hc, rfl⟩ := List.mem_map.mp hid
    refine forEach_establishes (P := fun c s => IsStatic s c.clientId)
      (fun _ _ _ _ => isStatic_upsertClient) (fun b _ b' _ s s' hs hb' => ?_) hupsert c hc
    by_cases hb : b.clientId = b'.clientId
    · rw [hb]
      exact isStatic_upsertClient hb'
    · exact (sameClient_upsertClient hb hb').isStatic_iff.mpr hs
  · exact (hkept id hold).trans (hsame id hid)

/-- A dry run changes nothing; a pruning run leaves the static clients of the configuration. -/
theorem dryRun_unchanged_and_prune_exact (env : Env) (providers : List ProviderConfig)
    (clients : List ClientConfig) (db : Database) :
    (∀ prune, ((configSync env providers clients prune true).exec db).2 = db) ∧
    ∀ db', (configSync env providers clients true false).Returns db () db' →
      (∀ id, IsStatic db' id ↔ id ∈ clients.map (·.clientId)) ∧
      ∀ id, id ∉ clients.map (·.clientId) → ¬IsStatic db id → SameClient id db db' := by
  refine ⟨fun _ => exec_dryRun db, fun db' h => ?_⟩
  obtain ⟨_, db₀, hlock, h⟩ := returns_bind.mp h
  obtain ⟨-, rfl⟩ := returns_execute.mp hlock
  obtain ⟨_, db₁, hproviders, hclients⟩ := returns_bind.mp h
  have hkept : clientTables db₁ = clientTables db :=
    (issues_syncProviders (fun _ => rfl) fun _ _ he => he).returns_eq hproviders
  obtain ⟨hstatic, hdynamic⟩ := returns_syncClients hclients
  refine ⟨hstatic, fun id hid hold => ?_⟩
  have hsame : SameClient id db db₁ := .of_clientTables hkept
  exact hsame.trans (hdynamic id hid (fun hnew => hold (hsame.isStatic_iff.mp hnew)))

def oneOfEach : Database :=
  let row := OAuth2ClientRow.newStatic ⟨none, .none, none, none, none, []⟩
  { Database.empty with
    oauth2Clients := (Table.empty.insert 1 row).insert 2 { row with isStatic := some false } }

theorem prune_replaces_static_client : ∃ db', (configSync ⟨0, 0, Except.ok, fun _ => none⟩ []
        [⟨3, .none, none, none, none, none, []⟩] true false).Returns oneOfEach () db' ∧
      IsStatic db' 3 ∧ ¬IsStatic db' 1 ∧ SameClient 2 oneOfEach db' := by
  refine ⟨_, rfl, ?_⟩
  obtain ⟨hstatic, hdynamic⟩ := (dryRun_unchanged_and_prune_exact ⟨0, 0, Except.ok, fun _ => none⟩
    [] [⟨3, .none, none, none, none, none, []⟩] oneOfEach).2 _ rfl
  refine ⟨(hstatic 3).mpr (by decide), fun h => absurd ((hstatic 1).mp h) (by decide), ?_⟩
  refine hdynamic 2 (by decide) ?_
  rintro ⟨r, hr, hr'⟩
  cases hr
  cases hr'

end Clients

end Pasion.ConfigSync
