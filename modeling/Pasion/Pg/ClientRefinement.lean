import Pasion.Pg.ClientStore

/-! The typed repository of clients does what the one over texts does. -/
namespace Pasion

open Relational Txn Table

variable {columns : ClientMetadataColumns} {grantTypes : List GrantType}
  {jwksUri jwks : Option String} {userinfoSignedResponseAlg : Option JsonWebSignatureAlg}

/-- What the typed repository leaves after an insertion of a client, and what it answers. -/
theorem OAuth2ClientRepository.exec_add {ε : Type} [FromRepository ε] {id : Ulid} {db : Database} :
    (add id columns grantTypes jwksUri jwks userinfoSignedResponseAlg : Repo ε _).exec db =
      (violation id columns.metadataDigest db).elim
        ((JwksOrJwksUri.ofColumns jwks jwksUri).elim (.rolledBack (repository .invalidOperation))
            (fun keys => .committed (ClientStore.added id columns grantTypes keys
              userinfoSignedResponseAlg)),
          { db with
            oauth2Clients := db.oauth2Clients.insert id
              (newRow columns grantTypes jwksUri jwks userinfoSignedResponseAlg) })
        (fun e => (.rolledBack (repository e), db)) := by
  unfold add
  rw [exec_bind, Repo.exec_insert]
  cases hv : violation id columns.metadataDigest db with
  | some e => rfl
  | none => cases hkeys : JwksOrJwksUri.ofColumns jwks jwksUri <;> rfl

theorem OAuth2ClientRepository.of_returns_add {ε : Type} [FromRepository ε] {id : Ulid} {db db' : Database}
    {client : RegisteredClient}
    (h : (add id columns grantTypes jwksUri jwks userinfoSignedResponseAlg :
      Repo ε _).Returns db client db') :
    ∃ keys, JwksOrJwksUri.ofColumns jwks jwksUri = some keys ∧
      client = ClientStore.added id columns grantTypes keys userinfoSignedResponseAlg ∧
      db' = { db with
        oauth2Clients := db.oauth2Clients.insert id
          (newRow columns grantTypes jwksUri jwks userinfoSignedResponseAlg) } := by
  unfold Txn.Returns at h
  rw [exec_add] at h
  cases hv : violation id columns.metadataDigest db with
  | some e =>
    rw [hv] at h
    cases h
  | none =>
    cases hkeys : JwksOrJwksUri.ofColumns jwks jwksUri with
    | none =>
      rw [hv, hkeys] at h
      cases h
    | some keys =>
      rw [hv, hkeys] at h
      cases h
      exact ⟨keys, rfl, rfl, rfl⟩

namespace ClientStore

variable (lib : ColumnText)

/-- The database has the same clients, with their texts read. -/
structure Represents (s : ClientStore) (db : Database) : Prop where
  clients : db.oauth2Clients = s.clients.mapRows (fun _ r => r.toRow lib)
  localized : db.oauth2ClientLocalizedMetadata = s.localized

section Refinement

variable {lib} {s : ClientStore} {db : Database}

theorem Represents.get? (h : Represents lib s db) (id : Ulid) :
    db.oauth2Clients.get? id = (s.clients.get? id).map (fun r => r.toRow lib) := by
  rw [h.clients, get?_mapRows]

/-- Both levels answer a lookup alike, errors included. -/
theorem exec_lookup (h : Represents lib s db) (clientId : Ulid) :
    (OAuth2ClientRepository.lookupRegistered lib.parseUrl clientId :
      Repo DatabaseError _).exec db = (((lookup lib clientId).exec s).1, db) := by
  have hrow := h.get? clientId
  unfold OAuth2ClientRepository.lookupRegistered OAuth2ClientRepository.loadLocalizedForClient
    lookup Repo.fetch
  cases hget : s.clients.get? clientId with
  | none =>
    rw [hget] at hrow
    simp [exec_bind, Txn.query, Txn.exec, hrow, hget, pure, Except.pure, Txn.ofExcept]
  | some r =>
    rw [hget] at hrow
    have hclient : (r.toRow lib).toRegisteredClient clientId = r.tryFrom lib clientId :=
      OAuth2ClientColumns.toRegisteredClient_toRow clientId
    cases htry : r.tryFrom lib clientId with
    | error e =>
      rw [htry] at hclient
      simp [exec_bind, Txn.query, Txn.exec, hrow, hget, hclient, htry, Txn.ofExcept, repository]
    | ok client =>
      rw [htry] at hclient
      have hid : client.id = clientId := by
        obtain ⟨d, -, rfl⟩ := Fallible.map_eq_ok_iff.mp htry
        rfl
      simp [exec_bind, Txn.query, Txn.exec, hrow, hget, hclient, htry, Txn.ofExcept, hid,
        h.localized, pure]

theorem violation_eq (h : Represents lib s db) (id : Ulid) (metadataDigest : Option String) :
    OAuth2ClientRepository.violation id metadataDigest db =
      if violation id metadataDigest s then some .uniqueViolation else none := by
  have hdigest : ∀ digest, (OAuth2ClientRepository.withDigest db digest).isSome =
      s.clients.any (fun _ r => r.metadataDigest = some digest) := by
    intro digest
    rw [Bool.eq_iff_iff, Option.isSome_iff_ne_none, any_iff]
    unfold OAuth2ClientRepository.withDigest
    rw [h.clients, ne_eq, find?_none]
    simp [get?_mapRows, OAuth2ClientColumns.toRow]
  unfold OAuth2ClientRepository.violation violation
  rw [h.clients, contains_mapRows]
  simp only [hdigest]

theorem Represents.insert (h : Represents lib s db) {id : Ulid} {r : OAuth2ClientColumns}
    {row : OAuth2ClientRow} (hrow : r.toRow lib = row) :
    Represents lib (s.inserting id r)
      { db with oauth2Clients := db.oauth2Clients.insert id row } := by
  refine ⟨ext_get? fun k => ?_, h.localized⟩
  unfold inserting
  rw [get?_mapRows, get?_insert, get?_insert, h.clients, get?_mapRows]
  split_ifs
  · exact congrArg some hrow.symm
  · rfl

/-- A client is added to both levels, or refused by both. -/
theorem exec_add_represents (h : Represents lib s db) {columns : ClientMetadataColumns}
    {jwksUri jwks : Option String} (hread : OAuth2ClientColumns.Readable lib columns jwksUri jwks)
    (id : Ulid) (grantTypes : List GrantType)
    (userinfoSignedResponseAlg : Option JsonWebSignatureAlg) :
    ∃ db', (OAuth2ClientRepository.add id columns grantTypes jwksUri jwks
        userinfoSignedResponseAlg : Repo DatabaseError _).exec db =
      (((add lib id columns grantTypes jwksUri jwks userinfoSignedResponseAlg).exec s).1, db') ∧
      Represents lib ((add lib id columns grantTypes jwksUri jwks
        userinfoSignedResponseAlg).exec s).2 db' := by
  obtain ⟨jwksJson, hjson⟩ := OAuth2ClientColumns.exists_jwksJson hread.toReadableKeys
  have hviolation := violation_eq h id columns.metadataDigest
  rw [exec_add hjson, OAuth2ClientRepository.exec_add, hviolation]
  by_cases hv : violation id columns.metadataDigest s
  · rw [if_pos hv, if_pos hv]
    exact ⟨db, rfl, h⟩
  · rw [if_neg hv, if_neg hv]
    have hrow := OAuth2ClientColumns.toRow_newClient grantTypes userinfoSignedResponseAlg hread hjson
    exact ⟨_, rfl, h.insert hrow⟩

/-- The values of the configuration are read back as they are. -/
structure ReadableStatic (lib : ColumnText) (c : StaticClient) : Prop
    extends OAuth2ClientColumns.ReadableKeys lib c.jwksUri c.jwks where
  redirectUris : ∀ url ∈ c.redirectUris, lib.Reads url
  clientAuthMethod : OpenEnum.Canonical c.clientAuthMethod

section Static

variable {c : StaticClient} {jwksJson : Option String} (hread : ReadableStatic lib c)
  (hjson : c.jwks.mapM lib.jwksToValue = some jwksJson)

include hread hjson

theorem toRow_setStatic (r : OAuth2ClientColumns) :
    (r.setStatic c jwksJson).toRow lib = (r.toRow lib).setStatic c := by
  let r' := r.setStatic c jwksJson
  have hredirect : r'.redirectUris.mapM lib.parseUrl = some c.redirectUris :=
    OAuth2ClientColumns.mapM_parseUrl hread.redirectUris
  have hkeys : (r'.toRow lib).jwks = c.jwks ∧ (r'.toRow lib).jwksUri = c.jwksUri :=
    OAuth2ClientColumns.toRow_keys hread.toReadableKeys hjson rfl rfl
  have hbad : OAuth2ClientColumns.failedColumn (r'.decode lib) =
      (OAuth2ClientColumns.failedColumn (r.keptUris lib)).or
        (if c.jwks.isSome && c.jwksUri.isSome then some "jwks(_uri)" else none) := by
    rw [OAuth2ClientColumns.failedColumn_decode hredirect,
      OAuth2ClientColumns.keys_eq hread.toReadableKeys hjson rfl rfl,
      OAuth2ClientColumns.failedColumn_ofColumns]
    rfl
  have hmethod : r'.tokenEndpointAuthMethod.map OpenEnum.fromStr = some c.clientAuthMethod :=
    congrArg some (OpenEnum.fromStr_asStr_iff.mpr hread.clientAuthMethod)
  have hmetadata : (r'.toRow lib).metadata = ((r.toRow lib).setStatic c).metadata := by
    unfold OAuth2ClientColumns.toRow OAuth2ClientRow.setStatic
    dsimp only
    rw [hredirect, hmethod]
    rfl
  unfold OAuth2ClientRow.setStatic
  change r'.toRow lib = _
  unfold OAuth2ClientColumns.toRow
  rw [OAuth2ClientRow.mk.injEq]
  exact ⟨rfl, rfl, rfl, rfl, rfl, rfl, hbad, rfl, hkeys.1, hkeys.2, hmetadata⟩

theorem toRow_newStatic :
    (OAuth2ClientColumns.newStatic c jwksJson).toRow lib = OAuth2ClientRow.newStatic c := by
  -- a new row is what the update makes of a row without any values
  let blank : OAuth2ClientColumns := ⟨none, none, none, [], false, false, false, none, none, none,
    none, none, none, none, none, none, none, none, none, none, none⟩
  have hset : OAuth2ClientColumns.newStatic c jwksJson = blank.setStatic c jwksJson := rfl
  rw [hset, toRow_setStatic hread hjson]
  rfl

theorem toRow_upserted (old : Option OAuth2ClientColumns) :
    (OAuth2ClientColumns.upserted c jwksJson old).toRow lib =
      OAuth2ClientRow.upserted c (old.map (fun r => r.toRow lib)) := by
  cases old with
  | none => exact toRow_newStatic hread hjson
  | some r => exact toRow_setStatic hread hjson r

omit hjson in
/-- A client of the configuration is written to both levels, whether it is then refused or not. -/
theorem exec_upsertStatic_represents (h : Represents lib s db) (clientId : Ulid) :
    ∃ db', (OAuth2ClientRepository.upsertStatic clientId c : Repo DatabaseError _).exec db =
      (((upsertStatic lib clientId c).exec s).1, db') ∧
      Represents lib ((upsertStatic lib clientId c).exec s).2 db' := by
  obtain ⟨jwksJson, hjson⟩ := OAuth2ClientColumns.exists_jwksJson hread.toReadableKeys
  have hrow := toRow_upserted hread hjson (s.clients.get? clientId)
  rw [← h.get?] at hrow
  rw [exec_upsertStatic hjson, OAuth2ClientRepository.exec_upsertStatic]
  exact ⟨_, rfl, h.insert hrow⟩

end Static

/-- The same write on both levels, of values that are read back as they are. -/
inductive Write (lib : ColumnText) :
    ClientRepo RegisteredClient → Repo DatabaseError RegisteredClient → Prop
  | add {c : ClientMetadataColumns} {jwksUri jwks : Option String} (id : Ulid)
      (grantTypes : List GrantType) (alg : Option JsonWebSignatureAlg)
      (h : OAuth2ClientColumns.Readable lib c jwksUri jwks) :
      Write lib (add lib id c grantTypes jwksUri jwks alg)
        (OAuth2ClientRepository.add id c grantTypes jwksUri jwks alg)
  | upsertStatic {c : StaticClient} (clientId : Ulid) (h : ReadableStatic lib c) :
      Write lib (upsertStatic lib clientId c) (OAuth2ClientRepository.upsertStatic clientId c)

/-- After the same writes, refused ones among them, both levels answer every lookup alike. -/
theorem lookups_agree {xs : List (ClientRepo RegisteredClient)}
    {ys : List (Repo DatabaseError RegisteredClient)} (h : Represents lib s db)
    (hwrites : List.Forall₂ (Write lib) xs ys) (clientId : Ulid) :
    ((OAuth2ClientRepository.lookupRegistered lib.parseUrl clientId : Repo DatabaseError _).exec
      (ys.foldl (fun db y => (y.transact db).2) db)).1 =
      ((lookup lib clientId).exec (xs.foldl (fun s x => (x.transact s).2) s)).1 := by
  induction hwrites generalizing s db with
  | nil => exact congrArg Prod.fst (exec_lookup h clientId)
  | @cons x y _ _ hwrite _ ih =>
    refine ih ?_
    obtain ⟨db', hexec, hafter⟩ : ∃ db', y.exec db = ((x.exec s).1, db') ∧
        Represents lib (x.exec s).2 db' := by
      cases hwrite with
      | add id grantTypes alg hread => exact exec_add_represents h hread id grantTypes alg
      | upsertStatic clientId hread => exact exec_upsertStatic_represents hread h clientId
    simp only [Txn.transact, hexec]
    rcases hx : x.exec s with ⟨_ | _ | _, s'⟩ <;> rw [hx] at hafter
    exacts [hafter, h, hafter]

/-- A registration, a client of the configuration, and one that is refused for its keys. -/
def columnWrites : List (ClientRepo RegisteredClient) :=
  [add anyText 5 { ClientMetadataColumns.empty with clientName := some "app" } [.authorizationCode]
      none (some "keys") none,
    upsertStatic anyText 7 (staticClient none none),
    upsertStatic anyText 5 (staticClient (some "keys") (some "https://a/"))]

@[inherit_doc columnWrites]
def typedWrites : List (Repo DatabaseError RegisteredClient) :=
  [OAuth2ClientRepository.add 5 { ClientMetadataColumns.empty with clientName := some "app" }
      [.authorizationCode] none (some "keys") none,
    OAuth2ClientRepository.upsertStatic 7 (staticClient none none),
    OAuth2ClientRepository.upsertStatic 5 (staticClient (some "keys") (some "https://a/"))]

theorem written_clients_found_alike :
    let s := columnWrites.foldl (fun s x => (x.transact s).2) ⟨.empty, .empty⟩
    let db := typedWrites.foldl (fun db y => (y.transact db).2) .empty
    ((OAuth2ClientRepository.lookupRegistered anyText.parseUrl 5 : Repo DatabaseError _).exec db).1 =
      ((lookup anyText 5).exec s).1 ∧
    ((OAuth2ClientRepository.lookupRegistered anyText.parseUrl 7 : Repo DatabaseError _).exec db).1 =
      ((lookup anyText 7).exec s).1 ∧
    ((lookup anyText 5).exec s).1.any (·.isSome) ∧ ((lookup anyText 7).exec s).1.any (·.isSome) := by
  have hkeys : OAuth2ClientColumns.ReadableKeys anyText none (some "keys") :=
    ⟨nofun, fun set _ => ⟨set, rfl, rfl⟩⟩
  have hstatic : ReadableStatic anyText (staticClient none none) := ⟨⟨nofun, nofun⟩, nofun, nofun⟩
  have hrefused : ReadableStatic anyText (staticClient (some "keys") (some "https://a/")) :=
    ⟨⟨fun text _ => ⟨_, rfl, rfl⟩, fun set _ => ⟨set, rfl, rfl⟩⟩, nofun, nofun⟩
  have hwrites : List.Forall₂ (Write anyText) columnWrites typedWrites :=
    .cons (.add 5 [.authorizationCode] none ⟨hkeys, nofun, nofun, nofun, nofun, nofun, nofun, nofun,
      nofun, nofun, nofun⟩) (.cons (.upsertStatic 7 hstatic) (.cons (.upsertStatic 5 hrefused) .nil))
  exact ⟨lookups_agree ⟨rfl, rfl⟩ hwrites 5, lookups_agree ⟨rfl, rfl⟩ hwrites 7, by decide +kernel⟩

end Refinement

end ClientStore
end Pasion
