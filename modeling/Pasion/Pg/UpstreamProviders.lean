import Pasion.Pg.Upstream

/-! The repository of upstream providers as the configuration uses it. -/
namespace Pasion

open Relational Txn

variable {ε : Type} [FromRepository ε]

def UpstreamOAuthProviderOnBackchannelLogout.asStr :
    UpstreamOAuthProviderOnBackchannelLogout → String
  | doNothing => "do_nothing"
  | logoutBrowserOnly => "logout_browser_only"
  | logoutAll => "logout_all"

structure UpstreamOAuthProviderFilter where
  enabled : Option Bool
  source : Option UpstreamOAuthProviderSource

def UpstreamOAuthProviderFilter.selects (f : UpstreamOAuthProviderFilter)
    (r : UpstreamOAuthProviderRow) : Bool :=
  f.enabled.all (fun enabled => r.disabledAt.isNone == enabled) &&
    f.source.all (fun source => r.source = source.asStr)

structure UpstreamOAuthProviderParams where
  humanName : Option String
  claimsImports : ClaimsImports
  responseMode : Option ResponseMode
  uiOrder : ℤ
  onBackchannelLogout : UpstreamOAuthProviderOnBackchannelLogout
  source : UpstreamOAuthProviderSource

/-- The row after an upsert. The `DO UPDATE` leaves `created_at` and `disabled_at`. -/
def UpstreamOAuthProviderRow.upserted (now : Time) (params : UpstreamOAuthProviderParams)
    (old : Option UpstreamOAuthProviderRow) : UpstreamOAuthProviderRow where
  onBackchannelLogout := some params.onBackchannelLogout.asStr
  disabledAt := old.bind (·.disabledAt)
  badColumn := none
  source := params.source.asStr
  createdAt := old.elim now (·.createdAt)
  uiOrder := params.uiOrder
  humanName := params.humanName
  responseMode := params.responseMode
  claimsImports := params.claimsImports

namespace UpstreamOAuthProviderRepository

def list (f : UpstreamOAuthProviderFilter) (pagination : Pagination) :
    Repo ε (Page UpstreamOAuthProvider) :=
  Repo.fetch (fun db =>
    (pagination.page (db.upstreamOAuthProviders.select (fun _ r => f.selects r))).tryMap
      (fun r => r.2.toUpstreamOAuthProvider r.1))

def disable (now : Time) (provider : UpstreamOAuthProvider) : Repo ε UpstreamOAuthProvider := do
  Repo.updateRow (·.upstreamOAuthProviders.contains provider.id) Repo.unconstrained
    (.row .upstreamOAuthProviders provider.id)
    (fun db => { db with
      upstreamOAuthProviders := db.upstreamOAuthProviders.update provider.id
        ({ · with disabledAt := some now }) })
  pure { provider with disabledAt := some now }

def upsert (now : Time) (id : Ulid) (params : UpstreamOAuthProviderParams) :
    Repo ε UpstreamOAuthProvider := do
  let disabledAt ← Repo.statement Repo.unconstrained
    (fun _ => ⟨fun db => { db with
      upstreamOAuthProviders := db.upstreamOAuthProviders.insert id
        (UpstreamOAuthProviderRow.upserted now params (db.upstreamOAuthProviders.get? id)) },
      [.row .upstreamOAuthProviders id]⟩)
    (fun db => (db.upstreamOAuthProviders.get? id).bind (·.disabledAt))
  pure ⟨id, params.onBackchannelLogout, disabledAt, params.source, params.humanName,
    params.responseMode, params.claimsImports⟩

variable {now : Time} {db db' : Database}
variable {res : UpstreamOAuthProvider}

theorem returns_disable {provider : UpstreamOAuthProvider}
    (h : (disable now provider : Repo ε _).Returns db res db') :
    res = { provider with disabledAt := some now } ∧ db' = { db with
        upstreamOAuthProviders := db.upstreamOAuthProviders.update provider.id
          ({ · with disabledAt := some now }) } := by
  obtain ⟨-, -, h⟩ := Repo.returns_updateRow_bind.mp h
  obtain ⟨rfl, rfl⟩ := returns_pure.mp h
  exact ⟨rfl, rfl⟩

theorem returns_upsert {id : Ulid} {params : UpstreamOAuthProviderParams} (h : (upsert now id params : Repo ε _).Returns db res db') :
    db' = { db with
      upstreamOAuthProviders := db.upstreamOAuthProviders.insert id
        (UpstreamOAuthProviderRow.upserted now params (db.upstreamOAuthProviders.get? id)) } := by
  obtain ⟨_, db₁, hstatement, h⟩ := returns_bind.mp h
  obtain ⟨-, -, rfl⟩ := Repo.returns_statement.mp hstatement
  obtain ⟨-, rfl⟩ := returns_pure.mp h
  rfl

end UpstreamOAuthProviderRepository
end Pasion
