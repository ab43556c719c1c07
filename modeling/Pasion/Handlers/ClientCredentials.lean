import Pasion.Handlers.CodeExchange
import Pasion.Handlers.Introspection
import Pasion.Pg.ForeignKeys

/-! The client credentials grant against the constraints of the schema. -/
namespace Pasion.ClientCredentials

open Relational

variable {x : Services} {env : TokenEnv} {scope : Option Scope} {client : Client} {db : Database}

/-- The client has the grant type, the scope needs no administrator, and the policy agrees. -/
structure Eligible (x : Services) (env : TokenEnv) (scope : Option Scope) (client : Client) :
    Prop where
  grantType : client.grantTypes.contains .clientCredentials
  unprivileged : Admin.requiresAdmin (scope.getD .empty) = false
  allowed : x.evaluateAuthorizationGrant client (scope.getD .empty) env.userAgent = .ok []

/-- The request leaves a session and an access token that introspection reports with the scope. -/
def Granted (sha256 : String → List ℕ) (x : Services) (env : TokenEnv) (scope : Option Scope)
    (client : Client) (db : Database) : Prop :=
  ∃ res db', (handleClientCredentials x env scope client).Returns db res db' ∧
    (∃ sessionId row tokenId token, db'.oauth2Sessions.get? sessionId = some row ∧
      row.oauth2ClientId = client.id ∧ row.scopeList = (scope.getD .empty).toList ∧
      db'.oauth2AccessTokens.get? tokenId = some token ∧ token.oauth2SessionId = sessionId ∧
      token.accessToken = res.accessToken) ∧
    ∃ response db'',
      (Introspection.introspectToken sha256 env.now res.accessToken none).Returns db' response db'' ∧
      response.active ∧ ∀ t ∈ scope.getD .empty, ∃ reported ∈ response.scope, t ∈ reported

/-- The session of a client alone has no user, and the column does not take that. -/
theorem exec_addFromClientCredentials {now : Time} {id : Ulid} {scope : Scope} :
    (OAuth2SessionRepository.addFromClientCredentials now id client scope :
      Repo ClientCredentialsGrantError Session).exec db =
      (.rolledBack (repository .notNullViolation), db) := by
  rfl

/-- Whatever the database, the insert of the session is refused and nothing is kept. -/
theorem exec_handleClientCredentials (h : Eligible x env scope client) :
    (handleClientCredentials x env scope client).exec db =
      (.rolledBack (repository .notNullViolation), db) := by
  simp only [handleClientCredentials, Txn.exec_bind, Txn.require, Txn.ofExcept, Txn.exec,
    exec_addFromClientCredentials, h.grantType, h.unprivileged, h.allowed, Bool.not_false,
    List.isEmpty_nil, if_true]

theorem not_granted {sha256 : String → List ℕ} (h : Eligible x env scope client) :
    ¬Granted sha256 x env scope client db := by
  rintro ⟨res, db', hreturns, -⟩
  rw [Txn.Returns, exec_handleClientCredentials h] at hreturns
  cases hreturns

/-- The grant keeps its promise to the requests that it refuses, and to no other. -/
theorem granted_of_eligible_iff (sha256 : String → List ℕ) (x : Services) (env : TokenEnv)
    (scope : Option Scope) (client : Client) (db : Database) :
    (Eligible x env scope client → Granted sha256 x env scope client db) ↔
      ¬Eligible x env scope client := by
  constructor
  · intro hgranted heligible
    exact not_granted heligible (hgranted heligible)
  · intro hnot heligible
    exact absurd heligible hnot

def serviceClient : Client := ⟨3, Ulid.toString 3, [.clientCredentials], none⟩

def oneClient : Database := { Database.empty with
  oauth2Clients := Table.empty.insert 3
    ⟨false, false, true, none, none, none, none, none, none, none, .empty⟩ }

theorem client_credentials_refused : oneClient.foreignKeysHold ∧
    oneClient.client? 3 = some serviceClient ∧
    Eligible CodeExchange.agreeable ⟨1, 300, [1], [1], 10, 11, 12, none⟩ none serviceClient ∧
    ¬Granted (fun _ => []) CodeExchange.agreeable ⟨1, 300, [1], [1], 10, 11, 12, none⟩ none
      serviceClient oneClient := by
  have heligible : Eligible CodeExchange.agreeable ⟨1, 300, [1], [1], 10, 11, 12, none⟩ none
      serviceClient := ⟨by decide, by decide +kernel, rfl⟩
  exact ⟨by decide +kernel, by decide +kernel, heligible, not_granted heligible⟩

end Pasion.ClientCredentials
