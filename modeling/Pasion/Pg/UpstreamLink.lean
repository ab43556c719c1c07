import Pasion.Pg.ForeignKeys
import Pasion.Pg.Registration
import Pasion.Pg.Tokens

/-! How upstream sessions are added and completed, and how links are listed and removed. -/
namespace Pasion

open Relational Clause

variable {ε : Type} [FromRepository ε]

def UpstreamOAuthAuthorizationSessionState.isPending : UpstreamOAuthAuthorizationSessionState → Bool
  | pending => true
  | _ => false

def UpstreamOAuthAuthorizationSessionState.complete (s : UpstreamOAuthAuthorizationSessionState)
    (completedAt : Time) (link : UpstreamOAuthLink) :
    Except InvalidTransitionError UpstreamOAuthAuthorizationSessionState :=
  match s with
  | pending => .ok (completed completedAt link.id)
  | _ => .error .mk

namespace UpstreamOAuthSessionRepository

def add (id : Ulid) (upstreamOAuthProvider : UpstreamOAuthProvider) (stateStr : String) :
    Repo ε UpstreamOAuthAuthorizationSession := do
  Repo.insert
    (fun db =>
      if db.upstreamOAuthAuthorizationSessions.contains id ||
          db.upstreamOAuthAuthorizationSessions.any (fun _ r => r.stateStr = stateStr) then
        some .uniqueViolation
      else if !db.upstreamOAuthProviders.contains upstreamOAuthProvider.id then
        some .foreignKeyViolation
      else none)
    [.row .upstreamOAuthAuthorizationSessions id,
      .unique .upstreamOAuthAuthorizationSessions stateStr]
    (fun db => { db with
      upstreamOAuthAuthorizationSessions := db.upstreamOAuthAuthorizationSessions.insert id
        ⟨upstreamOAuthProvider.id, none, none, none, none, none, none, none, none, none,
          stateStr⟩ })
  pure ⟨id, upstreamOAuthProvider.id, .pending, stateStr⟩

/-- The row is written before the state of the value is looked at. -/
def completeWithLink (now : Time) (session : UpstreamOAuthAuthorizationSession)
    (link : UpstreamOAuthLink) (idToken : Option String) (idTokenClaims : Option Claims)
    (extraCallbackParameters userinfo : Option String) :
    Repo ε UpstreamOAuthAuthorizationSession := do
  Repo.statement
    (fun db =>
      if db.upstreamOAuthAuthorizationSessions.contains session.id &&
        !db.upstreamOAuthLinks.contains link.id then some .foreignKeyViolation else none)
    (fun db =>
      if db.upstreamOAuthAuthorizationSessions.contains session.id then
        ⟨fun db' => { db' with
            upstreamOAuthAuthorizationSessions :=
              db'.upstreamOAuthAuthorizationSessions.update session.id (fun r => { r with
                upstreamOAuthLinkId := some link.id
                completedAt := some now
                idToken
                idTokenClaims
                extraCallbackParameters
                userinfo }) },
          [.row .upstreamOAuthAuthorizationSessions session.id]⟩
      else .idle)
    (fun _ => ())
  let state ← Repo.transition (session.state.complete now link)
  pure { session with state }

end UpstreamOAuthSessionRepository

namespace UpstreamOAuthLinkRepository

/-- At most one row, by the constraint on the provider and the subject. -/
def findBySubject (upstreamOAuthProvider : UpstreamOAuthProvider) (subject : String) :
    Repo ε (Option UpstreamOAuthLink) :=
  Txn.query (fun db =>
    (db.upstreamOAuthLinks.select (fun _ r =>
      r.upstreamOAuthProviderId = upstreamOAuthProvider.id && r.subject = subject)).head?.map
        (fun r => r.2.toUpstreamOAuthLink r.1))

def add (now : Time) (id : Ulid) (upstreamOAuthProvider : UpstreamOAuthProvider)
    (subject : String) (humanAccountName : Option String) : Repo ε UpstreamOAuthLink := do
  Repo.insert
    (fun db =>
      if db.upstreamOAuthLinks.contains id ||
          db.upstreamOAuthLinks.any (fun _ r =>
            r.upstreamOAuthProviderId = upstreamOAuthProvider.id ∧ r.subject = subject) then
        some .uniqueViolation
      else if !db.upstreamOAuthProviders.contains upstreamOAuthProvider.id then
        some .foreignKeyViolation
      else none)
    [.row .upstreamOAuthLinks id,
      .unique .upstreamOAuthLinks (Ulid.toString upstreamOAuthProvider.id ++ subject)]
    (fun db => { db with
      upstreamOAuthLinks := db.upstreamOAuthLinks.insert id
        ⟨upstreamOAuthProvider.id, none, subject, humanAccountName, now, now⟩ })
  pure ⟨id, upstreamOAuthProvider.id, none, subject, humanAccountName, now, now⟩

def sessionsOf (linkIds : List Ulid) (db : Database) : List Ulid :=
  db.upstreamOAuthAuthorizationSessions.keysWhere (·.upstreamOAuthLinkId.any (· ∈ linkIds))

def unlinkSessions (now : Time) (ids : List Ulid) (db : Database) : Database := { db with
  upstreamOAuthAuthorizationSessions := db.upstreamOAuthAuthorizationSessions.mapRows
    (fun id r => if id ∈ ids then
      { r with upstreamOAuthLinkId := none, unlinkedAt := some now } else r) }

/-- Unlinks the sessions of the link before the link goes. -/
def remove (now : Time) (link : UpstreamOAuthLink) : Repo ε Unit := do
  Repo.statement Repo.unconstrained
    (fun db => ⟨unlinkSessions now (sessionsOf [link.id] db),
      (sessionsOf [link.id] db).map (.row .upstreamOAuthAuthorizationSessions)⟩)
    (fun _ => ())
  Repo.deleteRow .upstreamOAuthLinks (·.upstreamOAuthLinks.contains link.id) link.id

/-- The links of no user with an id between the bounds, the smallest first. -/
def orphaned (since : Option Ulid) (until_ : Ulid) (limit : ℕ) (db : Database) : List Ulid :=
  ((db.upstreamOAuthLinks.select (fun id r => r.userId.isNone &&
    (since.all (· < id) && id ≤ until_))).map Prod.fst).take (limitI64 limit)

/-- One statement deletes the links and their sessions. -/
def cleanupOrphaned (since : Option Ulid) (until_ : Ulid) (limit : ℕ) : Repo ε (ℕ × Option Ulid) :=
  let toDelete := orphaned since until_ limit
  Repo.deleting
    (fun seen db => (db.delete .upstreamOAuthAuthorizationSessions
      (· ∈ sessionsOf (toDelete seen) seen)).delete .upstreamOAuthLinks (· ∈ toDelete seen))
    (fun db => (sessionsOf (toDelete db) db).map (.row .upstreamOAuthAuthorizationSessions) ++
      (toDelete db).map (.row .upstreamOAuthLinks))
    (fun db => ((toDelete db).length, (toDelete db).getLast?))

end UpstreamOAuthLinkRepository
end Pasion
