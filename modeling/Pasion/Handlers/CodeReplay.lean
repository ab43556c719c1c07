import Pasion.Handlers.CodeExchange
import Pasion.Handlers.TokenEffects
import Pasion.Relational.Sequential

/-! Authorization codes that are presented again long after their exchange. -/
namespace Pasion.CodeExchange

open Relational TokenEffects Txn

def Request.call (r : Request) (db : Database) :
    Except AuthorizationCodeExchangeError AccessTokenResponse × Database :=
  (exchangeAuthorizationCode r.services r.env r.grant r.client).transact db

def replay (db : Database) (r : Request) : Database := (r.call db).2

/-- The code comes more than twenty seconds after its exchange, by a client that may use codes. -/
structure LateReplay (code : String) (exchangedAt : Time) (r : Request) : Prop where
  code_eq : r.grant.code = code
  allowed : r.client.grantTypes.contains .authorizationCode
  late : r.env.now - exchangedAt > 20 * 1000 * 1000

def SessionFinished (sessionId : Ulid) (db : Database) : Prop :=
  ∃ r, db.oauth2Sessions.get? sessionId = some r ∧ r.finishedAt.isSome

def SessionActive (sessionId : Ulid) (db : Database) : Prop :=
  ∃ session, db.session? sessionId = some session ∧ session.isValid

/-- Each request is answered with an invalid grant, and the first of them ends the session. -/
def RepliesRefused (grantId sessionId : Ulid) (db : Database) (calls : List Request) : Prop :=
  Sequential.Along replay (fun db r => (r.call db).1 = .error (.invalidGrant grantId)) db calls ∧
    ∀ first ∈ calls.head?, SessionFinished sessionId (replay db first)

section Replay

variable {db : Database} {grant : AuthorizationGrant} {code : String} {sessionId : Ulid}
  {fulfilledAt exchangedAt now : Time} {r : Request} {calls : List Request}

theorem exec_fetch {ε α : Type} [FromRepository ε] {f : Database → Except DatabaseError α} :
    (Repo.fetch f : Repo ε α).exec db = match f db with
      | .ok a => (.committed a, db)
      | .error e => (.rolledBack (repository e), db) := by
  unfold Repo.fetch
  rw [exec_bind]
  change (Txn.ofExcept (f db) repository : Repo ε α).exec db = _
  cases f db <;> rfl

theorem exec_exchangeAuthorizationCode (hr : LateReplay code exchangedAt r)
    (hgrant : db.grantOf? code = some grant) :
    match (fulfilledSessionId r.env.now grant).exec db with
    | (.committed _, _) => True
    | (.rolledBack e, _) => r.call db = (.error e, db)
    | (.committedError e, db') => r.call db = (.error e, db') := by
  have hfind : (OAuth2AuthorizationGrantRepository.findByCode r.grant.code :
      Repo AuthorizationCodeExchangeError _).exec db = (.committed (some grant), db) := by
    unfold OAuth2AuthorizationGrantRepository.findByCode
    rw [hr.code_eq, exec_fetch, mapM_eq_ok_some.mpr hgrant]
  unfold Request.call exchangeAuthorizationCode Txn.transact
  rw [exec_bind, Txn.require, if_pos hr.allowed]
  simp only [Txn.exec]
  rw [exec_bind, hfind]
  simp only [Txn.ofOption]
  rw [exec_bind]
  simp only [Txn.exec]
  rw [exec_bind]
  rcases (fulfilledSessionId r.env.now grant).exec db with ⟨sessionId | e | e, db'⟩
  · trivial
  · rfl
  · rfl

/-- An active session is ended, and any other makes the request fail in another way. -/
theorem call_of_late (hr : LateReplay code exchangedAt r) (hgrant : db.grantOf? code = some grant)
    (hstage : grant.stage = .exchanged sessionId fulfilledAt exchangedAt) :
    (SessionActive sessionId db ∧
      r.call db = (.error (.invalidGrant grant.id), endSession r.env.now sessionId db)) ∨
    ¬SessionActive sessionId db ∧ ∃ e ≠ .invalidGrant grant.id, r.call db = (.error e, db) := by
  have hcall := exec_exchangeAuthorizationCode hr hgrant
  unfold fulfilledSessionId at hcall
  simp only [hstage, if_pos hr.late, OAuth2SessionRepository.lookup] at hcall
  rw [exec_bind, exec_fetch] at hcall
  unfold SessionActive Database.session?
  cases hrow : db.oauth2Sessions.get? sessionId with
  | none =>
    rw [hrow] at hcall
    exact .inr ⟨by simp, _, by simp, hcall⟩
  | some row =>
    rw [hrow] at hcall
    cases hsession : row.toSession sessionId with
    | error e =>
      simp only [Option.mapM_some, hsession] at hcall
      exact .inr ⟨by simp [hsession, Except.toOption], _, by simp [repository], hcall⟩
    | ok session =>
      obtain ⟨rfl, -⟩ := row.toSession_ok hsession
      have hthere : db.oauth2Sessions.contains session.id :=
        Table.contains_iff_exists.mpr ⟨row, hrow⟩
      have hupdate : (OAuth2SessionRepository.updateSession session.id
          (fun row => { row with finishedAt := some r.env.now }) :
            Repo AuthorizationCodeExchangeError _).exec db =
          (.committed (), endSession r.env.now session.id db) :=
        OAuth2SessionRepository.returns_updateSession.mpr ⟨hthere, rfl⟩
      have hdecoded : ((some row).bind fun r => (r.toSession session.id).toOption) =
          some session := by
        simp [hsession, Except.toOption]
      simp only [hdecoded, Option.some.injEq, exists_eq_left']
      simp only [Option.mapM_some, hsession, Functor.map, Except.map, Txn.ofOption, exec_bind,
        Txn.exec, OAuth2SessionRepository.finish, hupdate, Repo.transition, Session.finish] at hcall
      cases hstate : session.state with
      | valid =>
        rw [hstate] at hcall
        exact .inl ⟨by simp [Session.isValid, hstate, SessionState.isValid], hcall⟩
      | finished at_ =>
        rw [hstate] at hcall
        exact .inr ⟨by simp [Session.isValid, hstate, SessionState.isValid], _,
          by simp [repository], hcall⟩

theorem sessionFinished_endSession (h : SessionActive sessionId db) :
    SessionFinished sessionId (endSession now sessionId db) := by
  obtain ⟨session, hsession, -⟩ := h
  obtain ⟨-, row, hrow, -⟩ := Database.session?_eq_some hsession
  refine ⟨{ row with finishedAt := some now }, ?_, rfl⟩
  exact (Table.get?_update ..).trans ((if_pos rfl).trans (congrArg _ hrow))

theorem not_sessionActive_of_finished (h : SessionFinished sessionId db) :
    ¬SessionActive sessionId db := by
  rintro ⟨session, hsession, hvalid⟩
  obtain ⟨row, hrow, hfinished⟩ := h
  obtain ⟨-, row', hrow', -, -, hiff⟩ := Database.session?_eq_some hsession
  cases hrow.symm.trans hrow'
  rw [hiff.mp hvalid] at hfinished
  cases hfinished

end Replay

/-- A code presented again after twenty seconds is refused once, and while its session is active. -/
theorem replays_refused_iff (db : Database) (code : String) (grant : AuthorizationGrant)
    (sessionId : Ulid) (fulfilledAt exchangedAt : Time) (calls : List Request)
    (hgrant : db.grantOf? code = some grant)
    (hstage : grant.stage = .exchanged sessionId fulfilledAt exchangedAt)
    (hcalls : ∀ r ∈ calls, LateReplay code exchangedAt r) :
    RepliesRefused grant.id sessionId db calls ↔
      calls = [] ∨ calls.length = 1 ∧ SessionActive sessionId db := by
  cases calls with
  | nil => exact iff_of_true ⟨trivial, by simp⟩ (.inl rfl)
  | cons first rest =>
    have hfirst := call_of_late (hcalls first List.mem_cons_self) hgrant hstage
    rcases hfirst with ⟨hactive, hcall⟩ | ⟨hended, e, hne, hcall⟩
    · have hafter : replay db first = endSession first.env.now sessionId db :=
        congrArg Prod.snd hcall
      have hfinished : SessionFinished sessionId (replay db first) := by
        rw [hafter]
        exact sessionFinished_endSession hactive
      cases rest with
      | nil =>
        refine iff_of_true ⟨⟨congrArg Prod.fst hcall, trivial⟩, ?_⟩ (.inr ⟨rfl, hactive⟩)
        rintro _ ⟨⟩
        exact hfinished
      | cons second rest =>
        refine iff_of_false (fun h => ?_) (by simp)
        have hsecond : (second.call (replay db first)).1 = .error (.invalidGrant grant.id) :=
          h.1.2.1
        -- ending a session leaves the grants alone, so the code is found again
        have hgrant' : (replay db first).grantOf? code = some grant := by
          rw [hafter]
          exact hgrant
        have hlate := hcalls second (List.mem_cons_of_mem _ List.mem_cons_self)
        rcases call_of_late hlate hgrant' hstage with ⟨hactive', -⟩ | ⟨-, e, hne, hcall'⟩
        · exact not_sessionActive_of_finished hfinished hactive'
        · rw [hcall'] at hsecond
          exact hne (Except.error.inj hsecond)
    · refine iff_of_false (fun h => ?_) fun h => ?_
      · have hrefused : (first.call db).1 = .error (.invalidGrant grant.id) := h.1.1
        rw [hcall] at hrefused
        exact hne (Except.error.inj hrefused)
      · rcases h with h | ⟨-, hactive⟩
        · cases h
        · exact hended hactive

def exchangedGrant : Database := { fulfilledGrant with
  oauth2AuthorizationGrants := Table.empty.insert 5
    ⟨0, none, some 0, some 0, "openid", none, none, "https://client/", true, "query", true, false,
      some "code", none, none, none, none, 3, some 4⟩ }

def lateRequest : Request := { twoRequests true with
  env := ⟨21 * 1000 * 1000, 300, [1], [1], 10, 11, 12, none⟩ }

theorem lateReplay_lateRequest : LateReplay "code" 0 lateRequest := ⟨rfl, rfl, by decide⟩

theorem second_replay_fails : ∃ grant, exchangedGrant.grantOf? "code" = some grant ∧
    grant.stage = .exchanged 4 0 0 ∧ LateReplay "code" 0 lateRequest ∧
      ¬RepliesRefused grant.id 4 exchangedGrant [lateRequest, lateRequest] := by
  have hrun : (exchangedGrant.grantOf? "code").any (fun grant => grant.stage = .exchanged 4 0 0) ∧
      (lateRequest.call (replay exchangedGrant lateRequest)).1 =
        .error (.repository .invalidOperation) := by
    decide +kernel
  obtain ⟨hgrant, hcall⟩ := hrun
  obtain ⟨grant, hfound, htest⟩ := (Option.any_eq_true _ _).mp hgrant
  refine ⟨grant, hfound, of_decide_eq_true htest, lateReplay_lateRequest, fun h => ?_⟩
  cases hcall.symm.trans h.1.2.1

theorem first_replay_refused : ∃ grant, exchangedGrant.grantOf? "code" = some grant ∧
    RepliesRefused grant.id 4 exchangedGrant [lateRequest] := by
  have hrun : (exchangedGrant.grantOf? "code").any (fun grant => grant.stage = .exchanged 4 0 0) ∧
      (exchangedGrant.session? 4).any (fun session => session.isValid) := by
    decide +kernel
  obtain ⟨hgrant, hsession⟩ := hrun
  obtain ⟨grant, hfound, hstage⟩ := (Option.any_eq_true _ _).mp hgrant
  obtain ⟨session, hactive, hvalid⟩ := (Option.any_eq_true _ _).mp hsession
  refine ⟨grant, hfound, (replays_refused_iff exchangedGrant "code" grant 4 0 0 [lateRequest] hfound
    (of_decide_eq_true hstage) ?_).mpr (.inr ⟨rfl, session, hactive, hvalid⟩)⟩
  intro r hr
  rw [List.mem_singleton.mp hr]
  exact lateReplay_lateRequest

end Pasion.CodeExchange
