import Pasion.Pg.UpstreamLink
import Pasion.Relational.Lifecycle

/-! Every committed upstream session decodes, however the transactions that write them interleave. -/
namespace Pasion

open Relational Table

namespace UpstreamOAuthAuthorizationSessionRow

variable {r : UpstreamOAuthAuthorizationSessionRow}

def Decodes (r : UpstreamOAuthAuthorizationSessionRow) : Prop := ∃ state, r.state? = some state

theorem decodes_of_completed (hcompleted : r.completedAt.isSome)
    (hlink : r.upstreamOAuthLinkId.isSome ∨ r.unlinkedAt.isSome) : r.Decodes := by
  obtain ⟨completedAt, hcompleted⟩ := Option.isSome_iff_exists.mp hcompleted
  unfold Decodes state?
  rw [hcompleted]
  cases hl : r.upstreamOAuthLinkId with
  | none =>
    cases hu : r.unlinkedAt with
    | none => simp [hl, hu] at hlink
    | some unlinkedAt => exact ⟨_, rfl⟩
  | some linkId =>
    cases r.unlinkedAt with
    | none => cases r.consumedAt <;> exact ⟨_, rfl⟩
    | some unlinkedAt => cases r.consumedAt <;> exact ⟨_, rfl⟩

theorem linked_of_decodes (h : r.Decodes) (hcompleted : r.completedAt.isSome) :
    r.upstreamOAuthLinkId.isSome ∨ r.unlinkedAt.isSome := by
  obtain ⟨state, hstate⟩ := h
  obtain ⟨completedAt, hcompleted⟩ := Option.isSome_iff_exists.mp hcompleted
  unfold state? at hstate
  rw [hcompleted] at hstate
  cases hl : r.upstreamOAuthLinkId with
  | some linkId => exact .inl rfl
  | none =>
    cases hu : r.unlinkedAt with
    | some unlinkedAt => exact .inr rfl
    | none => simp [hl, hu] at hstate

theorem unlinked_of_pending (h : r.Decodes) (hpending : r.completedAt = none) :
    r.upstreamOAuthLinkId = none := by
  obtain ⟨state, hstate⟩ := h
  unfold state? at hstate
  rw [hpending] at hstate
  cases hl : r.upstreamOAuthLinkId with
  | none => rfl
  | some linkId => simp [hl] at hstate

/-- A value that has been decoded is complete only if the row was. -/
theorem completed_of_decoded {id : Ulid} {session : UpstreamOAuthAuthorizationSession}
    (h : r.toUpstreamOAuthAuthorizationSession id = .ok session) :
    session.id = id ∧ (session.state ≠ .pending → r.completedAt.isSome) := by
  unfold toUpstreamOAuthAuthorizationSession at h
  cases hstate : r.state? with
  | none => simp [hstate] at h
  | some state =>
    simp only [hstate, Except.ok.injEq] at h
    subst h
    refine ⟨rfl, fun hne => ?_⟩
    cases hcompleted : r.completedAt with
    | some completedAt => rfl
    | none =>
      unfold state? at hstate
      rw [hcompleted] at hstate
      split at hstate <;> simp_all

end UpstreamOAuthAuthorizationSessionRow

namespace UpstreamRuns

/-- A value that was read or given before is named by its place. -/
inductive Command where
  | lookupSession (id : Ulid)
  | lookupLink (id : Ulid)
  | add (id : Ulid) (provider : UpstreamOAuthProvider) (stateStr : String)
  | completeWithLink (now : Time) (session link : ℕ) (idToken : Option String)
      (idTokenClaims : Option Claims) (extraCallbackParameters userinfo : Option String)
  | consume (now : Time) (session : ℕ) (browserSession : BrowserSession)
  | removeLink (now : Time) (link : ℕ)
  | cleanupOrphaned (since : Option Ulid) (until_ : Ulid) (limit : ℕ)

structure Values where
  sessions : List UpstreamOAuthAuthorizationSession
  links : List UpstreamOAuthLink

def Values.addSession (v : Values) (session : UpstreamOAuthAuthorizationSession) : Values :=
  { v with sessions := session :: v.sessions }

/-- A command that names no value does nothing. -/
def Command.run (v : Values) : Command → Repo DatabaseError Values
  | lookupSession id => do
    let session ← UpstreamOAuthSessionRepository.lookup id
    pure { v with sessions := session.toList ++ v.sessions }
  | lookupLink id => do
    let link ← UpstreamOAuthLinkRepository.lookup id
    pure { v with links := link.toList ++ v.links }
  | add id provider stateStr => do
    let session ← UpstreamOAuthSessionRepository.add id provider stateStr
    pure (v.addSession session)
  | completeWithLink now session link idToken idTokenClaims extraCallbackParameters userinfo =>
    match v.sessions[session]?, v.links[link]? with
    | some session, some link => do
      let session ← UpstreamOAuthSessionRepository.completeWithLink now session link idToken
        idTokenClaims extraCallbackParameters userinfo
      pure (v.addSession session)
    | _, _ => pure v
  | consume now session browserSession =>
    match v.sessions[session]? with
    | some session => do
      let session ← UpstreamOAuthSessionRepository.consume now session browserSession
      pure (v.addSession session)
    | none => pure v
  | removeLink now link =>
    match v.links[link]? with
    | some link => do
      UpstreamOAuthLinkRepository.remove now link
      pure v
    | none => pure v
  | cleanupOrphaned since until_ limit => do
    let _ ← UpstreamOAuthLinkRepository.cleanupOrphaned since until_ limit
    pure v

def run (v : Values) : List Command → Repo DatabaseError Unit
  | [] => pure ()
  | command :: rest => do
    let v ← command.run v
    run v rest

def added : List Command → List Ulid := List.filterMap (fun
    | .add id _ _ => some id
    | _ => none)

/-- A session that is complete stays so until it is deleted. -/
def sessions : Lifecycle Database LockKey Ulid UpstreamOAuthAuthorizationSessionRow where
  row db id := db.upstreamOAuthAuthorizationSessions.get? id
  lockOf := .row .upstreamOAuthAuthorizationSessions
  Good := UpstreamOAuthAuthorizationSessionRow.Decodes
  Done r := r.completedAt.isSome

section Statements

variable {α : Type} {k : Ulid} {n : Notes} {Q : α → Notes → Prop}
  {violation : Database → Option DatabaseError} {effect : Database → Effect Database LockKey}
  {f : Database → α}

theorem uses_statement
    (h : ∀ db, sessions.Agrees k n db → violation db = none →
      (effect db).RowWise sessions.row sessions.lockOf ∧ sessions.Guar k n db (effect db) ∧
        Q (f db) (sessions.look k (sessions.look k n db) ((effect db).write db))) :
    sessions.Uses k Q (Repo.statement violation effect f : Repo DatabaseError α) n := by
  refine Lifecycle.Uses.bind fun db hdb => ?_
  beta_reduce
  cases hviolation : violation db with
  | some e => exact ⟨Effect.rowWise_idle, .inr ⟨Lifecycle.guar_of_eq hdb rfl, trivial⟩⟩
  | none =>
    obtain ⟨hrow, hguar, hq⟩ := h db hdb hviolation
    exact ⟨hrow, .inr ⟨hguar, hq⟩⟩

/-- A statement whose transaction is rolled back right after it may write what it likes. -/
theorem uses_statement_rollback {β : Type} {Q : β → Notes → Prop} {e : DatabaseError}
    (h : ∀ db, (effect db).RowWise sessions.row sessions.lockOf) :
    sessions.Uses k Q
      ((Repo.statement violation effect f : Repo DatabaseError α) >>= fun _ => Txn.rollback e) n := by
  intro db hdb
  refine ⟨?_, .inl ?_⟩
  · beta_reduce
    split_ifs
    exacts [h db, Effect.rowWise_idle]
  · beta_reduce
    cases violation db with
    | some e' => exact ⟨e', rfl⟩
    | none => exact ⟨e, rfl⟩

theorem uses_query (h : ∀ db, sessions.Agrees k n db → Q (f db) (sessions.look k n db)) :
    sessions.Uses k Q (Txn.query f : Repo DatabaseError α) n := h

/-- An update of the row `id`, if it is there. -/
theorem rowWise_updateSession {id : Ulid} {present : Bool}
    {g : UpstreamOAuthAuthorizationSessionRow → UpstreamOAuthAuthorizationSessionRow} :
    (if present then (⟨fun db => { db with
        upstreamOAuthAuthorizationSessions := db.upstreamOAuthAuthorizationSessions.update id g },
        [.row .upstreamOAuthAuthorizationSessions id]⟩ : Effect Database LockKey)
      else .idle).RowWise sessions.row sessions.lockOf := by
  cases present with
  | false => exact Effect.rowWise_idle
  | true =>
    refine Effect.rowWise_of_forall (fun k r => if k = id then r.map g else r)
      (fun db k => get?_update _ _ _ _) fun k r hk => if_neg ?_
    rintro rfl
    exact hk (List.mem_singleton_self _)

end Statements

/-- What a transaction with the values `v` and the commands `rest` ahead has noted of a session. -/
structure Consistent (k : Ulid) (rest : List Command) (v : Values) (n : Notes) : Prop where
  seen : ∀ s ∈ v.sessions, s.id = k → n.seen
  settled : ∀ s ∈ v.sessions, s.id = k → s.state ≠ .pending → n.settled
  mayAdd : k ∈ added rest → n.mayAdd

section Commands

variable {k : Ulid} {command : Command} {rest : List Command} {v : Values} {n : Notes}
  {db : Database} {e : Effect Database LockKey}
variable {session : UpstreamOAuthAuthorizationSession} {violation : Database → Option DatabaseError}
  {link : UpstreamOAuthLink}

theorem Consistent.look (h : Consistent k rest v n) (hdb : sessions.Agrees k n db) :
    Consistent k rest v (sessions.look k n db) where
  seen s hs hk := .inl (h.seen s hs hk)
  settled s hs hk hstate := .inl (h.settled s hs hk hstate)
  mayAdd hk := ⟨h.mayAdd hk, hdb.mayAdd (h.mayAdd hk)⟩

theorem Consistent.write (h : Consistent k rest v n) (hdb : sessions.Agrees k n db)
    (hnone : sessions.row db k = none → sessions.row (e.write db) k = none) :
    Consistent k rest v (sessions.look k (sessions.look k n db) (e.write db)) where
  seen s hs hk := .inl (.inl (h.seen s hs hk))
  settled s hs hk hstate := .inl (.inl (h.settled s hs hk hstate))
  mayAdd hk := by
    have hrow := hdb.mayAdd (h.mayAdd hk)
    exact ⟨⟨h.mayAdd hk, hrow⟩, hnone hrow⟩

theorem Consistent.addSession (h : Consistent k rest v n) {s : UpstreamOAuthAuthorizationSession}
    (hseen : s.id = k → n.seen) (hsettled : s.id = k → s.state ≠ .pending → n.settled) :
    Consistent k rest (v.addSession s) n where
  seen s' hs' hk := by
    rcases List.mem_cons.mp hs' with rfl | hs'
    · exact hseen hk
    · exact h.seen s' hs' hk
  settled s' hs' hk hstate := by
    rcases List.mem_cons.mp hs' with rfl | hs'
    · exact hsettled hk hstate
    · exact h.settled s' hs' hk hstate
  mayAdd := h.mayAdd

theorem uses_lookupSession {id : Ulid} (h : Consistent k rest v n) :
    sessions.Uses k (fun v n => Consistent k rest v n) ((Command.lookupSession id).run v) n := by
  refine Lifecycle.Uses.bind (Lifecycle.Uses.bind (uses_query fun db hdb => ?_))
  cases hres : (db.upstreamOAuthAuthorizationSessions.get? id).mapM
      (·.toUpstreamOAuthAuthorizationSession id) with
  | error e => trivial
  | ok session =>
    change Consistent k rest { v with sessions := session.toList ++ v.sessions } _
    cases hr : db.upstreamOAuthAuthorizationSessions.get? id with
    | none =>
      rw [hr] at hres
      cases hres
      exact h.look hdb
    | some r =>
      rw [hr, Option.mapM_some] at hres
      cases hdecode : r.toUpstreamOAuthAuthorizationSession id with
      | error e => rw [hdecode] at hres; cases hres
      | ok s =>
        rw [hdecode] at hres
        cases hres
        obtain ⟨hid, hcompleted⟩ :=
          UpstreamOAuthAuthorizationSessionRow.completed_of_decoded hdecode
        have hrow : s.id = k → sessions.row db k = some r := fun hk => by
          rw [← hk, hid]
          exact hr
        refine (h.look hdb).addSession (fun hk => .inr ?_) fun hk hstate => .inr ⟨.inr ?_, ?_⟩
        · simp [hrow hk]
        · simp [hrow hk]
        · intro r' hr'
          rw [hrow hk] at hr'
          exact Option.some.inj hr' ▸ hcompleted hstate

theorem uses_lookupLink {id : Ulid} (h : Consistent k rest v n) :
    sessions.Uses k (fun v n => Consistent k rest v n) ((Command.lookupLink id).run v) n := by
  refine Lifecycle.Uses.bind (uses_query fun db hdb => ?_)
  obtain ⟨hseen, hsettled, hmayAdd⟩ := h.look hdb
  exact ⟨hseen, hsettled, hmayAdd⟩

theorem uses_add {id : Ulid} {provider : UpstreamOAuthProvider} {stateStr : String}
    (h : Consistent k (.add id provider stateStr :: rest) v n)
    (honce : (added (.add id provider stateStr :: rest)).Nodup) :
    sessions.Uses k (fun v n => Consistent k rest v n)
      ((Command.add id provider stateStr).run v) n := by
  have hfresh : id ∉ added rest := (List.nodup_cons.mp honce).1
  have hrest : Consistent k rest v n :=
    ⟨h.seen, h.settled, fun hk => h.mayAdd (List.mem_cons_of_mem _ hk)⟩
  refine Lifecycle.Uses.bind (Lifecycle.Uses.bind (uses_statement fun db hdb hviolation => ?_))
  have habsent : sessions.row db id = none := by
    change db.upstreamOAuthAuthorizationSessions.get? id = none
    split_ifs at hviolation with hcontains
    simp only [Bool.or_eq_true, not_or] at hcontains
    simpa [Table.contains] using hcontains.1
  set row : UpstreamOAuthAuthorizationSessionRow :=
    ⟨provider.id, none, none, none, none, none, none, none, none, none, stateStr⟩ with hrow
  set e : Effect Database LockKey := ⟨fun db => { db with
      upstreamOAuthAuthorizationSessions := db.upstreamOAuthAuthorizationSessions.insert id row },
    [.row .upstreamOAuthAuthorizationSessions id,
      .unique .upstreamOAuthAuthorizationSessions stateStr]⟩ with he
  have hget : ∀ db k, sessions.row (e.write db) k = if k = id then some row else sessions.row db k :=
    fun db k => get?_insert _ _ _ _
  have hrowWise : e.RowWise sessions.row sessions.lockOf := by
    refine Effect.rowWise_of_forall (fun k r => if k = id then some row else r) hget
      fun k r hk => if_neg ?_
    rintro rfl
    exact hk List.mem_cons_self
  by_cases hk : id = k
  · subst hk
    have hmay : n.mayAdd := h.mayAdd List.mem_cons_self
    refine ⟨hrowWise, ⟨fun r hr => ?_, fun r hr => ?_, fun _ _ => hmay⟩, ?_⟩
    · rw [hget, if_pos rfl] at hr
      exact Option.some.inj hr ▸ ⟨.pending, rfl⟩
    · rw [habsent] at hr
      cases hr
    · have hkept : Consistent id rest v
          (sessions.look id (sessions.look id n db) (e.write db)) :=
        ⟨fun s hs hid => .inl (.inl (h.seen s hs hid)),
          fun s hs hid hstate => .inl (.inl (h.settled s hs hid hstate)),
          fun hmem => absurd hmem hfresh⟩
      refine hkept.addSession (fun _ => .inr ?_) fun _ hstate => absurd rfl hstate
      rw [hget, if_pos rfl]
      simp
  · have hsame : ∀ db, sessions.row (e.write db) k = sessions.row db k := fun db => by
      rw [hget, if_neg (Ne.symm hk)]
    refine ⟨hrowWise, Lifecycle.guar_of_eq hdb (hsame db), ?_⟩
    exact (hrest.write hdb (hsame db).trans).addSession (fun hid => absurd hid hk)
      fun hid => absurd hid hk

/-- A write to the row of a value at hand, which is kept only if the value makes its transition. -/
theorem uses_updateSession (h : Consistent k rest v n) (hsession : session ∈ v.sessions)
    {g : UpstreamOAuthAuthorizationSessionRow → UpstreamOAuthAuthorizationSessionRow}
    {state : Except InvalidTransitionError UpstreamOAuthAuthorizationSessionState}
    (hg : session.id = k → ∀ state', state = .ok state' → ∀ r : UpstreamOAuthAuthorizationSessionRow,
      r.Decodes → (n.settled → r.completedAt.isSome) →
        (g r).completedAt.isSome ∧ ((g r).upstreamOAuthLinkId.isSome ∨ (g r).unlinkedAt.isSome)) :
    sessions.Uses k (fun s n => Consistent k rest (v.addSession s) n)
      (do
        Repo.statement violation
          (fun db =>
            if db.upstreamOAuthAuthorizationSessions.contains session.id then
              ⟨fun db' => { db' with
                  upstreamOAuthAuthorizationSessions :=
                    db'.upstreamOAuthAuthorizationSessions.update session.id g },
                [.row .upstreamOAuthAuthorizationSessions session.id]⟩
            else .idle)
          (fun _ => ())
        let state ← Repo.transition state
        pure { session with state } : Repo DatabaseError _) n := by
  cases state with
  | error e => exact uses_statement_rollback fun db => rowWise_updateSession
  | ok state =>
    refine Lifecycle.Uses.bind (uses_statement fun db hdb _ => ⟨rowWise_updateSession, ?_⟩)
    change sessions.Guar k n db _ ∧ Consistent k rest (v.addSession { session with state }) _
    set e : Effect Database LockKey :=
      if db.upstreamOAuthAuthorizationSessions.contains session.id then
        ⟨fun db' => { db' with
            upstreamOAuthAuthorizationSessions :=
              db'.upstreamOAuthAuthorizationSessions.update session.id g },
          [.row .upstreamOAuthAuthorizationSessions session.id]⟩
      else .idle with he
    have hget : sessions.row (e.write db) k =
        if k = session.id then (sessions.row db k).map g else sessions.row db k := by
      rw [he]
      split_ifs with hcontains hk hk
      · exact (get?_update _ _ _ _).trans (if_pos hk)
      · exact (get?_update _ _ _ _).trans (if_neg hk)
      · rw [Bool.not_eq_true, Table.contains, Option.isSome_eq_false_iff, Option.isNone_iff_eq_none,
          ← hk] at hcontains
        exact hcontains.trans (by rw [show sessions.row db k = none from hcontains]; rfl)
      · rfl
    have hnone : sessions.row db k = none → sessions.row (e.write db) k = none := by
      intro hnone
      rw [hget, hnone]
      split_ifs <;> rfl
    by_cases hk : session.id = k
    · have hrow : ∀ r', sessions.row (e.write db) k = some r' → r'.completedAt.isSome ∧
          (r'.upstreamOAuthLinkId.isSome ∨ r'.unlinkedAt.isSome) := by
        intro r' hr'
        rw [hget, if_pos hk.symm] at hr'
        obtain ⟨r, hr, rfl⟩ := Option.map_eq_some_iff.mp hr'
        exact hg hk state rfl r (hdb.good r hr) fun hsettled => hdb.settled hsettled r hr
      refine ⟨⟨fun r hr => UpstreamOAuthAuthorizationSessionRow.decodes_of_completed (hrow r hr).1
        (hrow r hr).2, fun _ _ _ r hr => (hrow r hr).1, fun hr hsome => absurd (hnone hr) hsome⟩, ?_⟩
      refine (h.write hdb hnone).addSession (fun _ => .inl (.inl (h.seen session hsession hk)))
        fun _ _ => .inr ⟨.inl (.inl (h.seen session hsession hk)), fun r hr => (hrow r hr).1⟩
    · have hsame : sessions.row (e.write db) k = sessions.row db k := by
        rw [hget, if_neg (Ne.symm hk)]
      exact ⟨Lifecycle.guar_of_eq hdb hsame, (h.write hdb hnone).addSession
        (fun hid => absurd hid hk) fun hid => absurd hid hk⟩

theorem uses_completeWithLink {now : Time} {idToken : Option String} {idTokenClaims : Option Claims}
    {extraCallbackParameters userinfo : Option String} (h : Consistent k rest v n)
    (hsession : session ∈ v.sessions) :
    sessions.Uses k (fun s n => Consistent k rest (v.addSession s) n)
      (UpstreamOAuthSessionRepository.completeWithLink now session link idToken idTokenClaims
        extraCallbackParameters userinfo : Repo DatabaseError _) n :=
  uses_updateSession h hsession fun _ _ _ _ _ _ => ⟨rfl, .inl rfl⟩

theorem uses_consume {now : Time} {browserSession : BrowserSession} (h : Consistent k rest v n)
    (hsession : session ∈ v.sessions) :
    sessions.Uses k (fun s n => Consistent k rest (v.addSession s) n)
      (UpstreamOAuthSessionRepository.consume now session browserSession : Repo DatabaseError _)
      n := by
  refine uses_updateSession h hsession fun hk state' hstate' r hgood hsettled => ?_
  -- the value was complete, so the row is, unless it is gone
  have hstate : session.state ≠ .pending := by
    intro hpending
    rw [hpending] at hstate'
    cases hstate'
  have hcompleted := hsettled (h.settled session hsession hk hstate)
  have hlinked := UpstreamOAuthAuthorizationSessionRow.linked_of_decodes hgood hcompleted
  exact ⟨hcompleted, hlinked⟩

/-- A statement that changes or deletes sessions, and completes or spoils none. -/
theorem uses_write {α : Type}
    {effect : Database → Effect Database LockKey} {f : Database → α} (h : Consistent k rest v n)
    (hrowWise : ∀ db, (effect db).RowWise sessions.row sessions.lockOf)
    (hrow : ∀ db r', sessions.row ((effect db).write db) k = some r' →
      ∃ r, sessions.row db k = some r ∧ (r.Decodes → r'.Decodes) ∧ r'.completedAt = r.completedAt) :
    sessions.Uses k (fun _ n => Consistent k rest v n)
      (Repo.statement violation effect f : Repo DatabaseError α) n := by
  have hnone : ∀ db, sessions.row db k = none → sessions.row ((effect db).write db) k = none := by
    intro db hnone
    by_contra hsome
    obtain ⟨r', hr'⟩ := Option.ne_none_iff_exists'.mp hsome
    obtain ⟨r, hr, -⟩ := hrow db r' hr'
    rw [hnone] at hr
    cases hr
  refine uses_statement fun db hdb _ => ⟨hrowWise db, ⟨fun r' hr' => ?_, fun r hr hdone r' hr' => ?_,
    fun hr hsome => absurd (hnone db hr) hsome⟩, h.write hdb (hnone db)⟩
  · obtain ⟨r, hr, hgood, -⟩ := hrow db r' hr'
    exact hgood (hdb.good r hr)
  · obtain ⟨r₀, hr₀, -, hcompleted⟩ := hrow db r' hr'
    cases hr.symm.trans hr₀
    exact (congrArg Option.isSome hcompleted).trans hdone

theorem uses_remove {now : Time} (h : Consistent k rest v n) :
    sessions.Uses k (fun _ n => Consistent k rest v n)
      (UpstreamOAuthLinkRepository.remove now link : Repo DatabaseError Unit) n := by
  refine Lifecycle.Uses.bind ((uses_write h (fun db => ?_) fun db r' hr' => ?_).mono
    fun _ n h => Lifecycle.Uses.bind ((uses_write h (fun db => ?_) fun db r' hr' => ?_).mono
      fun _ n h => ?_))
  · refine Effect.rowWise_of_forall (fun k r => r.map _) (fun db k => get?_mapRows _ _ _)
      fun k r hk => ?_
    have hid : k ∉ UpstreamOAuthLinkRepository.sessionsOf [link.id] db :=
      fun hmem => hk (List.mem_map.mpr ⟨k, hmem, rfl⟩)
    simp [hid]
  · obtain ⟨r, hr, rfl⟩ := Option.map_eq_some_iff.mp ((get?_mapRows _ _ _).symm.trans hr')
    refine ⟨r, hr, fun hgood => ?_, ?_⟩
    · split_ifs with hmem
      · -- only a complete session has a link
        obtain ⟨r₀, hr₀, hlink⟩ := mem_keysWhere.mp hmem
        cases hr.symm.trans hr₀
        refine UpstreamOAuthAuthorizationSessionRow.decodes_of_completed ?_ (.inr rfl)
        by_contra hpending
        have hunlinked := UpstreamOAuthAuthorizationSessionRow.unlinked_of_pending hgood
          (Option.not_isSome_iff_eq_none.mp hpending)
        rw [hunlinked] at hlink
        cases hlink
      · exact hgood
    · split_ifs <;> rfl
  · exact Effect.rowWise_of_eq fun db => rfl
  · exact ⟨r', hr', id, rfl⟩
  · unfold Repo.ensureAffectedRows Txn.require
    split_ifs
    · exact h
    · trivial

theorem uses_cleanupOrphaned {since : Option Ulid} {until_ : Ulid} {limit : ℕ}
    (h : Consistent k rest v n) :
    sessions.Uses k (fun _ n => Consistent k rest v n)
      (UpstreamOAuthLinkRepository.cleanupOrphaned since until_ limit : Repo DatabaseError _) n := by
  refine uses_write h (fun db => ?_) fun db r' hr' => ?_
  · set linkIds := UpstreamOAuthLinkRepository.orphaned since until_ limit db with hlinkIds
    refine Effect.rowWise_of_forall (fun k r =>
        if decide (k ∈ UpstreamOAuthLinkRepository.sessionsOf linkIds db) then none else r)
      (fun db k => get?_deleteKeys _ _) fun k r hk => if_neg fun hmem => hk ?_
    exact List.mem_append_left _ (List.mem_map.mpr ⟨k, of_decide_eq_true hmem, rfl⟩)
  · have hget := (get?_deleteKeys _ _).symm.trans hr'
    split_ifs at hget
    exact ⟨r', hget, id, rfl⟩

theorem uses_command (h : Consistent k (command :: rest) v n)
    (honce : (added (command :: rest)).Nodup) :
    sessions.Uses k (fun v n => Consistent k rest v n) (command.run v) n := by
  have hrest : Consistent k rest v n := by
    refine ⟨h.seen, h.settled, fun hk => h.mayAdd ?_⟩
    cases command <;> first | exact hk | exact List.mem_cons_of_mem _ hk
  cases command with
  | lookupSession id => exact uses_lookupSession hrest
  | lookupLink id => exact uses_lookupLink hrest
  | add id provider stateStr => exact uses_add h honce
  | completeWithLink now session link idToken idTokenClaims extraCallbackParameters userinfo =>
    simp only [Command.run]
    split
    · next session link hsession hlink =>
      exact Lifecycle.Uses.bind ((uses_completeWithLink hrest (List.mem_of_getElem? hsession)).mono
        fun _ _ h => h)
    · exact hrest
  | consume now session browserSession =>
    simp only [Command.run]
    split
    · next session hsession =>
      exact Lifecycle.Uses.bind ((uses_consume hrest (List.mem_of_getElem? hsession)).mono
        fun _ _ h => h)
    · exact hrest
  | removeLink now link =>
    simp only [Command.run]
    split
    · exact Lifecycle.Uses.bind ((uses_remove hrest).mono fun _ _ h => h)
    · exact hrest
  | cleanupOrphaned since until_ limit =>
    exact Lifecycle.Uses.bind ((uses_cleanupOrphaned hrest).mono fun _ _ h => h)

theorem uses_run {commands : List Command} (h : Consistent k commands v n)
    (honce : (added commands).Nodup) :
    sessions.Uses k (fun _ _ => True) (run v commands) n := by
  induction commands generalizing v n with
  | nil => trivial
  | cons command rest ih =>
    have hrest : (added rest).Nodup := by
      cases command <;> first | exact honce | exact (List.nodup_cons.mp honce).2
    exact Lifecycle.Uses.bind ((uses_command h honce).mono fun v n h => ih h hrest)

end Commands

/-- The ids drawn are new to the database, and no two draws gave the same. -/
structure FreshIds {ι : Type} (db : Database) (commands : ι → List Command) : Prop where
  new : ∀ i, ∀ id ∈ added (commands i),
    db.upstreamOAuthAuthorizationSessions.contains id = false
  once : ∀ i, (added (commands i)).Nodup
  apart : ∀ i j, ∀ id ∈ added (commands i), id ∈ added (commands j) → i = j

/-- However transactions on upstream sessions interleave, every committed session decodes. -/
theorem committed_sessions_decode {ι : Type} [DecidableEq ι] {db : Database}
    {commands : ι → List Command}
    (hdb : ∀ id r, db.upstreamOAuthAuthorizationSessions.get? id = some r →
      ∃ session, r.toUpstreamOAuthAuthorizationSession id = .ok session)
    (hfresh : FreshIds db commands) {xs : List (ι × Action)}
    {c : Config ι Database LockKey DatabaseError Unit}
    (hrun : (Config.start db fun i => run ⟨[], []⟩ (commands i)).run xs = some c) (id : Ulid)
    (r : UpstreamOAuthAuthorizationSessionRow)
    (hr : c.data.upstreamOAuthAuthorizationSessions.get? id = some r) :
    ∃ session, r.toUpstreamOAuthAuthorizationSession id = .ok session := by
  have hstart : ∀ r, sessions.row db id = some r → sessions.Good r := by
    intro r hr
    obtain ⟨session, hsession⟩ := hdb id r hr
    unfold UpstreamOAuthAuthorizationSessionRow.toUpstreamOAuthAuthorizationSession at hsession
    cases hstate : r.state? with
    | none => simp [hstate] at hsession
    | some state => exact ⟨state, hstate⟩
  have hnone : ∀ i, id ∈ added (commands i) → sessions.row db id = none := by
    intro i hi
    change db.upstreamOAuthAuthorizationSessions.get? id = none
    simpa [Table.contains] using hfresh.new i id hi
  have huses : ∀ i, sessions.Uses id (fun _ _ => True) (run ⟨[], []⟩ (commands i))
      ⟨id ∈ added (commands i), False, False⟩ :=
    fun i => uses_run ⟨fun s hs => absurd hs List.not_mem_nil, fun s hs => absurd hs List.not_mem_nil,
      fun hk => hk⟩ (hfresh.once i)
  obtain ⟨state, hstate⟩ := Lifecycle.Lives.good_of_run
    (fun i j hi hj => hfresh.apart i j id hi hj) hstart hnone huses hrun r hr
  unfold UpstreamOAuthAuthorizationSessionRow.toUpstreamOAuthAuthorizationSession
  rw [hstate]
  exact ⟨_, rfl⟩

section Unlinked

def completedLogin : Database := { Database.alice with
  userSessions := Table.empty.insert 2 ⟨1, 0, none, none, none, none⟩
  upstreamOAuthProviders := Table.empty.insert 4
    ⟨none, none, none, "config", 0, 0, none, none, .default⟩
  upstreamOAuthLinks := Table.empty.insert 5 ⟨4, some 1, "alice", none, 0, 0⟩
  upstreamOAuthAuthorizationSessions := Table.empty.insert 6
    ⟨4, some 5, none, none, none, none, some 0, none, none, none, "first"⟩ }

def consumeAndRemove : Bool → List Command
  | true => [.add 7 ⟨4, .doNothing, none, .config, none, none, .default⟩ "second",
      .lookupSession 6, .consume 3 0
      ⟨2, ⟨1, "alice", 0, 0, none, none, false, false, none, none, none⟩, 0, none, none, none, none⟩]
  | false => [.lookupLink 5, .removeLink 2 0]

def linkGoesFirst : List (Bool × Action) :=
  [(true, .advance), (true, .advance), (false, .advance), (false, .advance), (false, .advance),
    (false, .advance), (true, .advance), (true, .advance)]

theorem unlinked_session_decodes : ∃ c, (Config.start completedLogin fun i =>
      run ⟨[], []⟩ (consumeAndRemove i)).run linkGoesFirst = some c ∧
    c.data.upstreamOAuthAuthorizationSessions.get? 6 =
      some ⟨4, none, none, none, none, none, some 0, some 3, some 2, some 2, "first"⟩ ∧
    ∃ session, UpstreamOAuthAuthorizationSessionRow.toUpstreamOAuthAuthorizationSession
      ⟨4, none, none, none, none, none, some 0, some 3, some 2, some 2, "first"⟩ 6 = .ok session := by
  have hrow : ((Config.start completedLogin fun i =>
      run ⟨[], []⟩ (consumeAndRemove i)).run linkGoesFirst).map
        (·.data.upstreamOAuthAuthorizationSessions.get? 6) =
      some (some ⟨4, none, none, none, none, none, some 0, some 3, some 2, some 2, "first"⟩) := by
    decide +kernel
  obtain ⟨c, hrun, hr⟩ := Option.map_eq_some_iff.mp hrow
  have hfresh : FreshIds completedLogin consumeAndRemove := by
    refine ⟨?_, ?_, ?_⟩ <;> decide +kernel
  refine ⟨c, hrun, hr, committed_sessions_decode (fun id r hr => ?_) hfresh hrun 6 _ hr⟩
  obtain ⟨-, rfl⟩ | ⟨-, hr⟩ := of_get?_insert hr
  · exact ⟨_, rfl⟩
  · cases hr

end Unlinked

end UpstreamRuns
end Pasion
