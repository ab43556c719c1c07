import Mathlib.Data.Finset.Dedup
import Mathlib.Data.Finset.Insert
import Pasion.Pg.Personal
import Pasion.Relational.Loop

/-! The job that tells the homeserver which devices a user has. -/
namespace Pasion

open Relational Txn Table

inductive JobErrorDecision where
  | retry
  | fail
  deriving DecidableEq

inductive JobCause where
  | repository (e : DatabaseError)
  | message (text : String)

structure JobError where
  decision : JobErrorDecision
  error : JobCause

namespace JobError

def retry (error : JobCause) : JobError := ⟨.retry, error⟩

def fail (error : JobCause) : JobError := ⟨.fail, error⟩

instance : FromRepository JobError := ⟨fun e => .retry (.repository e)⟩

end JobError

/-- The calls that the jobs make; a call may change the homeserver whether or not it is answered. -/
structure HomeserverConnection (H : Type) where
  syncDevices : String → Finset String → H → Except String Unit × H

namespace SyncDevicesJob

def deviceScopePrefixes : List String :=
  ["urn:matrix:client:device:", "urn:matrix:org.matrix.msc2967.client:device:"]

def extractDeviceId (token : ScopeToken) : Option String :=
  deviceScopePrefixes.findSome? (fun p => Str.stripPrefix p token.asStr)

def insertDevices (scope : Scope) (devices : Finset String) : Finset String :=
  scope.iter.foldl (fun devices token =>
    (extractDeviceId token).elim devices (fun id => insert id devices)) devices

section Page

variable {α : Type}

/-- One round of either loop: a page, and the cursor moved to its last edge. -/
def collectPage (list : Pagination → Repo JobError (Page α)) (scope : α → Scope)
    (state : Pagination × Finset String) :
    Repo JobError ((Pagination × Finset String) ⊕ Finset String) := do
  let page ← list state.1
  let devices := page.edges.foldl (fun devices edge => insertDevices (scope edge.2) devices) state.2
  let cursor := page.edges.foldl (fun cursor edge => cursor.withAfter edge.1) state.1
  pure (if page.hasNextPage then .inl (cursor, devices) else .inr devices)

def collectDevices (list : Pagination → Repo JobError (Page α)) (scope : α → Scope) (rounds : ℕ)
    (devices : Finset String) : Repo JobError (Finset String) :=
  Txn.loop (.fail (.message "out of rounds")) (collectPage list scope) rounds
    (Pagination.first 5000, devices)

end Page

def activeOAuth2Sessions (user : User) : OAuth2SessionFilter := { OAuth2SessionFilter.new with
    user := some user
    state := some .active }

def activePersonalSessions (user : User) : PersonalSessionFilter := { PersonalSessionFilter.new with
    actorUser := some user
    state := some .active }

def collectDevicesFromOAuth2 (rounds : ℕ) (user : User) (devices : Finset String) :
    Repo JobError (Finset String) :=
  collectDevices (OAuth2SessionRepository.list (activeOAuth2Sessions user)) Session.scope rounds
    devices

def collectDevicesFromPersonal (rounds : ℕ) (user : User) (devices : Finset String) :
    Repo JobError (Finset String) :=
  collectDevices (PersonalSessionRepository.list (activePersonalSessions user))
    (fun node => node.1.scope) rounds devices

/-- What the job reads under the lock of the user. -/
def gather (rounds : ℕ) (userId : Ulid) : Repo JobError (User × Finset String) := do
  let user ← UserRepository.lookup userId
  let user ← Txn.ofOption user (.fail (.message "user not found"))
  UserRepository.acquireLockForSync user
  let devices ← collectDevicesFromOAuth2 rounds user ∅
  let devices ← collectDevicesFromPersonal rounds user devices
  pure (user, devices)

def run {H : Type} (matrix : HomeserverConnection H) (rounds : ℕ) (userId : Ulid) (db : Database)
    (homeserver : H) : Except JobError Unit × Database × H :=
  match (gather rounds userId).transact db with
  | (.error e, db') => (.error e, db', homeserver)
  | (.ok (user, devices), db') =>
    match matrix.syncDevices user.username devices homeserver with
    | (.error e, homeserver') => (.error (.retry (.message e)), db, homeserver')
    | (.ok (), homeserver') => (.ok (), db', homeserver')

/-- The two prefixes differ in their twelfth character, so at most one of them fits. -/
theorem extractDeviceId_eq_some {token : ScopeToken} {d : String} :
    extractDeviceId token = some d ↔
      token.asStr = stableDeviceScope d ∨ token.asStr = unstableDeviceScope d := by
  refine Str.findSome?_stripPrefix fun r r' heq => ?_
  have hstable := Str.getElem?_of_startsWith (i := 11) (c := 'c')
    (Str.startsWith_iff.mpr ⟨r, rfl⟩ :
      Str.startsWith ("urn:matrix:client:device:" ++ r) "urn:matrix:client:device:") (by decide)
  have hunstable := Str.getElem?_of_startsWith (i := 11) (c := 'o')
    (Str.startsWith_iff.mpr ⟨r', rfl⟩ :
      Str.startsWith ("urn:matrix:org.matrix.msc2967.client:device:" ++ r')
        "urn:matrix:org.matrix.msc2967.client:device:") (by decide)
  rw [heq, hunstable] at hstable
  exact absurd (Option.some.inj hstable) (by decide)

theorem mem_insertDevices {scope : Scope} {devices : Finset String} {d : String} :
    d ∈ insertDevices scope devices ↔ d ∈ devices ∨ stableDeviceScope d ∈ scope.toList ∨
      unstableDeviceScope d ∈ scope.toList := by
  have hfold : ∀ (l : List ScopeToken) (devices : Finset String),
      d ∈ l.foldl (fun devices token =>
        (extractDeviceId token).elim devices (fun id => insert id devices)) devices ↔
      d ∈ devices ∨ ∃ t ∈ l, extractDeviceId t = some d := by
    intro l
    induction l with
    | nil => simp
    | cons t rest ih =>
      intro devices
      rw [List.foldl_cons, ih]
      cases ht : extractDeviceId t with
      | none => simp [ht]
      | some id => simp [ht, or_assoc, or_left_comm, eq_comm]
  unfold insertDevices
  rw [hfold]
  simp only [extractDeviceId_eq_some, Scope.mem_toList, Scope.mem_iter]
  constructor
  · rintro (h | ⟨t, ht, h | h⟩)
    · exact .inl h
    · exact .inr (.inl ⟨t, ht, h⟩)
    · exact .inr (.inr ⟨t, ht, h⟩)
  · rintro (h | ⟨t, ht, h⟩ | ⟨t, ht, h⟩)
    · exact .inl h
    · exact .inr ⟨t, ht, .inl h⟩
    · exact .inr ⟨t, ht, .inr h⟩

section Loop

variable {α β : Type} {list : Pagination → Repo JobError (Page α)} {scope : α → Scope}
  {rows : List (Ulid × β)} {names : Ulid × β → String → Prop} {p : Pagination} {db : Database}

/-- The rows in the order of the query with the device ids that each names. -/
structure Listing (list : Pagination → Repo JobError (Page α)) (scope : α → Scope)
    (rows : List (Ulid × β)) (names : Ulid × β → String → Prop) (db : Database) : Prop where
  sorted : rows.Pairwise (fun a b => a.1 ≤ b.1)
  page : ∀ p : Pagination, p.direction = .forward → ∃ page : Page α,
    (list p).Returns db page db ∧ page.hasNextPage = (p.page rows).hasNextPage ∧
      List.Forall₂ (fun x y => y.1 = x.1 ∧ ∀ d, stableDeviceScope d ∈ (scope y.2).toList ∨
        unstableDeviceScope d ∈ (scope y.2).toList ↔ names x d) (p.page rows).edges page.edges
  names_eq : ∀ x ∈ rows, ∀ y ∈ rows, x.1 = y.1 → names x = names y

theorem mem_foldl_insertDevices {edges : List (Ulid × β)} {nodes : List (Ulid × α)}
    {devices : Finset String} {d : String}
    (h : List.Forall₂ (fun x y => y.1 = x.1 ∧ ∀ d, stableDeviceScope d ∈ (scope y.2).toList ∨
        unstableDeviceScope d ∈ (scope y.2).toList ↔ names x d) edges nodes) :
    d ∈ nodes.foldl (fun devices edge => insertDevices (scope edge.2) devices) devices ↔
      d ∈ devices ∨ ∃ x ∈ edges, names x d := by
  induction h generalizing devices with
  | nil => simp
  | cons hxy _ ih =>
    rw [List.foldl_cons, ih, mem_insertDevices, hxy.2, or_assoc]
    simp

/-- The rounds go through the rows between the cursors, and none of their device ids is missed. -/
theorem returns_loop_collectPage (h : Listing list scope rows names db) {e : JobError} {rounds : ℕ}
    (devices : Finset String) (hdir : p.direction = .forward) (hcount : p.count < 2 ^ 63 - 1)
    (hpos : 0 < p.count) (hrounds : p.remaining rows < rounds) :
    ∃ result, (Txn.loop e (collectPage list scope) rounds (p, devices)).Returns db result db ∧
      ∀ d, d ∈ result ↔ d ∈ devices ∨ ∃ x ∈ rows, p.between x.1 ∧ names x d := by
  induction rounds generalizing p devices with
  | zero => omega
  | succ rounds ih =>
    obtain ⟨page, hpage, hnext, hedges⟩ := h.page p hdir
    set devices' := page.edges.foldl
      (fun devices edge => insertDevices (scope edge.2) devices) devices with hdevices
    set cursor := page.edges.foldl (fun cursor edge => cursor.withAfter edge.1) p with hcursor
    have hmem : ∀ d, d ∈ devices' ↔ d ∈ devices ∨ ∃ x ∈ (p.page rows).edges, names x d :=
      fun d => mem_foldl_insertDevices hedges
    rw [Pagination.foldl_withAfter_congr (hedges.imp fun _ _ hxy => hxy.1)] at hcursor
    have hbody : (collectPage list scope (p, devices)).Returns db
        (if page.hasNextPage then .inl (cursor, devices') else .inr devices') db :=
      returns_bind.mpr ⟨page, db, hpage, returns_pure.mpr ⟨rfl, rfl⟩⟩
    cases hmore : (p.page rows).hasNextPage with
    | false =>
      rw [hnext, hmore, if_neg Bool.false_ne_true] at hbody
      refine ⟨devices', returns_bind.mpr ⟨_, db, hbody, returns_pure.mpr ⟨rfl, rfl⟩⟩, ?_⟩
      intro d
      rw [hmem, Pagination.page, Pagination.fetch, Pagination.edges_of_last hdir hcount hmore]
      simp [and_assoc]
    | true =>
      rw [hnext, hmore, if_pos rfl] at hbody
      have hsorted := h.sorted.filter (fun r => p.between r.1)
      obtain ⟨l, hlast, hl, hbelow, habove⟩ :=
        Pagination.edges_of_next hdir hcount hpos hmore hsorted
      have hbetween := List.mem_filter.mp hl
      have hstep : cursor = p.withAfter l.1 := by
        rw [hcursor, Pagination.foldl_withAfter]
        unfold Pagination.page Pagination.fetch
        rw [hlast]
        rfl
      have hless := Pagination.remaining_withAfter_lt hbetween.1 hbetween.2
      obtain ⟨result, hresult, hin⟩ := ih (p := cursor) devices'
        (by rw [hstep]; exact hdir) (by rw [hstep]; exact hcount) (by rw [hstep]; exact hpos)
        (by rw [hstep]; omega)
      refine ⟨result, returns_bind.mpr ⟨_, db, hbody, hresult⟩, fun d => ?_⟩
      rw [hin, hmem, or_assoc, hstep]
      refine or_congr_right ⟨?_, ?_⟩
      · rintro (⟨x, hx, hd⟩ | ⟨x, hx, hafter, hd⟩)
        · have hwindow := List.mem_filter.mp (hbelow x hx).1
          exact ⟨x, hwindow.1, hwindow.2, hd⟩
        · exact ⟨x, hx, (Pagination.between_withAfter hbetween.2 hafter).1, hd⟩
      · rintro ⟨x, hx, hp, hd⟩
        rcases Nat.lt_trichotomy x.1 l.1 with hlt | heq | hgt
        · exact .inl ⟨x, habove x (List.mem_filter.mpr ⟨hx, hp⟩) hlt, hd⟩
        · refine .inl ⟨l, List.mem_of_getLast? hlast, ?_⟩
          rw [← h.names_eq x hx l hbetween.1 heq]
          exact hd
        · refine .inr ⟨x, hx, ?_, hd⟩
          simp only [Pagination.between, Bool.and_eq_true] at hp ⊢
          exact ⟨by simpa [Pagination.withAfter] using hgt, hp.2⟩

theorem returns_collectDevices (rounds : ℕ) (devices : Finset String)
    (h : Listing list scope rows names db) (hrounds : rows.length < rounds) :
    ∃ result, (collectDevices list scope rounds devices).Returns db result db ∧
      ∀ d, d ∈ result ↔ d ∈ devices ∨ ∃ x ∈ rows, names x d := by
  have hremaining : (Pagination.first 5000).remaining rows ≤ rows.length := List.length_filter_le _ _
  obtain ⟨result, hresult, hmem⟩ := returns_loop_collectPage h (p := .first 5000)
    devices rfl (by decide) (by decide) (Nat.lt_of_le_of_lt hremaining hrounds)
  exact ⟨result, hresult, fun d => by simpa [Pagination.between, Pagination.first] using hmem d⟩

/-- A query that reads a page of these rows and decodes each of them. -/
theorem listing_of_fetch (decode : Ulid × β → Except DatabaseError α)
    (rows : Database → List (Ulid × β))
    (hlist : ∀ p, p.direction = .forward →
      list p = Repo.fetch (fun db => (p.page (rows db)).tryMap decode))
    (hsorted : (rows db).Pairwise (fun a b => a.1 ≤ b.1))
    (hdecode : ∀ x ∈ rows db, ∃ a, decode x = .ok a ∧ ∀ d, stableDeviceScope d ∈ (scope a).toList ∨
        unstableDeviceScope d ∈ (scope a).toList ↔ names x d)
    (hnames : ∀ x ∈ rows db, ∀ y ∈ rows db, x.1 = y.1 → names x = names y) :
    Listing list scope (rows db) names db where
  sorted := hsorted
  names_eq := hnames
  page p hdir := by
    obtain ⟨page, hpage⟩ := Page.tryMap_of_forall (p := p.page (rows db)) (f := decode)
      fun x hx => (hdecode x (Pagination.mem_of_mem_page hx)).imp fun _ h => h.1
    obtain ⟨hnext, hedges⟩ := Page.tryMap_ok hpage
    refine ⟨page, ?_, hnext, ?_⟩
    · rw [hlist p hdir]
      exact Repo.returns_fetch.mpr ⟨hpage, rfl⟩
    · have hall := (List.forall₂_and_left _ _).mpr ⟨fun x hx => Pagination.mem_of_mem_page hx, hedges⟩
      refine hall.imp fun x y hxy => ⟨hxy.2.1, ?_⟩
      obtain ⟨a, ha, hnames⟩ := hdecode x hxy.1
      rw [hxy.2.2] at ha
      rw [Except.ok.inj ha]
      exact hnames

end Loop

section Sessions

variable {db : Database} {user : User}

/-- The rows of the active sessions that the job reads decode. -/
structure SessionsDecode (user : User) (db : Database) : Prop where
  oauth2 : ∀ id r, db.oauth2Sessions.get? id = some r → r.userId = some user.id →
    r.finishedAt = none → ∃ session, r.toSession id = .ok session
  personal : ∀ id r, db.personalSessions.get? id = some r → r.actorUserId = user.id →
    r.revokedAt = none → ∃ session, r.toPersonalSession id = .ok session

/-- A scope list names a device under one of the two prefixes. -/
def Names (scopeList : List String) (d : String) : Prop :=
  stableDeviceScope d ∈ scopeList ∨ unstableDeviceScope d ∈ scopeList

theorem selected_activeOAuth2Sessions {id : Ulid} {r : OAuth2SessionRow} :
    OAuth2SessionRepository.selected db (activeOAuth2Sessions user) id r ↔
      r.userId = some user.id ∧ r.finishedAt = none := by
  rw [OAuth2SessionRepository.selected_iff]
  simp [activeOAuth2Sessions, OAuth2SessionFilter.new, SessionActivity.admits,
    SessionActivity.isActive]

theorem selects_activePersonalSessions {p : Pagination} {x : Ulid × JoinedRow} :
    Clause.selects (PersonalSessionRepository.applySessionFilter (activePersonalSessions user) ++
      PersonalSessionRepository.cursorClauses p) x =
      (p.between x.1 && (x.2.1.actorUserId = user.id && x.2.1.revokedAt.isNone)) := by
  have hclosed : ∀ c ∈ PersonalSessionRepository.applySessionFilter (activePersonalSessions user) ++
      PersonalSessionRepository.cursorClauses p, c.Closed x := by
    refine Clause.closed_append ?_ (Clause.closed_append
      (Clause.filterOn_closed fun _ => Clause.closed_test _)
      (Clause.filterOn_closed fun _ => Clause.closed_test _))
    intro c hc
    simp only [PersonalSessionRepository.applySessionFilter, activePersonalSessions,
      PersonalSessionFilter.new, Clause.filterOn, Option.toList, List.map_nil, List.map_cons,
      List.nil_append, List.append_nil, List.cons_append, List.mem_cons, List.not_mem_nil,
      or_false] at hc
    rcases hc with rfl | rfl
    · exact Clause.closed_test _
    · exact Clause.closed_test _
  rw [Clause.selects_eq_all hclosed, List.all_append]
  have hcursors : (PersonalSessionRepository.cursorClauses p).all (·.eval x) = p.between x.1 := by
    unfold PersonalSessionRepository.cursorClauses Pagination.between
    cases p.after <;> cases p.before <;> simp [Clause.filterOn]
  rw [hcursors, Bool.and_comm]
  simp [PersonalSessionRepository.applySessionFilter, activePersonalSessions,
    PersonalSessionFilter.new, Clause.filterOn, SessionActivity.admits, SessionActivity.isActive]

theorem listing_oauth2 (h : SessionsDecode user db) :
    Listing (OAuth2SessionRepository.list (activeOAuth2Sessions user)) Session.scope
      (db.oauth2Sessions.select (OAuth2SessionRepository.selected db (activeOAuth2Sessions user)))
      (fun x => Names x.2.scopeList) db := by
  refine listing_of_fetch (fun x => x.2.toSession x.1) (fun db =>
    db.oauth2Sessions.select (OAuth2SessionRepository.selected db (activeOAuth2Sessions user)))
    (fun p _ => rfl) ?_ ?_ ?_
  · exact (db.oauth2Sessions.sorted.filter _).imp fun hab => Nat.le_of_lt hab
  · intro x hx
    obtain ⟨hrow, hselected⟩ := mem_select.mp hx
    obtain ⟨huser, hactive⟩ := selected_activeOAuth2Sessions.mp hselected
    obtain ⟨session, hsession⟩ := h.oauth2 x.1 x.2 hrow huser hactive
    refine ⟨session, hsession, fun d => ?_⟩
    unfold OAuth2SessionRow.toSession at hsession
    split at hsession
    · cases hsession
    · next scope hscope =>
      cases hsession
      exact or_congr (Scope.mem_toList_collectStr hscope) (Scope.mem_toList_collectStr hscope)
  · intro x hx y hy hxy
    have hrows := (mem_select.mp hx).1
    rw [hxy, (mem_select.mp hy).1] at hrows
    rw [Option.some.inj hrows]

theorem listing_personal (h : SessionsDecode user db) :
    Listing (PersonalSessionRepository.list (activePersonalSessions user)) (fun node => node.1.scope)
      ((PersonalSessionRepository.joined db).filter
        (fun x => x.2.1.actorUserId = user.id && x.2.1.revokedAt.isNone))
      (fun x => Names x.2.1.scopeList) db := by
  refine listing_of_fetch PersonalSessionRepository.toSessionAndToken (fun db =>
    (PersonalSessionRepository.joined db).filter
      (fun x => x.2.1.actorUserId = user.id && x.2.1.revokedAt.isNone))
    (fun p _ => ?_) ?_ ?_ ?_
  · unfold PersonalSessionRepository.list PersonalSessionRepository.listed
    simp only [selects_activePersonalSessions, Pagination.page, Pagination.fetch, List.filter_filter]
  · exact (PersonalSessionRepository.joined_sorted db).filter _
  · intro x hx
    obtain ⟨hjoined, hselected⟩ := List.mem_filter.mp hx
    simp only [Bool.and_eq_true, decide_eq_true_eq, Option.isNone_iff_eq_none] at hselected
    obtain ⟨session, hsession⟩ := h.personal x.1 x.2.1
      (PersonalSessionRepository.get?_of_mem_joined hjoined) hselected.1 hselected.2
    refine ⟨_, by rw [PersonalSessionRepository.toSessionAndToken, hsession]; rfl, fun d => ?_⟩
    unfold PersonalSessionRow.toPersonalSession at hsession
    split at hsession
    · cases hsession
    · cases hsession
    · next scope _ hscope _ =>
      cases hsession
      exact or_congr (Scope.mem_toList_collectStr hscope) (Scope.mem_toList_collectStr hscope)
  · intro x hx y hy hxy
    have hrows := PersonalSessionRepository.get?_of_mem_joined (List.mem_filter.mp hx).1
    rw [hxy, PersonalSessionRepository.get?_of_mem_joined (List.mem_filter.mp hy).1] at hrows
    rw [Option.some.inj hrows]

/-- The rounds that suffice for both loops. -/
def enoughRounds (user : User) (db : Database) : ℕ := (db.oauth2Sessions.select
    (OAuth2SessionRepository.selected db (activeOAuth2Sessions user))).length +
  ((PersonalSessionRepository.joined db).filter
    (fun x => x.2.1.actorUserId = user.id && x.2.1.revokedAt.isNone)).length + 1

theorem returns_gather {userId : Ulid} {rounds : ℕ} (huser : db.user? userId = some user)
    (h : SessionsDecode user db) (hrounds : enoughRounds user db ≤ rounds) :
    ∃ devices, (gather rounds userId).Returns db (user, devices) db ∧ ∀ d, d ∈ devices ↔
      (∃ id r, db.oauth2Sessions.get? id = some r ∧ r.userId = some user.id ∧
        r.finishedAt = none ∧ Names r.scopeList d) ∨
      ∃ id r, db.personalSessions.get? id = some r ∧ r.actorUserId = user.id ∧
        r.revokedAt = none ∧ Names r.scopeList d := by
  unfold enoughRounds at hrounds
  obtain ⟨first, hfirst, hmem₁⟩ := returns_collectDevices rounds ∅ (listing_oauth2 h)
    (by omega)
  obtain ⟨devices, hdevices, hmem₂⟩ := returns_collectDevices rounds first (listing_personal h)
    (by omega)
  refine ⟨devices, ?_, fun d => ?_⟩
  · unfold gather
    refine returns_bind.mpr ⟨some user, db, returns_query.mpr ⟨huser, rfl⟩, ?_⟩
    refine returns_bind.mpr ⟨user, db, returns_ofOption.mpr ⟨rfl, rfl⟩, ?_⟩
    refine returns_bind.mpr ⟨(), db, UserRepository.returns_acquireLockForSync.mpr rfl, ?_⟩
    refine returns_bind.mpr ⟨first, db, hfirst, ?_⟩
    exact returns_bind.mpr ⟨devices, db, hdevices, returns_pure.mpr ⟨rfl, rfl⟩⟩
  · rw [hmem₂, hmem₁]
    refine or_congr ?_ ?_
    · simp only [Finset.notMem_empty, false_or, Prod.exists, mem_select,
        selected_activeOAuth2Sessions, and_assoc]
    · constructor
      · rintro ⟨x, hx, hd⟩
        obtain ⟨hjoined, hselected⟩ := List.mem_filter.mp hx
        simp only [Bool.and_eq_true, decide_eq_true_eq, Option.isNone_iff_eq_none] at hselected
        exact ⟨x.1, x.2.1, PersonalSessionRepository.get?_of_mem_joined hjoined, hselected.1,
          hselected.2, hd⟩
      · rintro ⟨id, r, hr, hactor, hrevoked, hd⟩
        obtain ⟨t, ht⟩ := PersonalSessionRepository.exists_mem_joined hr
        refine ⟨(id, r, t), List.mem_filter.mpr ⟨ht, ?_⟩, hd⟩
        simp [hactor, hrevoked]

end Sessions

/-- The job ends, and has pushed exactly the device ids that active sessions of the user name. -/
theorem pushes_named_devices {H : Type} (matrix : HomeserverConnection H) (homeserver : H)
    {db : Database} {userId : Ulid} {user : User} (huser : db.user? userId = some user)
    (hdecode : SessionsDecode user db) :
    ∃ devices : Finset String, ∃ enough : ℕ,
      (∀ rounds, enough ≤ rounds → run matrix rounds userId db homeserver =
        match matrix.syncDevices user.username devices homeserver with
        | (.ok (), homeserver') => (.ok (), db, homeserver')
        | (.error e, homeserver') => (.error (.retry (.message e)), db, homeserver')) ∧
      ∀ d, d ∈ devices ↔ (∃ id r, db.oauth2Sessions.get? id = some r ∧ r.userId = some user.id ∧
          r.finishedAt = none ∧ Names r.scopeList d) ∨
        ∃ id r, db.personalSessions.get? id = some r ∧ r.actorUserId = user.id ∧
          r.revokedAt = none ∧ Names r.scopeList d := by
  obtain ⟨devices, -, hmem⟩ := returns_gather huser hdecode le_rfl
  refine ⟨devices, enoughRounds user db, fun rounds hrounds => ?_, hmem⟩
  obtain ⟨devices', hgather, hmem'⟩ := returns_gather huser hdecode hrounds
  have hsame : devices' = devices := Finset.ext fun d => by rw [hmem', hmem]
  unfold run
  rw [Txn.transact, hgather, hsame]
  cases hcall : matrix.syncDevices user.username devices homeserver with
  | mk answer homeserver' => cases answer <;> simp only [hcall]

/-- A homeserver that keeps what it was sent. -/
def recording : HomeserverConnection (List (String × Finset String)) :=
  ⟨fun localpart devices sent => (.ok (), sent ++ [(localpart, devices)])⟩

/-- One user, with an OAuth 2.0 session and a personal session on a device each. -/
def twoDevices : Database := { Database.alice with
  oauth2Sessions := Table.empty.insert 5
    ⟨some 1, none, 9, ["openid", stableDeviceScope "A"], 0, none, none, none, none, none⟩
  personalSessions := Table.empty.insert 11
    ⟨some 1, none, 1, "phone", [unstableDeviceScope "B"], 0, none, none, none⟩ }

theorem pushes_twoDevices :
    ∃ devices : Finset String, ("A" ∈ devices ∧ "B" ∈ devices ∧ "C" ∉ devices) ∧
      ∃ enough, ∀ rounds, enough ≤ rounds →
        run recording rounds 1 twoDevices [] = (.ok (), twoDevices, [("alice", devices)]) := by
  have hoauth2 : ∀ id r, twoDevices.oauth2Sessions.get? id = some r → id = 5 ∧
      r = ⟨some 1, none, 9, ["openid", stableDeviceScope "A"], 0, none, none, none, none, none⟩ := by
    intro id r hr
    rcases of_get?_insert hr with h | h
    · exact h
    · cases h.2
  have hpersonal : ∀ id r, twoDevices.personalSessions.get? id = some r → id = 11 ∧
      r = ⟨some 1, none, 1, "phone", [unstableDeviceScope "B"], 0, none, none, none⟩ := by
    intro id r hr
    rcases of_get?_insert hr with h | h
    · exact h
    · cases h.2
  have huser : twoDevices.user? 1 =
      some ⟨1, "alice", 0, 0, none, none, false, false, none, none, none⟩ := rfl
  obtain ⟨devices, enough, hrun, hmem⟩ := pushes_named_devices recording [] huser {
      oauth2 := by
        intro id r hr _ _
        obtain ⟨rfl, rfl⟩ := hoauth2 id r hr
        exact ⟨_, rfl⟩
      personal := by
        intro id r hr _ _
        obtain ⟨rfl, rfl⟩ := hpersonal id r hr
        exact ⟨_, rfl⟩ }
  refine ⟨devices, ⟨(hmem "A").mpr (.inl ⟨5, _, rfl, rfl, rfl, .inl (by decide)⟩),
    (hmem "B").mpr (.inr ⟨11, _, rfl, rfl, rfl, .inr (by decide)⟩), fun hc => ?_⟩, enough, hrun⟩
  rcases (hmem "C").mp hc with ⟨id, r, hr, -, -, hnames⟩ | ⟨id, r, hr, -, -, hnames⟩
  · obtain ⟨-, rfl⟩ := hoauth2 id r hr
    revert hnames
    unfold Names
    decide
  · obtain ⟨-, rfl⟩ := hpersonal id r hr
    revert hnames
    unfold Names
    decide

end SyncDevicesJob
end Pasion
