import Pasion.Handlers.TokenService

/-! Interleaved exchanges of authorization codes. -/
namespace Pasion.CodeExchange

open Relational Txn Table

section Guarantees

variable {ε : Type} [FromRepository ε] (db₀ : Database) (g : Ulid)

def SameCodes (db : Database) : Prop :=
  ∀ id, (db.oauth2AuthorizationGrants.get? id).map (·.authorizationCode) =
    (db₀.oauth2AuthorizationGrants.get? id).map (·.authorizationCode)

def Exchanged (db : Database) : Prop :=
  ∃ r, db.oauth2AuthorizationGrants.get? g = some r ∧ r.exchangedAt.isSome

/-- Codes stay, exchanges are not undone, and `g` is exchanged only under the lock of its row. -/
abbrev Guarded {α : Type} (p : Repo ε α) : Prop :=
  p.Guarded (SameCodes db₀) (Exchanged g) (.row .oauth2AuthorizationGrants g)

abbrev Guards (e : Effect Database LockKey) : Prop :=
  e.Guards (SameCodes db₀) (Exchanged g) (.row .oauth2AuthorizationGrants g)

variable {db₀ g}
variable {grant : AuthorizationGrant}

/-- The code of a grant stays as it is; an exchange marks the grant. -/
def grants : Markable Database LockKey Ulid AuthorizationGrantRow (Option String) where
  row db := db.oauth2AuthorizationGrants.get?
  lockOf := .row .oauth2AuthorizationGrants
  col := AuthorizationGrantRow.authorizationCode
  marked r := r.exchangedAt.isSome

theorem guards_of_grants_eq {e : Effect Database LockKey}
    (h : ∀ db, (e.write db).oauth2AuthorizationGrants = db.oauth2AuthorizationGrants) :
    Guards db₀ g e :=
  Markable.guards_of_row_eq (m := grants) fun db => congrArg Table.get? (h db)

def exchangeEffect (id : Ulid) (exchangedAt : Time) : Effect Database LockKey :=
  ⟨fun db => { db with
      oauth2AuthorizationGrants := db.oauth2AuthorizationGrants.update id
        (fun r => { r with exchangedAt := some exchangedAt }) },
    [.row .oauth2AuthorizationGrants id]⟩

theorem guards_exchangeEffect (id : Ulid) (exchangedAt : Time) :
    Guards db₀ g (exchangeEffect id exchangedAt) :=
  Markable.guards_of_update (m := grants) (fun _ _ => get?_update _ _ _ _) (fun _ => rfl)
    (fun _ => rfl) (List.mem_singleton_self _)

theorem marks_exchangeEffect (hg : (db₀.oauth2AuthorizationGrants.get? g).isSome)
    (exchangedAt : Time) :
    (exchangeEffect g exchangedAt).Marks (SameCodes db₀) (Exchanged g)
      (.row .oauth2AuthorizationGrants g) :=
  Markable.marks_of_update (m := grants) (fun _ _ => get?_update _ _ _ _) (fun _ => rfl)
    (List.mem_singleton_self _) hg

omit [FromRepository ε] in
theorem guarded_of_aside {α : Type} {p : Repo ε α} (h : p.Issues Aside) : Guarded db₀ g p :=
  (h.mono fun _ he => guards_of_grants_eq he.grants).guarded

theorem guarded_fetch {α : Type} (f : Database → Except DatabaseError α) :
    Guarded db₀ g (Repo.fetch f : Repo ε α) :=
  (Repo.issues_fetch f).guarded

theorem guarded_insert {violation : Database → Option DatabaseError} {locks : List LockKey}
    {write : Database → Database}
    (h : ∀ db, (write db).oauth2AuthorizationGrants = db.oauth2AuthorizationGrants) :
    Guarded db₀ g (Repo.insert violation locks write : Repo ε Unit) :=
  (Repo.issues_insert Effect.guards_idle (guards_of_grants_eq h)).guarded

theorem guarded_generateTokenPair (env : TokenEnv) (session : Session) (ttl : Duration) :
    Guarded db₀ g (generateTokenPair env session ttl : Repo ε (AccessToken × RefreshToken)) := by
  unfold generateTokenPair OAuth2AccessTokenRepository.add OAuth2RefreshTokenRepository.add
  refine ((guarded_insert ?_).seq fun _ => guarded_pure _).seq fun accessToken => ?_
  · intro db
    rfl
  · refine ((guarded_insert ?_).seq fun _ => guarded_pure _).seq fun _ => guarded_pure _
    intro db
    rfl

theorem guarded_fulfilledSessionId (now : Time) (grant : AuthorizationGrant) :
    Guarded db₀ g (fulfilledSessionId now grant) := by
  unfold fulfilledSessionId
  cases grant.stage with
  | pending => exact guarded_rollback _
  | cancelled _ => exact guarded_rollback _
  | fulfilled _ _ =>
    dsimp only
    split_ifs
    · exact guarded_rollback _
    · exact guarded_pure _
  | exchanged sessionId _ _ =>
    dsimp only
    split_ifs
    · refine (guarded_fetch _).seq fun found => (guarded_ofOption _ _).seq fun session => ?_
      exact (guarded_of_aside issues_finish).seq fun _ => guarded_commitError _
    · exact guarded_rollback _

theorem satisfies_exchange {w : Effect Database LockKey} (hw : Guards db₀ g w) (now : Time) {P : Prop}
    (hg : P → grant.id = g ∧ (db₀.oauth2AuthorizationGrants.get? g).isSome) :
    (OAuth2AuthorizationGrantRepository.exchange now grant : Repo ε _).Satisfies (SameCodes db₀)
      (fun _ => Guards db₀ g)
      (fun _ w' => P → w'.Marks (SameCodes db₀) (Exchanged g) (.row .oauth2AuthorizationGrants g))
      w := by
  have heffect : Guards db₀ g _ := guards_exchangeEffect grant.id now
  unfold OAuth2AuthorizationGrantRepository.exchange
  simp only [satisfies_bind, Repo.satisfies_updateRow, Repo.satisfies_transition, satisfies_pure]
  intro db _
  refine ⟨fun _ => Effect.guards_idle, fun _ _ => ⟨heffect, fun _ _ hP => ?_⟩⟩
  obtain ⟨hid, hsome⟩ := hg hP
  refine Effect.Marks.seq_right hw ?_
  rw [hid]
  exact marks_exchangeEffect hsome now

theorem id_of_findByCode {c : String} {db : Database}
    (hg : ∀ id, (db₀.oauth2AuthorizationGrants.find?
      (fun _ r => r.authorizationCode = some c)).map Prod.fst = some id → id = g)
    (hdb : SameCodes db₀ db)
    (hfound : (db.oauth2AuthorizationGrants.find? (fun _ r => r.authorizationCode = some c)).mapM
      (fun r => r.2.toAuthorizationGrant r.1) = .ok (some grant)) :
    grant.id = g ∧ (db₀.oauth2AuthorizationGrants.get? g).isSome := by
  obtain ⟨found, hfind, hdecode⟩ := Option.bind_eq_some_iff.mp (mapM_eq_ok_some.mp hfound)
  obtain ⟨hid, hthere⟩ := find?_same (q := fun code => decide (code = some c)) hdb hg hfind
  have hdecoded := AuthorizationGrantRow.toAuthorizationGrant_ok (toOption_eq_some.mp hdecode)
  exact ⟨hdecoded.1.trans hid, hthere⟩

/-- A transaction with the code of the grant `g` commits tokens only after marking `g`. -/
theorem satisfies_exchangeAuthorizationCode {c : String}
    (hg : ∀ id, (db₀.oauth2AuthorizationGrants.find?
      (fun _ r => r.authorizationCode = some c)).map Prod.fst = some id → id = g)
    (x : Services) (env : TokenEnv) (grant : AuthorizationCodeGrant) (client : Client) :
    (exchangeAuthorizationCode x env grant client).Satisfies (SameCodes db₀)
      (fun _ => Guards db₀ g)
      (fun _ w => grant.code = c →
        w.Marks (SameCodes db₀) (Exchanged g) (.row .oauth2AuthorizationGrants g)) .idle := by
  unfold exchangeAuthorizationCode
  refine (guarded_require _ _).bind Effect.guards_idle fun _ w hw => ?_
  refine satisfies_bind.mpr (Repo.satisfies_fetch.mpr fun db hdb found hfound => ?_)
  refine satisfies_bind.mpr (satisfies_ofOption.mpr fun authzGrant hauthz => ?_)
  have hid : grant.code = c →
      authzGrant.id = g ∧ (db₀.oauth2AuthorizationGrants.get? g).isSome := by
    intro hcode
    rw [hauthz, hcode] at hfound
    exact id_of_findByCode hg hdb hfound
  refine (guarded_fulfilledSessionId _ _).bind hw fun _ w hw => ?_
  refine (guarded_fetch _).bind hw fun _ w hw => ?_
  refine (guarded_ofOption _ _).bind hw fun _ w hw => ?_
  refine (guarded_ofExcept _ _).bind hw fun _ w hw => ?_
  refine (guarded_ofExcept _ _).bind hw fun _ w hw => ?_
  refine (guarded_of_aside issues_recordUserAgent).bind hw fun _ w hw => ?_
  refine (guarded_ofOption _ _).bind hw fun _ w hw => ?_
  refine (guarded_require _ _).bind hw fun _ w hw => ?_
  refine (guarded_require _ _).bind hw fun _ w hw => ?_
  refine (guarded_ofExcept _ _).bind hw fun _ w hw => ?_
  refine (guarded_of_aside issues_ensureMayKeepAdminScope).bind hw fun _ w hw => ?_
  refine (guarded_ofOption _ _).bind hw fun _ w hw => ?_
  refine satisfies_bind.mpr (BrowserSessionRepository.satisfies_lookup fun _ => ?_)
  refine (guarded_ofOption _ _).bind hw fun _ w hw => ?_
  refine (guarded_fetch _).bind hw fun _ w hw => ?_
  refine (guarded_generateTokenPair _ _ _).bind hw fun _ w hw => ?_
  refine (guarded_ofExcept _ _).bind hw fun _ w hw => ?_
  refine (guarded_of_aside issues_acquireLockForSync).bind hw fun _ w hw => ?_
  refine (guarded_ofExcept _ _).bind hw fun _ w hw => ?_
  exact satisfies_bind.mpr (satisfies_exchange hw env.now hid)

end Guarantees
section Runs

structure Request where
  services : Services
  env : TokenEnv
  grant : AuthorizationCodeGrant
  client : Client

variable {ι : Type} [DecidableEq ι]

abbrev State (ι : Type) :=
  Config ι Database LockKey AuthorizationCodeExchangeError AccessTokenResponse

def start (db : Database) (requests : ι → Request) : State ι :=
  Config.start db (fun i => exchangeAuthorizationCode (requests i).services (requests i).env
    (requests i).grant (requests i).client)

/-- No two transactions that committed tokens did so for one code. -/
def IssuedOnce (requests : ι → Request) (c : State ι) : Prop :=
  ∀ i j a b, (requests i).grant.code = (requests j).grant.code →
    (c.threads i).phase = .committed (.ok a) → (c.threads j).phase = .committed (.ok b) → i = j

/-- A statement about to write the row of a grant finds the committed row not exchanged. -/
def updatesUnexchanged (c : State ι) (x : ι × Action) : Bool :=
  match x.2, c.nextEffect x.1 with
  | .advance, some e => e.locks.all (fun
      | .row .oauth2AuthorizationGrants id =>
        (c.data.oauth2AuthorizationGrants.get? id).all (·.exchangedAt.isNone)
      | _ => true)
  | _, _ => true

omit [DecidableEq ι] in
theorem takesUnmarked_of_updatesUnexchanged {g : Ulid} {c : State ι} {x : ι × Action}
    (h : updatesUnexchanged c x) :
    c.TakesUnmarked (Exchanged g) (.row .oauth2AuthorizationGrants g) x := by
  intro hadvance e he hk ⟨r, hr, hex⟩
  unfold updatesUnexchanged at h
  rw [hadvance, he] at h
  have hall := List.all_eq_true.mp h _ hk
  have hnone : r.exchangedAt = none := by simpa [hr] using hall
  rw [hnone] at hex
  exact absurd hex (by simp)

/-- Where each update finds its row not exchanged, a code is good for one issue of tokens. -/
theorem issuedOnce_of_updatesUnexchanged (db : Database) (requests : ι → Request)
    (xs : List (ι × Action)) (c : State ι) (hrun : (start db requests).run xs = some c)
    (hfree : (start db requests).along updatesUnexchanged xs) : IssuedOnce requests c := by
  intro i j a b hcode hi hj
  let code := (requests i).grant.code
  let found := db.oauth2AuthorizationGrants.find? (fun _ r => r.authorizationCode = some code)
  -- without a grant for the code, any id serves: no transaction gets as far as its tokens
  have hg : ∀ id, found.map Prod.fst = some id → id = (found.map Prod.fst).getD 0 := by
    intro id hid
    rw [hid, Option.getD_some]
  refine Config.race_unique (V := SameCodes db) (W := fun l => (requests l).grant.code = code)
    (fun _ => rfl) (fun l => satisfies_exchangeAuthorizationCode hg _ _ _ _)
    (fun _ _ => takesUnmarked_of_updatesUnexchanged) hfree hrun rfl hcode.symm hi hj

end Runs

section Race

def agreeable : Services where
  parseLocale := .ok
  renderDeviceName _ _ _ := .ok "device"
  generateIdToken _ _ _ _ _ := .ok "id_token"
  upsertDevice _ _ _ := .ok ()
  s256 := id
  evaluateAuthorizationGrant _ _ _ := .ok []

def fulfilledGrant : Database := { Database.alice with
  userSessions := Table.empty.insert 2 ⟨1, 0, none, none, none, none⟩
  oauth2Clients := Table.empty.insert 3 .codeFlow
  oauth2Sessions := Table.empty.insert 4
    ⟨some 1, some 2, 3, ["openid"], 0, none, none, none, none, none⟩
  oauth2AuthorizationGrants := Table.empty.insert 5
    ⟨0, none, some 0, none, "openid", none, none, "https://client/", true, "query", true, false,
      some "code", none, none, none, none, 3, some 4⟩ }

def twoRequests (i : Bool) : Request where
  services := agreeable
  env := if i then ⟨1, 300, [1], [1], 10, 11, 12, none⟩ else ⟨1, 300, [2], [2], 20, 21, 22, none⟩
  grant := ⟨"code", some "https://client/", none⟩
  client := ⟨3, Ulid.toString 3, [.authorizationCode, .refreshToken], none⟩

def hasIssued (i : Bool) (c : State Bool) : Bool :=
  match (c.threads i).phase with
  | .committed (.ok _) => true
  | _ => false

/-- The second transaction reads the grant before the first commits, and updates it after. -/
theorem code_issued_twice : ∃ (db : Database) (requests : Bool → Request)
    (xs : List (Bool × Action)) (c : State Bool),
    (start db requests).run xs = some c ∧ ¬IssuedOnce requests c := by
  let xs : List (Bool × Action) := List.replicate 7 (true, .advance) ++
    List.replicate 7 (false, .advance) ++ List.replicate 3 (true, .advance) ++
    List.replicate 3 (false, .advance)
  have hboth : ((start fulfilledGrant twoRequests).run xs).any
      (fun c => c.hasCommitted true && c.hasCommitted false) := by decide +kernel
  obtain ⟨c, a, b, hc, ha, hb⟩ := Config.exists_both_committed hboth
  refine ⟨fulfilledGrant, twoRequests, xs, c, hc, fun honce => ?_⟩
  exact absurd (honce true false a b rfl ha hb) (by decide)

/-- One after the other, the first request gets its tokens and the second none. -/
theorem issuedOnce_one_after_the_other : ∃ c,
    (start fulfilledGrant twoRequests).run
      (List.replicate 10 (true, .advance) ++ List.replicate 2 (false, .advance)) = some c ∧
    hasIssued true c ∧ IssuedOnce twoRequests c := by
  let xs : List (Bool × Action) := List.replicate 10 (true, .advance) ++
    List.replicate 2 (false, .advance)
  have hfirst : ((start fulfilledGrant twoRequests).run xs).any (hasIssued true) := by
    decide +kernel
  obtain ⟨c, hc, hissued⟩ := (Option.any_eq_true _ _).mp hfirst
  exact ⟨c, hc, hissued, issuedOnce_of_updatesUnexchanged _ _ xs c hc (by decide +kernel)⟩

end Race

end Pasion.CodeExchange
