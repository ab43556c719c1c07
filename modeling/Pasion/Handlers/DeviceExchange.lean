import Pasion.Handlers.CodeExchange

/-! Interleaved exchanges of device codes. -/
namespace Pasion.DeviceExchange

open Relational Txn

/-- The device code of a grant stays as it is; an exchange marks the grant. -/
def grants : Markable Database LockKey Ulid DeviceCodeGrantRow String where
  row db := db.oauth2DeviceCodeGrant.get?
  lockOf := .row .oauth2DeviceCodeGrant
  col := DeviceCodeGrantRow.deviceCode
  marked r := r.exchangedAt.isSome

section Guarantees

variable {ε : Type} [FromRepository ε] {db₀ : Database} {g : Ulid}
variable {grant : DeviceCodeGrant}

abbrev Guards (db₀ : Database) (g : Ulid) (e : Effect Database LockKey) : Prop :=
  e.Guards (grants.Same db₀) (grants.Marked g) (.row .oauth2DeviceCodeGrant g)

abbrev Guarded {α : Type} (db₀ : Database) (g : Ulid) (p : Repo ε α) : Prop :=
  p.Guarded (grants.Same db₀) (grants.Marked g) (.row .oauth2DeviceCodeGrant g)

theorem guards_of_grants_eq {e : Effect Database LockKey}
    (h : ∀ db, (e.write db).oauth2DeviceCodeGrant = db.oauth2DeviceCodeGrant) : Guards db₀ g e :=
  Markable.guards_of_row_eq (m := grants) fun db => congrArg Table.get? (h db)

theorem guarded_insert {violation : Database → Option DatabaseError} {locks : List LockKey}
    {write : Database → Database}
    (h : ∀ db, (write db).oauth2DeviceCodeGrant = db.oauth2DeviceCodeGrant) :
    Guarded db₀ g (Repo.insert violation locks write : Repo ε Unit) :=
  (Repo.issues_insert Effect.guards_idle (guards_of_grants_eq h)).guarded

theorem guarded_addFromBrowserSession (now : Time) (id : Ulid) (client : Client)
    (browserSession : BrowserSession) (scope : Scope) :
    Guarded db₀ g (OAuth2SessionRepository.addFromBrowserSession now id client browserSession scope :
      Repo ε Session) := by
  refine Txn.Guarded.seq ?_ fun _ => guarded_pure _
  exact guarded_insert fun _ => rfl

omit [FromRepository ε] in
theorem guarded_of_aside {α : Type} {p : Repo ε α} (h : p.Issues Aside) : Guarded db₀ g p :=
  (h.mono fun _ he => guards_of_grants_eq he.deviceGrants).guarded

theorem guarded_refreshTokenIfGranted (env : TokenEnv) (client : Client) (session : Session)
    (accessToken : AccessToken) :
    Guarded db₀ g (refreshTokenIfGranted env client session accessToken) := by
  unfold refreshTokenIfGranted
  split_ifs
  · refine Txn.Guarded.seq ?_ fun _ => guarded_pure _
    refine Txn.Guarded.seq ?_ fun _ => guarded_pure _
    exact guarded_insert fun _ => rfl
  · exact guarded_pure _

theorem satisfies_exchange {w : Effect Database LockKey} (hw : Guards db₀ g w) (now : Time)
    (session : Session) {P : Prop}
    (hg : P → grant.id = g ∧ (db₀.oauth2DeviceCodeGrant.get? g).isSome) :
    (OAuth2DeviceCodeGrantRepository.exchange now grant session : Repo ε _).Satisfies
      (grants.Same db₀) (fun _ => Guards db₀ g)
      (fun _ w' => Guards db₀ g w' ∧
        (P → w'.Marks (grants.Same db₀) (grants.Marked g) (.row .oauth2DeviceCodeGrant g))) w := by
  unfold OAuth2DeviceCodeGrantRepository.exchange
  simp only [satisfies_bind, Repo.satisfies_updateRow, Repo.satisfies_transition, satisfies_pure]
  intro state _ db _
  let mark (r : DeviceCodeGrantRow) : DeviceCodeGrantRow :=
    { r with exchangedAt := some now, oauth2SessionId := some session.id }
  let effect : Effect Database LockKey :=
    ⟨(·.updateDeviceGrant grant.id mark), [.row .oauth2DeviceCodeGrant grant.id]⟩
  have hrow : ∀ db k, grants.row (effect.write db) k =
      if k = grant.id then (grants.row db k).map mark else grants.row db k :=
    fun db k => Table.get?_update _ _ _ _
  have hguards : Guards db₀ g effect :=
    Markable.guards_of_update (m := grants) hrow (fun _ => rfl) (fun _ => rfl)
      (by simp [effect, grants])
  refine ⟨fun _ => Effect.guards_idle, fun _ _ => ⟨hguards, hw.seq hguards, fun hP => ?_⟩⟩
  obtain ⟨hid, hsome⟩ := hg hP
  refine Effect.Marks.seq_right hw ?_
  subst hid
  exact Markable.marks_of_update (m := grants) hrow (fun _ => rfl) (by simp [grants]) hsome

theorem id_of_toDeviceCodeGrant {id : Ulid} {r : DeviceCodeGrantRow}
    (h : r.toDeviceCodeGrant id = .ok grant) : grant.id = id := by
  unfold DeviceCodeGrantRow.toDeviceCodeGrant at h
  split at h
  · cases h
  · cases h
  · cases h
    rfl

theorem id_of_findByDeviceCode {code : String} {db : Database}
    (hg : ∀ id, (db₀.oauth2DeviceCodeGrant.find?
      (fun _ r => r.deviceCode = code)).map Prod.fst = some id → id = g)
    (hdb : grants.Same db₀ db)
    (hfound : (db.oauth2DeviceCodeGrant.find? (fun _ r => r.deviceCode = code)).mapM
      (fun r => r.2.toDeviceCodeGrant r.1) = .ok (some grant)) :
    grant.id = g ∧ (db₀.oauth2DeviceCodeGrant.get? g).isSome := by
  obtain ⟨found, hfind, hdecode⟩ := Option.bind_eq_some_iff.mp (mapM_eq_ok_some.mp hfound)
  obtain ⟨hid, hthere⟩ := Table.find?_same (q := fun c => decide (c = code)) hdb hg hfind
  exact ⟨(id_of_toDeviceCodeGrant (toOption_eq_some.mp hdecode)).trans hid, hthere⟩

/-- A transaction with the device code of the grant `g` commits tokens only after marking `g`. -/
theorem satisfies_exchangeDeviceCode {code : String}
    (hg : ∀ id, (db₀.oauth2DeviceCodeGrant.find?
      (fun _ r => r.deviceCode = code)).map Prod.fst = some id → id = g)
    (x : Services) (env : TokenEnv) (deviceCode : String) (client : Client) :
    (exchangeDeviceCode x env deviceCode client).Satisfies (grants.Same db₀)
      (fun _ => Guards db₀ g)
      (fun _ w => deviceCode = code →
        w.Marks (grants.Same db₀) (grants.Marked g) (.row .oauth2DeviceCodeGrant g)) .idle := by
  unfold exchangeDeviceCode
  refine (guarded_require _ _).bind Effect.guards_idle fun _ w hw => ?_
  refine satisfies_bind.mpr (Repo.satisfies_fetch.mpr fun db hdb found hfound => ?_)
  refine satisfies_bind.mpr (satisfies_ofOption.mpr fun grant hgrant => ?_)
  have hid : deviceCode = code → grant.id = g ∧ (db₀.oauth2DeviceCodeGrant.get? g).isSome := by
    intro hcode
    rw [hgrant, hcode] at hfound
    exact id_of_findByDeviceCode hg hdb hfound
  refine (guarded_require _ _).bind hw fun _ w hw => ?_
  refine (guarded_require _ _).bind hw fun _ w hw => ?_
  refine (guarded_ofExcept _ _).bind hw fun _ w hw => ?_
  refine satisfies_bind.mpr (BrowserSessionRepository.satisfies_lookup fun _ => ?_)
  refine (guarded_ofOption _ _).bind hw fun _ w hw => ?_
  refine (guarded_require _ _).bind hw fun _ w hw => ?_
  refine (guarded_addFromBrowserSession _ _ _ _ _).bind hw fun _ w hw => ?_
  refine satisfies_bind.mpr ((satisfies_exchange hw env.now _ hid).mono fun _ w hmark => ?_)
  obtain ⟨hw, hmark⟩ := hmark
  -- what follows the exchange leaves the grants as they are
  refine Txn.Guarded.marks ?_ hw hmark
  refine (guarded_of_aside issues_recordUserAgent).seq fun session => ?_
  refine (guarded_of_aside issues_addAccessToken).seq fun accessToken => ?_
  refine (guarded_refreshTokenIfGranted _ _ _ _).seq fun refreshToken => ?_
  refine (guarded_ofExcept _ _).seq fun idToken => ?_
  refine (guarded_of_aside issues_acquireLockForSync).seq fun _ => ?_
  exact (guarded_ofExcept _ _).seq fun _ => guarded_pure _

end Guarantees

section Runs

structure Request where
  services : Services
  env : TokenEnv
  deviceCode : String
  client : Client

variable {ι : Type} [DecidableEq ι]

abbrev State (ι : Type) := Config ι Database LockKey DeviceCodeExchangeError AccessTokenResponse

def start (db : Database) (requests : ι → Request) : State ι :=
  Config.start db (fun i => exchangeDeviceCode (requests i).services (requests i).env
    (requests i).deviceCode (requests i).client)

/-- No two transactions that committed a session with tokens did so for one device code. -/
def IssuedOnce (requests : ι → Request) (c : State ι) : Prop :=
  ∀ i j a b, (requests i).deviceCode = (requests j).deviceCode →
    (c.threads i).phase = .committed (.ok a) → (c.threads j).phase = .committed (.ok b) → i = j

def unexchangedRow : LockKey → Database → Bool
  | .row .oauth2DeviceCodeGrant id, db =>
    (db.oauth2DeviceCodeGrant.get? id).all (·.exchangedAt.isNone)
  | _, _ => true

theorem not_marked_of_unexchangedRow {g : Ulid} {db : Database}
    (h : unexchangedRow (.row .oauth2DeviceCodeGrant g) db) : ¬grants.Marked g db := by
  rintro ⟨r, hr, hexchanged⟩
  have hget : db.oauth2DeviceCodeGrant.get? g = some r := hr
  have hnone : r.exchangedAt = none := by simpa [unexchangedRow, hget] using h
  have hsome : r.exchangedAt.isSome := hexchanged
  rw [hnone] at hsome
  cases hsome

/-- Where each update finds its row not exchanged, a device code is good for one session. -/
theorem issuedOnce_of_unexchangedRow (db : Database) (requests : ι → Request)
    (xs : List (ι × Action)) (c : State ι) (hrun : (start db requests).run xs = some c)
    (hfree : (start db requests).along (Config.writesWhere unexchangedRow) xs) :
    IssuedOnce requests c := by
  intro i j a b hcode hi hj
  let code := (requests i).deviceCode
  let found := db.oauth2DeviceCodeGrant.find? (fun _ r => r.deviceCode = code)
  -- without a grant for the code, any id serves: no transaction gets as far as its tokens
  have hg : ∀ id, found.map Prod.fst = some id → id = (found.map Prod.fst).getD 0 := by
    intro id hid
    rw [hid, Option.getD_some]
  refine Config.race_unique (V := grants.Same db) (W := fun l => (requests l).deviceCode = code)
    (fun _ => rfl) (fun l => satisfies_exchangeDeviceCode hg _ _ _ _)
    (fun _ _ => Config.takesUnmarked_of_writesWhere fun _ => not_marked_of_unexchangedRow)
    hfree hrun rfl hcode.symm hi hj

end Runs

section Race

def approvedDevice : Database := { Database.alice with
  userSessions := Table.empty.insert 2 ⟨1, 0, none, none, none, none⟩
  oauth2Clients := Table.empty.insert 3
    ⟨false, true, false, some true, none, none, none, none, none, none, .empty⟩
  oauth2DeviceCodeGrant := Table.empty.insert 5
    ⟨3, "openid", "device", "user", 0, 100, some 0, none, none, some 2, none, none, none⟩ }

def twoPolls (i : Bool) : Request where
  services := CodeExchange.agreeable
  env := if i then ⟨1, 300, [1], [1], 10, 11, 12, none⟩ else ⟨1, 300, [2], [2], 20, 21, 22, none⟩
  deviceCode := "device"
  client := ⟨3, Ulid.toString 3, [.refreshToken, .deviceCode], none⟩

/-- Both polls find the grant fulfilled; the second updates it after the first commits. -/
theorem device_code_issued_twice : ∃ (db : Database) (requests : Bool → Request)
    (xs : List (Bool × Action)) (c : State Bool),
    (start db requests).run xs = some c ∧ ¬IssuedOnce requests c := by
  let xs : List (Bool × Action) := List.replicate 3 (true, .advance) ++
    List.replicate 3 (false, .advance) ++ List.replicate 6 (true, .advance) ++
    List.replicate 6 (false, .advance)
  have hboth : ((start approvedDevice twoPolls).run xs).any
      (fun c => c.hasCommitted true && c.hasCommitted false) := by decide +kernel
  obtain ⟨c, a, b, hc, ha, hb⟩ := Config.exists_both_committed hboth
  refine ⟨approvedDevice, twoPolls, xs, c, hc, fun honce => ?_⟩
  exact absurd (honce true false a b rfl ha hb) (by decide)

/-- One after the other, the first poll gets its tokens and the second none. -/
theorem device_code_issued_one_after_the_other : ∃ c,
    (start approvedDevice twoPolls).run
      (List.replicate 9 (true, .advance) ++ List.replicate 2 (false, .advance)) = some c ∧
    c.hasCommitted true ∧ IssuedOnce twoPolls c := by
  let xs : List (Bool × Action) := List.replicate 9 (true, .advance) ++
    List.replicate 2 (false, .advance)
  have hfirst : ((start approvedDevice twoPolls).run xs).any (·.hasCommitted true) := by
    decide +kernel
  obtain ⟨c, hc, hissued⟩ := (Option.any_eq_true _ _).mp hfirst
  exact ⟨c, hc, hissued, issuedOnce_of_unexchangedRow _ _ xs c hc (by decide +kernel)⟩

end Race

end Pasion.DeviceExchange
