import Pasion.Handlers.Admin
import Pasion.Tasks.Matrix

/-! The name that someone gives to a session, and the devices whose names follow it. -/
namespace Pasion.SessionNames

open Relational Txn

inductive AccountSessionError where
  | notFound
  | unauthorized
  | repository (e : DatabaseError)

instance : FromRepository AccountSessionError := ⟨.repository⟩

inductive RequestingEntity where
  | anonymous
  | browserSession (session : BrowserSession)
  | oauth2Session (session : Session) (user : Option User)

namespace RequestingEntity

def user : RequestingEntity → Option User
  | browserSession session => some session.user
  | oauth2Session _ user => user
  | anonymous => none

def isAdmin : RequestingEntity → Bool
  | oauth2Session session user => Admin.hasAdminScope session.scope && Admin.mayHoldAdminScope user
  | _ => false

def isOwnerOrAdmin (requester : RequestingEntity) (ownerId : Option Ulid) : Bool :=
  requester.isAdmin || ownerId.any (fun id => requester.user.any (·.id = id))

end RequestingEntity

/-- A call of `update_device_display_name`. -/
structure DisplayNameUpdate where
  (username deviceId displayName : String)

def displayNameUpdates (scope : Scope) : Option String → Option User → List DisplayNameUpdate
  | some name, some user => scope.iter.filterMap (fun token =>
      (Str.stripPrefix "urn:matrix:org.matrix.msc2967.client:device:" token.asStr).map
        (fun deviceId => ⟨user.username, deviceId, name⟩))
  | _, _ => []

/-- Returns the calls that it makes of the homeserver, whose answers are ignored. -/
def setOAuth2SessionHumanName (requester : RequestingEntity) (sessionId : Ulid)
    (humanName : Option String) : Repo AccountSessionError (List DisplayNameUpdate) := do
  let session ← OAuth2SessionRepository.lookup sessionId
  let session ← Txn.ofOption session .notFound
  Txn.require (requester.isOwnerOrAdmin session.userId) .unauthorized
  let sessionUser ← session.userId.elim (pure none) UserRepository.lookup
  let session ← OAuth2SessionRepository.setHumanName session humanName
  pure (displayNameUpdates session.scope humanName sessionUser)

/-- The calls bring the name to exactly the devices that a synchronisation finds in the scope. -/
def ReachesDevices (scope : Scope) (name : String) (calls : List DisplayNameUpdate) : Prop :=
  ∀ d, (∃ call ∈ calls, call.deviceId = d ∧ call.displayName = name) ↔
    d ∈ SyncDevicesJob.insertDevices scope ∅

section Calls

variable {requester : RequestingEntity} {sessionId : Ulid} {humanName : Option String}
  {db db' : Database} {session : Session} {calls : List DisplayNameUpdate} {scope : Scope}
  {name : String} {user : User}

theorem mem_displayNameUpdates {call : DisplayNameUpdate} :
    call ∈ displayNameUpdates scope (some name) (some user) ↔
      unstableDeviceScope call.deviceId ∈ scope.toList ∧ call.username = user.username ∧
        call.displayName = name := by
  simp only [displayNameUpdates, List.mem_filterMap, Option.map_eq_some_iff, Scope.mem_toList,
    Scope.mem_iter]
  constructor
  · rintro ⟨token, htoken, deviceId, hstrip, rfl⟩
    exact ⟨⟨token, htoken, Str.stripPrefix_some hstrip⟩, rfl, rfl⟩
  · obtain ⟨username, deviceId, displayName⟩ := call
    rintro ⟨⟨token, htoken, htext⟩, rfl, rfl⟩
    refine ⟨token, htoken, deviceId, ?_, rfl⟩
    rw [htext]
    exact Str.stripPrefix_append ..

theorem calls_of_returns (hsession : db.session? sessionId = some session)
    (h : (setOAuth2SessionHumanName requester sessionId humanName).Returns db calls db') :
    calls = displayNameUpdates session.scope humanName (session.userId.bind db.user?) := by
  obtain ⟨found, _, hlookup, h⟩ := returns_bind.mp h
  obtain ⟨found, rfl, h⟩ := returns_ofOption_bind.mp h
  obtain ⟨hfound, rfl⟩ := OAuth2SessionRepository.returns_lookup.mp hlookup
  cases hsession.symm.trans hfound
  obtain ⟨-, h⟩ := returns_require_bind.mp h
  obtain ⟨sessionUser, _, huser, h⟩ := returns_bind.mp h
  obtain ⟨named, _, hnamed, h⟩ := returns_bind.mp h
  obtain ⟨-, _, -, hname⟩ := returns_bind.mp hnamed
  obtain ⟨rfl, -⟩ := returns_pure.mp hname
  obtain ⟨rfl, -⟩ := returns_pure.mp h
  have hbind : sessionUser = session.userId.bind db.user? := by
    cases hid : session.userId with
    | none =>
      rw [hid] at huser
      exact (returns_pure.mp huser).1.symm
    | some id =>
      rw [hid] at huser
      exact (returns_query.mp huser).1.symm
  rw [hbind]

end Calls

/-- A new name reaches the devices exactly if unstable tokens name them and the user is there. -/
theorem name_reaches_devices_iff (requester : RequestingEntity) (sessionId : Ulid)
    (humanName : Option String) (db db' : Database) (session : Session)
    (calls : List DisplayNameUpdate) (hsession : db.session? sessionId = some session)
    (h : (setOAuth2SessionHumanName requester sessionId humanName).Returns db calls db') :
    (∀ name ∈ humanName, ReachesDevices session.scope name calls) ↔
      humanName = none ∨ ∀ d, stableDeviceScope d ∈ session.scope.toList ∨
        unstableDeviceScope d ∈ session.scope.toList →
        unstableDeviceScope d ∈ session.scope.toList ∧ ∃ id user, session.userId = some id ∧
          db.user? id = some user := by
  obtain rfl := calls_of_returns hsession h
  cases humanName with
  | none => exact iff_of_true nofun (.inl rfl)
  | some name =>
    simp only [Option.mem_some_iff, forall_eq', reduceCtorEq, false_or, ReachesDevices,
      SyncDevicesJob.mem_insertDevices, Finset.notMem_empty]
    refine forall_congr' fun d => ?_
    cases huser : session.userId.bind db.user? with
    | none =>
      have hnone : ¬∃ id user, session.userId = some id ∧ db.user? id = some user := by
        rintro ⟨id, user, hid, hfound⟩
        rw [hid, Option.bind_some, hfound] at huser
        cases huser
      simp only [displayNameUpdates, List.not_mem_nil, false_and, exists_false, false_iff,
        hnone, and_false, imp_false]
    | some user =>
      obtain ⟨id, hid, hfound⟩ := Option.bind_eq_some_iff.mp huser
      have hcall : (∃ call ∈ displayNameUpdates session.scope (some name) (some user),
          call.deviceId = d ∧ call.displayName = name) ↔
          unstableDeviceScope d ∈ session.scope.toList := by
        simp only [mem_displayNameUpdates]
        constructor
        · rintro ⟨call, ⟨hmem, -⟩, rfl, -⟩
          exact hmem
        · exact fun hmem => ⟨⟨user.username, d, name⟩, ⟨hmem, rfl, rfl⟩, rfl, rfl⟩
      rw [hcall]
      constructor
      · exact fun hiff hdevice => ⟨hiff.mpr hdevice, id, user, hid, hfound⟩
      · exact fun hdevices => ⟨.inr, fun hdevice => (hdevices hdevice).1⟩

def sessionWith (token : String) : Database := { Database.alice with
  oauth2Sessions := Table.empty.insert 4
    ⟨some 1, none, 3, [token], 0, none, none, none, none, none⟩ }

def alice : RequestingEntity := .browserSession ⟨2, ⟨1, "alice", 0, 0, none, none, false, false,
  none, none, none⟩, 0, none, none, none, none⟩

theorem stable_device_keeps_name : ∃ session calls db',
    (sessionWith (stableDeviceScope "DEV")).session? 4 = some session ∧
    (setOAuth2SessionHumanName alice 4 (some "phone")).Returns
      (sessionWith (stableDeviceScope "DEV")) calls db' ∧
    ¬ReachesDevices session.scope "phone" calls := by
  have hstored : ((sessionWith (stableDeviceScope "DEV")).session? 4).any
      (fun session => session.scope.toList = [stableDeviceScope "DEV"]) := by decide +kernel
  obtain ⟨session, hsession, hscope⟩ := (Option.any_eq_true _ _).mp hstored
  obtain ⟨calls, hcalls, hnone⟩ := exists_returns
    (setOAuth2SessionHumanName alice 4 (some "phone")) (sessionWith (stableDeviceScope "DEV"))
    (fun calls => calls = []) (by decide +kernel)
  refine ⟨session, calls, _, hsession, hcalls, fun hreaches => ?_⟩
  have hdevice : "DEV" ∈ SyncDevicesJob.insertDevices session.scope ∅ := by
    rw [SyncDevicesJob.mem_insertDevices, of_decide_eq_true hscope]
    exact .inr (.inl List.mem_cons_self)
  obtain ⟨call, hcall, -⟩ := (hreaches "DEV").mpr hdevice
  rw [of_decide_eq_true hnone] at hcall
  cases hcall

theorem unstable_device_named : ∃ session calls db',
    (sessionWith (unstableDeviceScope "DEV")).session? 4 = some session ∧
    (setOAuth2SessionHumanName alice 4 (some "phone")).Returns
      (sessionWith (unstableDeviceScope "DEV")) calls db' ∧
    ReachesDevices session.scope "phone" calls := by
  have hstored : ((sessionWith (unstableDeviceScope "DEV")).session? 4).any (fun session =>
      session.scope.toList = [unstableDeviceScope "DEV"] ∧ session.userId = some 1) := by
    decide +kernel
  obtain ⟨session, hsession, htest⟩ := (Option.any_eq_true _ _).mp hstored
  obtain ⟨hscope, huser⟩ := of_decide_eq_true htest
  obtain ⟨calls, hcalls, -⟩ := exists_returns
    (setOAuth2SessionHumanName alice 4 (some "phone")) (sessionWith (unstableDeviceScope "DEV"))
    (fun _ => true) (by decide +kernel)
  refine ⟨session, calls, _, hsession, hcalls, (name_reaches_devices_iff alice 4 (some "phone") _ _
    session calls hsession hcalls).mpr (.inr fun d hd => ?_) "phone" rfl⟩
  have hmem : unstableDeviceScope "DEV" ∈ session.scope.toList := by simp [hscope]
  obtain ⟨token, htoken, htext⟩ := Scope.mem_toList.mp hmem
  -- both forms of a device token are texts of the one token
  have hd : stableDeviceScope d = token.asStr ∨ unstableDeviceScope d = token.asStr := by
    simpa [hscope, htext] using hd
  have hname : SyncDevicesJob.extractDeviceId token = some d :=
    SyncDevicesJob.extractDeviceId_eq_some.mpr (hd.imp Eq.symm Eq.symm)
  rw [SyncDevicesJob.extractDeviceId_eq_some.mpr (.inr htext)] at hname
  cases hname
  exact ⟨hmem, 1, _, huser, rfl⟩

end Pasion.SessionNames
