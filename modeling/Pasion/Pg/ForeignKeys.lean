import Pasion.Pg.Repository
import Pasion.Relational.References

/-! The foreign keys of the schema, and deletions with the actions that they declare. -/
namespace Pasion

open Relational Txn

/-- The foreign keys of the initial migration between the modelled tables. -/
inductive ForeignKey where
  | userPasswordsUserId
  | userPasswordsUpgradedFromId
  | userEmailsUserId
  | userSessionsUserId
  | upstreamOAuthLinksUpstreamOAuthProviderId
  | upstreamOAuthLinksUserId
  | upstreamOAuthAuthorizationSessionsUpstreamOAuthProviderId
  | upstreamOAuthAuthorizationSessionsUpstreamOAuthLinkId
  | upstreamOAuthAuthorizationSessionsUserSessionId
  | userEmailAuthenticationsUserSessionId
  | userEmailAuthenticationsUserRegistrationId
  | userEmailAuthenticationCodesUserEmailAuthenticationId
  | userPhoneAuthenticationsUserRegistrationId
  | userPhoneAuthenticationCodesUserPhoneAuthenticationId
  | userRegistrationsEmailAuthenticationId
  | userRegistrationsUserRegistrationTokenId
  | userRegistrationsUpstreamOAuthAuthorizationSessionId
  | userRegistrationsPhoneAuthenticationId
  | userSessionAuthenticationsUserSessionId
  | userSessionAuthenticationsUserPasswordId
  | userSessionAuthenticationsUpstreamOAuthAuthorizationSessionId
  | userRecoveryTicketsUserRecoverySessionId
  | userRecoveryTicketsUserEmailId
  | userTermsUserId
  | userPhonesUserId
  | oauth2ClientLocalizedMetadataClientId
  | oauth2SessionsUserSessionId
  | oauth2SessionsOAuth2ClientId
  | oauth2SessionsUserId
  | oauth2AccessTokensOAuth2SessionId
  | oauth2RefreshTokensOAuth2SessionId
  | oauth2RefreshTokensOAuth2AccessTokenId
  | oauth2RefreshTokensNextOAuth2RefreshTokenId
  | oauth2AuthorizationGrantsOAuth2ClientId
  | oauth2AuthorizationGrantsOAuth2SessionId
  | oauth2DeviceCodeGrantOAuth2ClientId
  | oauth2DeviceCodeGrantOAuth2SessionId
  | oauth2DeviceCodeGrantUserSessionId
  | queueJobsStartedBy
  | queueJobsNextAttemptId
  | queueJobsScheduleName
  | queueSchedulesLastScheduledJobId
  | personalSessionsOwnerUserId
  | personalSessionsOwnerOAuth2ClientId
  | personalSessionsActorUserId
  | personalAccessTokensPersonalSessionId

inductive OnDelete where
  | noAction
  | cascade
  | setNull
  deriving DecidableEq

/-- The tables that the modelled statements delete from. -/
inductive DeletableTable where
  | userSessions
  | userSessionAuthentications
  | oauth2Clients
  | oauth2Sessions
  | oauth2AccessTokens
  | oauth2RefreshTokens
  | oauth2AuthorizationGrants
  | personalSessions
  | personalAccessTokens
  | upstreamOAuthProviders
  | upstreamOAuthAuthorizationSessions
  | upstreamOAuthLinks
  | queueJobs
  deriving DecidableEq

def DeletableTable.name : DeletableTable → TableName
  | userSessions => .userSessions
  | userSessionAuthentications => .userSessionAuthentications
  | oauth2Clients => .oauth2Clients
  | oauth2Sessions => .oauth2Sessions
  | oauth2AccessTokens => .oauth2AccessTokens
  | oauth2RefreshTokens => .oauth2RefreshTokens
  | oauth2AuthorizationGrants => .oauth2AuthorizationGrants
  | personalSessions => .personalSessions
  | personalAccessTokens => .personalAccessTokens
  | upstreamOAuthProviders => .upstreamOAuthProviders
  | upstreamOAuthAuthorizationSessions => .upstreamOAuthAuthorizationSessions
  | upstreamOAuthLinks => .upstreamOAuthLinks
  | queueJobs => .queueJobs

namespace ForeignKey

def reference : ForeignKey → Reference Database
  | userPasswordsUserId => .between (·.userPasswords) (some ·.userId) (·.users)
  | userPasswordsUpgradedFromId => .between (·.userPasswords) (·.upgradedFromId) (·.userPasswords)
  | userEmailsUserId => .between (·.userEmails) (some ·.userId) (·.users)
  | userSessionsUserId => .between (·.userSessions) (some ·.userId) (·.users)
  | upstreamOAuthLinksUpstreamOAuthProviderId =>
    .between (·.upstreamOAuthLinks) (some ·.upstreamOAuthProviderId) (·.upstreamOAuthProviders)
  | upstreamOAuthLinksUserId => .between (·.upstreamOAuthLinks) (·.userId) (·.users)
  | upstreamOAuthAuthorizationSessionsUpstreamOAuthProviderId =>
    .between (·.upstreamOAuthAuthorizationSessions) (some ·.upstreamOAuthProviderId)
      (·.upstreamOAuthProviders)
  | upstreamOAuthAuthorizationSessionsUpstreamOAuthLinkId =>
    .between (·.upstreamOAuthAuthorizationSessions) (·.upstreamOAuthLinkId) (·.upstreamOAuthLinks)
  | upstreamOAuthAuthorizationSessionsUserSessionId =>
    .between (·.upstreamOAuthAuthorizationSessions) (·.userSessionId) (·.userSessions)
  | userEmailAuthenticationsUserSessionId =>
    .between (·.userEmailAuthentications) (·.userSessionId) (·.userSessions)
  | userEmailAuthenticationsUserRegistrationId =>
    .between (·.userEmailAuthentications) (·.userRegistrationId) (·.userRegistrations)
  | userEmailAuthenticationCodesUserEmailAuthenticationId =>
    .between (·.userEmailAuthenticationCodes) (some ·.userEmailAuthenticationId)
      (·.userEmailAuthentications)
  | userPhoneAuthenticationsUserRegistrationId =>
    .between (·.userPhoneAuthentications) (·.userRegistrationId) (·.userRegistrations)
  | userPhoneAuthenticationCodesUserPhoneAuthenticationId =>
    .between (·.userPhoneAuthenticationCodes) (some ·.userPhoneAuthenticationId)
      (·.userPhoneAuthentications)
  | userRegistrationsEmailAuthenticationId =>
    .between (·.userRegistrations) (·.emailAuthenticationId) (·.userEmailAuthentications)
  | userRegistrationsUserRegistrationTokenId =>
    .between (·.userRegistrations) (·.userRegistrationTokenId) (·.userRegistrationTokens)
  | userRegistrationsUpstreamOAuthAuthorizationSessionId =>
    .between (·.userRegistrations) (·.upstreamOAuthAuthorizationSessionId)
      (·.upstreamOAuthAuthorizationSessions)
  | userRegistrationsPhoneAuthenticationId =>
    .between (·.userRegistrations) (·.phoneAuthenticationId) (·.userPhoneAuthentications)
  | userSessionAuthenticationsUserSessionId =>
    .between (·.userSessionAuthentications) (some ·.userSessionId) (·.userSessions)
  | userSessionAuthenticationsUserPasswordId =>
    .between (·.userSessionAuthentications) (·.userPasswordId) (·.userPasswords)
  | userSessionAuthenticationsUpstreamOAuthAuthorizationSessionId =>
    .between (·.userSessionAuthentications) (·.upstreamOAuthAuthorizationSessionId)
      (·.upstreamOAuthAuthorizationSessions)
  | userRecoveryTicketsUserRecoverySessionId =>
    .between (·.userRecoveryTickets) (some ·.userRecoverySessionId) (·.userRecoverySessions)
  | userRecoveryTicketsUserEmailId =>
    .between (·.userRecoveryTickets) (some ·.userEmailId) (·.userEmails)
  | userTermsUserId => .between (·.userTerms) (some ·.userId) (·.users)
  | userPhonesUserId => .between (·.userPhones) (some ·.userId) (·.users)
  | oauth2ClientLocalizedMetadataClientId =>
    .between (·.oauth2ClientLocalizedMetadata) (some ·.clientId) (·.oauth2Clients)
  | oauth2SessionsUserSessionId =>
    .between (·.oauth2Sessions) (·.userSessionId) (·.userSessions)
  | oauth2SessionsOAuth2ClientId =>
    .between (·.oauth2Sessions) (some ·.oauth2ClientId) (·.oauth2Clients)
  | oauth2SessionsUserId => .between (·.oauth2Sessions) (·.userId) (·.users)
  | oauth2AccessTokensOAuth2SessionId =>
    .between (·.oauth2AccessTokens) (some ·.oauth2SessionId) (·.oauth2Sessions)
  | oauth2RefreshTokensOAuth2SessionId =>
    .between (·.oauth2RefreshTokens) (some ·.oauth2SessionId) (·.oauth2Sessions)
  | oauth2RefreshTokensOAuth2AccessTokenId =>
    .between (·.oauth2RefreshTokens) (·.oauth2AccessTokenId) (·.oauth2AccessTokens)
  | oauth2RefreshTokensNextOAuth2RefreshTokenId =>
    .between (·.oauth2RefreshTokens) (·.nextOAuth2RefreshTokenId) (·.oauth2RefreshTokens)
  | oauth2AuthorizationGrantsOAuth2ClientId =>
    .between (·.oauth2AuthorizationGrants) (some ·.oauth2ClientId) (·.oauth2Clients)
  | oauth2AuthorizationGrantsOAuth2SessionId =>
    .between (·.oauth2AuthorizationGrants) (·.oauth2SessionId) (·.oauth2Sessions)
  | oauth2DeviceCodeGrantOAuth2ClientId =>
    .between (·.oauth2DeviceCodeGrant) (some ·.oauth2ClientId) (·.oauth2Clients)
  | oauth2DeviceCodeGrantOAuth2SessionId =>
    .between (·.oauth2DeviceCodeGrant) (·.oauth2SessionId) (·.oauth2Sessions)
  | oauth2DeviceCodeGrantUserSessionId =>
    .between (·.oauth2DeviceCodeGrant) (·.userSessionId) (·.userSessions)
  | queueJobsStartedBy => .between (·.queueJobs) (·.startedBy) (·.queueWorkers)
  | queueJobsNextAttemptId => .between (·.queueJobs) (·.nextAttemptId) (·.queueJobs)
  | queueJobsScheduleName => .between (·.queueJobs) (·.scheduleName) (·.queueSchedules)
  | queueSchedulesLastScheduledJobId =>
    .between (·.queueSchedules) (·.lastScheduledJobId) (·.queueJobs)
  | personalSessionsOwnerUserId => .between (·.personalSessions) (·.ownerUserId) (·.users)
  | personalSessionsOwnerOAuth2ClientId =>
    .between (·.personalSessions) (·.ownerOAuth2ClientId) (·.oauth2Clients)
  | personalSessionsActorUserId => .between (·.personalSessions) (some ·.actorUserId) (·.users)
  | personalAccessTokensPersonalSessionId =>
    .between (·.personalAccessTokens) (some ·.personalSessionId) (·.personalSessions)

def onDelete : ForeignKey → OnDelete
  | userEmailsUserId
  | userEmailAuthenticationCodesUserEmailAuthenticationId
  | userEmailAuthenticationsUserRegistrationId
  | userPhoneAuthenticationsUserRegistrationId
  | userPhoneAuthenticationCodesUserPhoneAuthenticationId
  | userRecoveryTicketsUserRecoverySessionId
  | userRecoveryTicketsUserEmailId
  | userTermsUserId
  | userPhonesUserId
  | oauth2ClientLocalizedMetadataClientId
  | oauth2SessionsUserId
  | oauth2DeviceCodeGrantOAuth2ClientId
  | oauth2DeviceCodeGrantOAuth2SessionId => .cascade
  | upstreamOAuthAuthorizationSessionsUserSessionId
  | userEmailAuthenticationsUserSessionId
  | userRegistrationsEmailAuthenticationId
  | userRegistrationsUserRegistrationTokenId
  | userRegistrationsUpstreamOAuthAuthorizationSessionId
  | userRegistrationsPhoneAuthenticationId
  | oauth2SessionsUserSessionId
  | oauth2RefreshTokensOAuth2AccessTokenId
  | oauth2RefreshTokensNextOAuth2RefreshTokenId => .setNull
  | _ => .noAction

def all : List ForeignKey :=
  [userPasswordsUserId, userPasswordsUpgradedFromId, userEmailsUserId, userSessionsUserId,
    upstreamOAuthLinksUpstreamOAuthProviderId, upstreamOAuthLinksUserId,
    upstreamOAuthAuthorizationSessionsUpstreamOAuthProviderId,
    upstreamOAuthAuthorizationSessionsUpstreamOAuthLinkId,
    upstreamOAuthAuthorizationSessionsUserSessionId, userEmailAuthenticationsUserSessionId,
    userEmailAuthenticationsUserRegistrationId,
    userEmailAuthenticationCodesUserEmailAuthenticationId,
    userPhoneAuthenticationsUserRegistrationId,
    userPhoneAuthenticationCodesUserPhoneAuthenticationId, userRegistrationsEmailAuthenticationId,
    userRegistrationsUserRegistrationTokenId,
    userRegistrationsUpstreamOAuthAuthorizationSessionId, userRegistrationsPhoneAuthenticationId,
    userSessionAuthenticationsUserSessionId, userSessionAuthenticationsUserPasswordId,
    userSessionAuthenticationsUpstreamOAuthAuthorizationSessionId,
    userRecoveryTicketsUserRecoverySessionId, userRecoveryTicketsUserEmailId, userTermsUserId,
    userPhonesUserId, oauth2ClientLocalizedMetadataClientId, oauth2SessionsUserSessionId,
    oauth2SessionsOAuth2ClientId, oauth2SessionsUserId, oauth2AccessTokensOAuth2SessionId,
    oauth2RefreshTokensOAuth2SessionId, oauth2RefreshTokensOAuth2AccessTokenId,
    oauth2RefreshTokensNextOAuth2RefreshTokenId, oauth2AuthorizationGrantsOAuth2ClientId,
    oauth2AuthorizationGrantsOAuth2SessionId, oauth2DeviceCodeGrantOAuth2ClientId,
    oauth2DeviceCodeGrantOAuth2SessionId, oauth2DeviceCodeGrantUserSessionId, queueJobsStartedBy,
    queueJobsNextAttemptId, queueJobsScheduleName, queueSchedulesLastScheduledJobId,
    personalSessionsOwnerUserId, personalSessionsOwnerOAuth2ClientId, personalSessionsActorUserId,
    personalAccessTokensPersonalSessionId]

theorem mem_all (fk : ForeignKey) : fk ∈ all := by
  cases fk <;> simp [all]

def target : ForeignKey → Option DeletableTable
  | upstreamOAuthLinksUpstreamOAuthProviderId
  | upstreamOAuthAuthorizationSessionsUpstreamOAuthProviderId => some .upstreamOAuthProviders
  | upstreamOAuthAuthorizationSessionsUpstreamOAuthLinkId => some .upstreamOAuthLinks
  | userRegistrationsUpstreamOAuthAuthorizationSessionId
  | userSessionAuthenticationsUpstreamOAuthAuthorizationSessionId =>
    some .upstreamOAuthAuthorizationSessions
  | upstreamOAuthAuthorizationSessionsUserSessionId
  | userEmailAuthenticationsUserSessionId
  | userSessionAuthenticationsUserSessionId
  | oauth2SessionsUserSessionId
  | oauth2DeviceCodeGrantUserSessionId => some .userSessions
  | oauth2ClientLocalizedMetadataClientId
  | oauth2SessionsOAuth2ClientId
  | oauth2AuthorizationGrantsOAuth2ClientId
  | oauth2DeviceCodeGrantOAuth2ClientId
  | personalSessionsOwnerOAuth2ClientId => some .oauth2Clients
  | oauth2AccessTokensOAuth2SessionId
  | oauth2RefreshTokensOAuth2SessionId
  | oauth2AuthorizationGrantsOAuth2SessionId
  | oauth2DeviceCodeGrantOAuth2SessionId => some .oauth2Sessions
  | oauth2RefreshTokensOAuth2AccessTokenId => some .oauth2AccessTokens
  | oauth2RefreshTokensNextOAuth2RefreshTokenId => some .oauth2RefreshTokens
  | queueJobsNextAttemptId
  | queueSchedulesLastScheduledJobId => some .queueJobs
  | personalAccessTokensPersonalSessionId => some .personalSessions
  | _ => none

/-- The foreign keys that can refuse a deletion from a table. -/
def restricting (table : DeletableTable) : List ForeignKey :=
  all.filter (fun fk => fk.target = some table && fk.onDelete = .noAction)

def holds (fk : ForeignKey) (db : Database) : Bool := fk.reference.holds db

def strands (fk : ForeignKey) (db db' : Database) : Bool := fk.reference.strands db db'

end ForeignKey

namespace Database

def foreignKeysHold (db : Database) : Bool := ForeignKey.all.all (·.holds db)

/-- Some foreign key is left with a reference to a row that is gone. -/
def stranded (db db' : Database) : Bool := ForeignKey.all.any (·.strands db db')

theorem stranded_iff {db db' : Database} :
    stranded db db' ↔ ∃ fk, ForeignKey.strands fk db db' := by
  simp [stranded, ForeignKey.mem_all]

/-- Deletes the rows with the given keys, and runs the actions of the foreign keys to them. -/
def delete (table : DeletableTable) (gone : Ulid → Bool) (db : Database) : Database :=
  match table with
  | .userSessions => { db with
      userSessions := db.userSessions.deleteKeys gone
      upstreamOAuthAuthorizationSessions := db.upstreamOAuthAuthorizationSessions.setNull
        (·.userSessionId) ({ · with userSessionId := none }) gone
      userEmailAuthentications := db.userEmailAuthentications.setNull
        (·.userSessionId) ({ · with userSessionId := none }) gone
      oauth2Sessions := db.oauth2Sessions.setNull
        (·.userSessionId) ({ · with userSessionId := none }) gone }
  | .userSessionAuthentications => { db with
      userSessionAuthentications := db.userSessionAuthentications.deleteKeys gone }
  | .oauth2Clients => { db with
      oauth2Clients := db.oauth2Clients.deleteKeys gone
      oauth2ClientLocalizedMetadata :=
        db.oauth2ClientLocalizedMetadata.cascade (some ·.clientId) gone
      oauth2DeviceCodeGrant := db.oauth2DeviceCodeGrant.cascade (some ·.oauth2ClientId) gone }
  | .oauth2Sessions => { db with
      oauth2Sessions := db.oauth2Sessions.deleteKeys gone
      oauth2DeviceCodeGrant := db.oauth2DeviceCodeGrant.cascade (·.oauth2SessionId) gone }
  | .oauth2AccessTokens => { db with
      oauth2AccessTokens := db.oauth2AccessTokens.deleteKeys gone
      oauth2RefreshTokens := db.oauth2RefreshTokens.setNull
        (·.oauth2AccessTokenId) ({ · with oauth2AccessTokenId := none }) gone }
  | .oauth2RefreshTokens => { db with
      oauth2RefreshTokens := (db.oauth2RefreshTokens.deleteKeys gone).setNull
        (·.nextOAuth2RefreshTokenId) ({ · with nextOAuth2RefreshTokenId := none }) gone }
  | .oauth2AuthorizationGrants => { db with
      oauth2AuthorizationGrants := db.oauth2AuthorizationGrants.deleteKeys gone }
  | .personalSessions => { db with personalSessions := db.personalSessions.deleteKeys gone }
  | .personalAccessTokens => { db with
      personalAccessTokens := db.personalAccessTokens.deleteKeys gone }
  | .upstreamOAuthProviders => { db with
      upstreamOAuthProviders := db.upstreamOAuthProviders.deleteKeys gone }
  | .upstreamOAuthAuthorizationSessions => { db with
      upstreamOAuthAuthorizationSessions := db.upstreamOAuthAuthorizationSessions.deleteKeys gone
      userRegistrations := db.userRegistrations.setNull (·.upstreamOAuthAuthorizationSessionId)
        ({ · with upstreamOAuthAuthorizationSessionId := none }) gone }
  | .upstreamOAuthLinks => { db with
      upstreamOAuthLinks := db.upstreamOAuthLinks.deleteKeys gone }
  | .queueJobs => { db with queueJobs := db.queueJobs.deleteKeys gone }

variable {db : Database} {table : DeletableTable} {gone : Ulid → Bool}

open Reference Table in
/-- The actions leave no reference to a row that is gone. -/
theorem not_strands_delete (fk : ForeignKey)
    (h : fk.target ≠ some table ∨ fk.onDelete ≠ .noAction) :
    fk.strands db (db.delete table gone) = false := by
  unfold ForeignKey.strands
  cases table <;> cases fk <;> first
    | exact not_strands_of_contains fun _ hx => hx
    | exact not_strands_of_contains fun x hx => (contains_setNull x).trans hx
    | exact not_strands_of_not_mem (contains_deleteKeys gone)
        fun _ => not_mem_column_setNull fun _ => rfl
    | exact absurd rfl (h.resolve_left fun hne => hne rfl)
    | refine not_strands_of_not_mem (contains_deleteKeys gone) fun x hx => ?_
      simp only [delete]
      exact not_mem_column_cascade hx
    | exact not_strands_of_not_mem
        (fun x => (contains_setNull x).trans (contains_deleteKeys gone x))
        fun _ => not_mem_column_setNull fun _ => rfl

open Table in
/-- A deletion adds no reference. -/
theorem cells_delete_subset (fk : ForeignKey) :
    fk.reference.cells (db.delete table gone) ⊆ fk.reference.cells db := by
  cases table <;> cases fk <;> first
    | exact List.Subset.refl _
    | simp only [delete, ForeignKey.reference, Reference.between]
      first
      | exact column_delete_subset _
      | exact column_setNull_subset fun _ => .inr rfl
      | exact column_setNull_subset fun _ => .inl rfl
      | exact List.Subset.trans (column_setNull_subset fun _ => .inr rfl) (column_delete_subset _)
      | exact List.Subset.trans (column_setNull_subset fun _ => .inl rfl) (column_delete_subset _)

open Table in
/-- A deletion adds no key. -/
theorem has_of_has_delete (fk : ForeignKey) (x : fk.reference.Key)
    (h : fk.reference.has (db.delete table gone) x) : fk.reference.has db x := by
  have hcontains : ∀ {K R : Type} [LinearOrder K] {t : Table K R} {p : K → R → Bool} {k : K},
      (t.delete p).contains k → t.contains k := by
    intro K R _ t p k hk
    obtain ⟨r, hr⟩ := contains_iff_exists.mp hk
    exact contains_iff_exists.mpr ⟨r, (get?_delete_eq_some.mp hr).1⟩
  cases table <;> cases fk <;> first
    | exact h
    | exact hcontains h
    | simp only [delete, ForeignKey.reference, Reference.between] at h ⊢
      first
      | exact (contains_setNull _).symm.trans h
      | exact hcontains ((contains_setNull _).symm.trans h)

/-- A deletion is refused by a foreign key without an action, if at all. -/
theorem stranded_delete : stranded db (db.delete table gone) =
      (ForeignKey.restricting table).any (·.strands db (db.delete table gone)) := by
  rw [Bool.eq_iff_iff, stranded_iff, List.any_eq_true]
  constructor
  · rintro ⟨fk, hfk⟩
    refine ⟨fk, ?_, hfk⟩
    by_contra hmem
    have hfree : fk.target ≠ some table ∨ fk.onDelete ≠ .noAction := by
      simpa [ForeignKey.restricting, ForeignKey.mem_all, imp_iff_not_or] using hmem
    rw [not_strands_delete fk hfree] at hfk
    cases hfk
  · rintro ⟨fk, _, hfk⟩
    exact ⟨fk, hfk⟩

/-- A deletion from a table that no foreign key protects is not refused. -/
theorem not_stranded_delete (h : ForeignKey.restricting table = []) :
    stranded db (db.delete table gone) = false := by
  rw [stranded_delete, h, List.any_nil]

/-- Deletions that leave no reference behind do not count for what a later one leaves. -/
theorem stranded_delete_of_not_stranded {db₀ : Database} (h : stranded db₀ db = false)
    (hhas : ∀ (fk : ForeignKey) x, fk.reference.has db x → fk.reference.has db₀ x) :
    stranded db₀ (db.delete table gone) = stranded db (db.delete table gone) := by
  rw [Bool.eq_iff_iff, stranded_iff, stranded_iff]
  refine exists_congr fun fk => ?_
  have hfk : fk.strands db₀ db = false := by
    rw [Bool.eq_false_iff] at h ⊢
    exact fun hstrands => h (stranded_iff.mpr ⟨fk, hstrands⟩)
  have hkept := Reference.strands_eq_false.mp hfk
  simp only [ForeignKey.strands, Reference.strands, List.any_eq_true, Bool.and_eq_true]
  refine exists_congr fun x => and_congr_right fun hx => and_congr_left fun _ => ?_
  exact ⟨hkept x (cells_delete_subset fk hx), hhas fk x⟩

end Database

namespace Repo

variable {ε α : Type} [FromRepository ε]

/-- Deletes the rows that `remove` gets, unless a row that stays refers to one that goes. -/
def deleting (remove : Database → Database → Database) (locks : Database → List LockKey)
    (answer : Database → α) : Repo ε α :=
  statement (fun db => if db.stranded (remove db db) then some .foreignKeyViolation else none)
    (fun db => ⟨remove db, locks db⟩) answer

def deleteRows (table : DeletableTable) (ids : Database → List Ulid) : Repo ε ℕ :=
  deleting (fun seen => Database.delete table (· ∈ ids seen))
    (fun db => (ids db).map (.row table.name)) (fun db => (ids db).length)

def deleteRow (table : DeletableTable) (present : Database → Bool) (id : Ulid) : Repo ε Unit := do
  let rowsAffected ← deleteRows table (fun db => if present db then [id] else [])
  ensureAffectedRows rowsAffected 1

variable {remove : Database → Database → Database} {locks : Database → List LockKey}
  {answer : Database → α} {db db' : Database} {a : α} {e : ε}
variable {table : DeletableTable} {E : Effect Database LockKey → Prop}

@[simp]
theorem returns_deleting :
    (deleting remove locks answer : Repo ε α).Returns db a db' ↔
      db.stranded (remove db db) = false ∧ answer db = a ∧ remove db db = db' := by
  rw [deleting, returns_statement]
  cases db.stranded (remove db db) <;> simp

@[simp]
theorem savesError_deleting : ¬(deleting remove locks answer : Repo ε α).SavesError db e db' := by
  simp [deleting]

@[simp]
theorem returns_deleteRows {ids : Database → List Ulid} {n : ℕ} :
    (deleteRows table ids : Repo ε ℕ).Returns db n db' ↔
      db.stranded (db.delete table (· ∈ ids db)) = false ∧ (ids db).length = n ∧
        db.delete table (· ∈ ids db) = db' :=
  returns_deleting

@[simp]
theorem returns_deleteRow {present : Database → Bool} {id : Ulid} {u : Unit} :
    (deleteRow table present id : Repo ε Unit).Returns db u db' ↔
      present db ∧ db.stranded (db.delete table (· ∈ [id])) = false ∧
        db.delete table (· ∈ [id]) = db' := by
  simp only [deleteRow, ensureAffectedRows, returns_bind, returns_deleteRows, returns_require]
  cases present db <;> simp

theorem issues_deleteRows
    (hidle : E .idle) (h : ∀ gone locks, E ⟨Database.delete table gone, locks⟩)
    (ids : Database → List Ulid) : (deleteRows table ids : Repo ε ℕ).Issues E :=
  issues_statement hidle fun _ => h _ _

theorem issues_deleteRow (hidle : E .idle) (h : ∀ gone locks, E ⟨Database.delete table gone, locks⟩)
    (present : Database → Bool) (id : Ulid) : (deleteRow table present id : Repo ε Unit).Issues E :=
  (issues_deleteRows hidle h _).bind fun _ => issues_require _ _

theorem succeeds_deleting :
    (deleting remove locks answer : Repo ε α).Succeeds db ↔ db.stranded (remove db db) = false := by
  simp [Txn.Succeeds]

end Repo
end Pasion
