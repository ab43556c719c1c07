import Pasion.Pg.Users

/-! What a patch of a user writes, and which columns it leaves as they are. -/
namespace Pasion

open Relational Txn

variable {ε : Type} [FromRepository ε]

namespace UserPatch

variable {p : UserPatch} {now : Time} {u u' : User}

/-- The patch gets as far as its update. -/
def writes (p : UserPatch) (now : Time) (u : User) : Bool := !p.isEmpty && p.changed now u

def lockOnly : UserPatch := { UserPatch.default with locked := some true }

def deactivateOnly : UserPatch := { UserPatch.default with deactivated := some true }

/-- A column that the update sets and the patch does not name is the same in both. -/
structure AgreeOff (p : UserPatch) (u u' : User) : Prop where
  displayName : p.displayName = none → u.displayName = u'.displayName
  avatarUrl : p.avatarUrl = none → u.avatarUrl = u'.avatarUrl
  preferredLocale : p.preferredLocale = none → u.preferredLocale = u'.preferredLocale
  canRequestAdmin : p.canRequestAdmin = none → u.canRequestAdmin = u'.canRequestAdmin
  lockedAt : p.locked = none → u.lockedAt = u'.lockedAt
  deactivatedAt : p.deactivated = none → u.deactivatedAt = u'.deactivatedAt

theorem AgreeOff.symm (h : p.AgreeOff u u') : p.AgreeOff u' u :=
  ⟨fun hp => (h.displayName hp).symm, fun hp => (h.avatarUrl hp).symm,
    fun hp => (h.preferredLocale hp).symm, fun hp => (h.canRequestAdmin hp).symm,
    fun hp => (h.lockedAt hp).symm, fun hp => (h.deactivatedAt hp).symm⟩

theorem AgreeOff.trans {u'' : User} (h : p.AgreeOff u u') (h' : p.AgreeOff u' u'') :
    p.AgreeOff u u'' :=
  ⟨fun hp => (h.displayName hp).trans (h'.displayName hp),
    fun hp => (h.avatarUrl hp).trans (h'.avatarUrl hp),
    fun hp => (h.preferredLocale hp).trans (h'.preferredLocale hp),
    fun hp => (h.canRequestAdmin hp).trans (h'.canRequestAdmin hp),
    fun hp => (h.lockedAt hp).trans (h'.lockedAt hp),
    fun hp => (h.deactivatedAt hp).trans (h'.deactivatedAt hp)⟩

/-- In memory, a patch changes what it names. -/
theorem agreeOff_apply : p.AgreeOff (p.apply now u) u where
  displayName hp := by simp [apply, hp]
  avatarUrl hp := by simp [apply, hp]
  preferredLocale hp := by simp [apply, hp]
  canRequestAdmin hp := by simp [apply, hp]
  lockedAt hp := by simp [apply, nextLockedAt, nextMark, hp]
  deactivatedAt hp := by simp [apply, nextDeactivatedAt, nextMark, hp]

theorem changed_eq_false (h : p.changed now u = false) :
    p.displayName = none ∧ p.avatarUrl = none ∧ p.preferredLocale = none ∧
      p.canRequestAdmin = none ∧ p.nextLockedAt now u = u.lockedAt ∧
      p.nextDeactivatedAt now u = u.deactivatedAt := by
  simp only [changed, Bool.or_eq_false_iff, Option.isSome_eq_false_iff, Option.isNone_iff_eq_none,
    ne_eq, decide_eq_false_iff_not, not_not] at h
  obtain ⟨⟨⟨⟨⟨hname, hurl⟩, hlocale⟩, hadmin⟩, hlocked⟩, hdeactivated⟩ := h
  exact ⟨hname, hurl, hlocale, hadmin, hlocked.symm, hdeactivated.symm⟩

theorem changed_of_isEmpty (h : p.isEmpty) : p.changed now u = false := by
  simp only [isEmpty, Bool.and_eq_true, Option.isNone_iff_eq_none] at h
  obtain ⟨⟨⟨⟨⟨hname, hurl⟩, hlocale⟩, hadmin⟩, hlocked⟩, hdeactivated⟩ := h
  simp [changed, nextLockedAt, nextDeactivatedAt, nextMark, hname, hurl, hlocale, hadmin, hlocked,
    hdeactivated]

theorem writes_eq_changed : p.writes now u = p.changed now u := by
  unfold writes
  cases hempty : p.isEmpty with
  | false => rfl
  | true => rw [changed_of_isEmpty hempty]; rfl

theorem apply_of_not_writes (h : p.writes now u = false) : p.apply now u = u := by
  obtain ⟨hname, hurl, hlocale, hadmin, hlocked, hdeactivated⟩ :=
    changed_eq_false (writes_eq_changed.symm.trans h)
  simp [apply, hname, hurl, hlocale, hadmin, hlocked, hdeactivated]

end UserPatch

namespace UserRepository

variable {now : Time} {user : User} {p : UserPatch} {db db' : Database} {res : User}

def patched (now : Time) (user : User) (p : UserPatch) : User :=
  { p.apply now user with updatedAt := now }

theorem patch_eq : (patch now user p : Repo ε User) =
    if p.writes now user then do
      updateUser user.id (patchRow (patched now user p))
      pure (patched now user p)
    else pure user := by
  unfold patch
  cases hwrites : p.writes now user with
  | true =>
    obtain ⟨hempty, hchanged⟩ := Bool.and_eq_true_iff.mp hwrites
    simp only [Bool.not_eq_true'] at hempty
    simp only [hempty, hchanged, Bool.false_eq_true, if_false, Bool.not_true, if_true]
    rfl
  | false =>
    have hchanged : p.changed now user = false := UserPatch.writes_eq_changed.symm.trans hwrites
    simp [hchanged, UserPatch.apply_of_not_writes hwrites]

theorem returns_patch :
    (patch now user p : Repo ε User).Returns db res db' ↔
      if p.writes now user then db.users.contains user.id ∧ patched now user p = res ∧
        db.updateUser user.id (patchRow res) = db'
      else user = res ∧ db = db' := by
  rw [patch_eq]
  split_ifs
  · simp only [updateUser, returns_bind, Repo.returns_updateRow, Repo.unconstrained,
      returns_pure]
    constructor
    · rintro ⟨_, _, ⟨hthere, -, rfl⟩, rfl, rfl⟩
      exact ⟨hthere, rfl, rfl⟩
    · rintro ⟨hthere, rfl, rfl⟩
      exact ⟨(), _, ⟨hthere, trivial, rfl⟩, rfl, rfl⟩
  · exact returns_pure

theorem lock_eq_patch : (lock now user : Repo ε User) = patch now user .lockOnly := by
  unfold lock
  split_ifs with hlocked
  · obtain ⟨t, ht⟩ := Option.isSome_iff_exists.mp hlocked
    have hwrites : UserPatch.lockOnly.writes now user = false := by
      simp [UserPatch.writes_eq_changed, UserPatch.changed, UserPatch.lockOnly, UserPatch.default,
        UserPatch.nextLockedAt, UserPatch.nextDeactivatedAt, UserPatch.nextMark, ht]
    rw [patch_eq, hwrites]
    rfl
  · rfl

theorem deactivate_eq_patch : (deactivate now user : Repo ε User) = patch now user .deactivateOnly := by
  unfold deactivate
  split_ifs with hdeactivated
  · obtain ⟨t, ht⟩ := Option.isSome_iff_exists.mp hdeactivated
    have hwrites : UserPatch.deactivateOnly.writes now user = false := by
      simp [UserPatch.writes_eq_changed, UserPatch.changed, UserPatch.deactivateOnly,
        UserPatch.default, UserPatch.nextLockedAt, UserPatch.nextDeactivatedAt, UserPatch.nextMark,
        ht]
    rw [patch_eq, hwrites]
    rfl
  · rfl

/-- Columns that the patch does not name stay, but for the time of the update. -/
def KeepsUnnamed (p : UserPatch) (id : Ulid) (db db' : Database) : Prop :=
  ∀ row, db.users.get? id = some row → ∃ row', db'.users.get? id = some row' ∧
    row'.username = row.username ∧ row'.createdAt = row.createdAt ∧ row'.isGuest = row.isGuest ∧
    p.AgreeOff (row'.toUser id) (row.toUser id)

/-- If the patch reaches its update, the copy has the values of the columns it does not name. -/
def Current (now : Time) (user : User) (p : UserPatch) (db : Database) : Prop :=
  p.writes now user → ∀ row, db.users.get? user.id = some row → p.AgreeOff user (row.toUser user.id)

theorem agreeOff_patchRow {row : UserRow} {u : User} {id : Ulid} :
    p.AgreeOff ((patchRow (patched now user p) row).toUser id) u ↔ p.AgreeOff user u := by
  have happly : p.AgreeOff (p.apply now user) user := UserPatch.agreeOff_apply
  have hsame : p.AgreeOff ((patchRow (patched now user p) row).toUser id) user :=
    ⟨happly.displayName, happly.avatarUrl, happly.preferredLocale, happly.canRequestAdmin,
      happly.lockedAt, happly.deactivatedAt⟩
  exact ⟨fun h => hsame.symm.trans h, fun h => hsame.trans h⟩

theorem patch_keepsUnnamed_iff : (∀ res db', (patch now user p : Repo ε User).Returns db res db' →
      KeepsUnnamed p user.id db db') ↔ Current now user p db := by
  have hnext : ∀ row res, db.users.get? user.id = some row →
      (db.updateUser user.id (patchRow res)).users.get? user.id = some (patchRow res row) := by
    intro row res hrow
    simp [Database.updateUser, Table.get?_update, hrow]
  constructor
  · intro hkeeps hwrites row hrow
    have hreturns : (patch now user p : Repo ε User).Returns db (patched now user p)
        (db.updateUser user.id (patchRow (patched now user p))) := by
      rw [returns_patch, if_pos hwrites]
      exact ⟨Table.contains_iff_exists.mpr ⟨row, hrow⟩, rfl, rfl⟩
    obtain ⟨row', hrow', -, -, -, hagree⟩ := hkeeps _ _ hreturns row hrow
    cases (hnext row _ hrow).symm.trans hrow'
    exact agreeOff_patchRow.mp hagree
  · intro hcurrent res db' hreturns row hrow
    rw [returns_patch] at hreturns
    split_ifs at hreturns with hwrites
    · obtain ⟨-, rfl, rfl⟩ := hreturns
      exact ⟨_, hnext row _ hrow, rfl, rfl, rfl, agreeOff_patchRow.mpr (hcurrent hwrites row hrow)⟩
    · obtain ⟨-, rfl⟩ := hreturns
      exact ⟨row, hrow, rfl, rfl, rfl, ⟨fun _ => rfl, fun _ => rfl, fun _ => rfl, fun _ => rfl,
        fun _ => rfl, fun _ => rfl⟩⟩

/-- Columns that a patch does not name keep their values exactly if the copy in memory has them. -/
theorem keepsUnnamed_iff (now : Time) (user : User) (db : Database) :
    (∀ p, (∀ res db', (patch now user p : Repo ε User).Returns db res db' →
      KeepsUnnamed p user.id db db') ↔ Current now user p db) ∧
    (∀ p : UserProfilePatch, (∀ res db', (updateProfile now user p : Repo ε User).Returns db res
      db' → KeepsUnnamed (.ofProfile p) user.id db db') ↔ Current now user (.ofProfile p) db) ∧
    ((∀ res db', (lock now user : Repo ε User).Returns db res db' →
      KeepsUnnamed .lockOnly user.id db db') ↔ Current now user .lockOnly db) ∧
    ((∀ res db', (deactivate now user : Repo ε User).Returns db res db' →
      KeepsUnnamed .deactivateOnly user.id db db') ↔ Current now user .deactivateOnly db) := by
  refine ⟨fun p => patch_keepsUnnamed_iff, fun p => patch_keepsUnnamed_iff, ?_, ?_⟩
  · rw [lock_eq_patch]
    exact patch_keepsUnnamed_iff
  · rw [deactivate_eq_patch]
    exact patch_keepsUnnamed_iff

def bob : User := ⟨1, "bob", 0, 0, none, none, false, false, none, none, none⟩

def onlyBob : Database := { Database.empty with
  users := Table.empty.insert 1 ⟨"bob", 0, 0, none, none, false, false, none, none, none⟩ }

def rename : UserProfilePatch := ⟨some (some "Bob"), none, none⟩

/-- A user is read, made an administrator by another transaction, and then renamed. -/
theorem rename_resets_canRequestAdmin :
    ∃ db₁ db₂ res res', (lookup 1 : Repo DatabaseError _).Returns onlyBob (some bob) onlyBob ∧
      (setCanRequestAdmin 1 bob true : Repo DatabaseError User).Returns onlyBob res db₁ ∧
      (updateProfile 2 bob rename : Repo DatabaseError User).Returns db₁ res' db₂ ∧
      ¬KeepsUnnamed (.ofProfile rename) 1 db₁ db₂ := by
  let db₁ := onlyBob.updateUser 1 (fun r => { r with canRequestAdmin := true, updatedAt := 1 })
  let db₂ := db₁.updateUser 1 (patchRow (patched 2 bob (.ofProfile rename)))
  refine ⟨db₁, db₂, { bob with canRequestAdmin := true, updatedAt := 1 },
    patched 2 bob (.ofProfile rename), rfl, rfl, rfl, fun hkeeps => ?_⟩
  obtain ⟨row', hrow', -, -, -, hagree⟩ := hkeeps
    ⟨"bob", 0, 1, none, none, true, false, none, none, none⟩ (by decide)
  have hfalse : db₂.users.get? 1 = some
      ⟨"bob", 0, 2, none, none, false, false, some "Bob", none, none⟩ := by decide
  cases hfalse.symm.trans hrow'
  exact absurd (hagree.canRequestAdmin rfl) (by decide)

end UserRepository

end Pasion
