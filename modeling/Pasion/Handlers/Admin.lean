import Pasion.Data.OAuth2

/-! Administrative scopes, and who may hold them. -/
namespace Pasion.Admin

variable {scope : Scope} {isAdmin : Bool}

def adminScope : String := "urn:pasion:admin"

def adminScopeLegacy : String := "urn:mas:admin"

def hasAdminScope (scope : Scope) : Bool :=
  scope.contains adminScope || scope.contains adminScopeLegacy

def isPrivilegedScopeToken (token : String) : Bool :=
  token = adminScope || token = adminScopeLegacy || Str.startsWith token "urn:palpo:admin" ||
    Str.startsWith token "urn:synapse:admin"

def stripAdminScopeUnless (scope : Scope) (isAdmin : Bool) : Scope :=
  if isAdmin then scope
  else Scope.collect (scope.iter.filter (fun token => !isPrivilegedScopeToken token.asStr))

def requiresAdmin (scope : Scope) : Bool :=
  scope.iter.any (fun token => isPrivilegedScopeToken token.asStr)

def mayHoldAdminScope (user : Option User) : Bool := user.any (·.canRequestAdmin)

def adminScopeAllowed (user : User) (scope : Scope) : Bool :=
  !requiresAdmin scope || mayHoldAdminScope (some user)

theorem requiresAdmin_iff : requiresAdmin scope ↔ ∃ t ∈ scope, isPrivilegedScopeToken t.asStr := by
  unfold requiresAdmin
  rw [List.any_eq_true]
  simp only [Scope.mem_iter]

theorem mem_stripAdminScopeUnless {t : ScopeToken} : t ∈ stripAdminScopeUnless scope isAdmin ↔
      t ∈ scope ∧ (isPrivilegedScopeToken t.asStr → isAdmin) := by
  unfold stripAdminScopeUnless
  cases isAdmin
  · simp [Scope.mem_collect]
  · simp

theorem requiresAdmin_strip
    (h : requiresAdmin (stripAdminScopeUnless scope isAdmin)) : isAdmin := by
  obtain ⟨t, ht, hpriv⟩ := requiresAdmin_iff.mp h
  exact (mem_stripAdminScopeUnless.mp ht).2 hpriv

theorem hasAdminScope_iff :
    hasAdminScope scope ↔ ∃ t ∈ scope, t.asStr = adminScope ∨ t.asStr = adminScopeLegacy := by
  unfold hasAdminScope
  rw [Bool.or_eq_true, Scope.contains_iff, Scope.contains_iff]
  constructor
  · rintro (⟨t, ht, h⟩ | ⟨t, ht, h⟩)
    · exact ⟨t, ht, .inl h⟩
    · exact ⟨t, ht, .inr h⟩
  · rintro ⟨t, ht, h | h⟩
    · exact .inl ⟨t, ht, h⟩
    · exact .inr ⟨t, ht, h⟩

theorem privileged_of_admin {t : ScopeToken} (h : t.asStr = adminScope ∨ t.asStr = adminScopeLegacy) :
    isPrivilegedScopeToken t.asStr := by
  unfold isPrivilegedScopeToken
  rcases h with h | h <;> simp [h]

/-- Only an administrator's scope keeps the scope of the administration API. -/
theorem hasAdminScope_strip :
    hasAdminScope (stripAdminScopeUnless scope isAdmin) ↔ isAdmin ∧ hasAdminScope scope := by
  rw [hasAdminScope_iff, hasAdminScope_iff]
  constructor
  · intro ⟨t, ht, h⟩
    obtain ⟨hmem, himp⟩ := mem_stripAdminScopeUnless.mp ht
    exact ⟨himp (privileged_of_admin h), t, hmem, h⟩
  · intro ⟨hadmin, t, ht, h⟩
    exact ⟨t, mem_stripAdminScopeUnless.mpr ⟨ht, fun _ => hadmin⟩, h⟩

end Pasion.Admin
