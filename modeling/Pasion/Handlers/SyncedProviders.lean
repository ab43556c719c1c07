import Pasion.Handlers.ConfigSync

/-! What becomes of the upstream providers, and of what belongs to them, over runs of the
synchronisation. -/
namespace Pasion.ConfigSync

open Relational Txn Table

/-- The providers that a run considers: one page of those the configuration manages. -/
def listed (db : Database) : List (Ulid × UpstreamOAuthProviderRow) :=
  (db.upstreamOAuthProviders.select (fun _ r => r.source = "config")).take 1000

variable {env : Env} {providers : List ProviderConfig} {clients : List ClientConfig}
  {prune dryRun : Bool} {db db' : Database} {id : Ulid}
variable {r : UpstreamOAuthProviderRow}

theorem get?_of_mem_listed (h : (id, r) ∈ listed db) :
    db.upstreamOAuthProviders.get? id = some r ∧ r.source = "config" := by
  obtain ⟨hr, hsource⟩ := mem_select.mp (List.mem_of_mem_take h)
  exact ⟨hr, of_decide_eq_true hsource⟩

theorem toUpstreamOAuthProvider_ok {p : UpstreamOAuthProvider}
    (h : r.toUpstreamOAuthProvider id = .ok p) : p.id = id ∧ p.disabledAt = r.disabledAt := by
  unfold UpstreamOAuthProviderRow.toUpstreamOAuthProvider at h
  split at h <;> cases h
  exact ⟨rfl, rfl⟩

/-- The page has one provider for each listed row. -/
theorem returns_list {page : Page UpstreamOAuthProvider}
    (h : (UpstreamOAuthProviderRepository.list ⟨none, some .config⟩ (.first 1000) :
      Repo SyncError _).Returns db page db') :
    db' = db ∧ List.Forall₂ (fun r p => p.id = r.1 ∧ p.disabledAt = r.2.disabledAt) (listed db)
      (page.edges.map Prod.snd) := by
  obtain ⟨hpage, rfl⟩ := Repo.returns_fetch.mp h
  have hrows : ((Pagination.first 1000).page (db.upstreamOAuthProviders.select (fun _ r =>
      UpstreamOAuthProviderFilter.selects ⟨none, some .config⟩ r))).edges = listed db := by
    unfold Pagination.page Pagination.fetch
    rw [Pagination.process_cut rfl (by decide)]
    simp [listed, Pagination.first, Pagination.between, UpstreamOAuthProviderFilter.selects,
      UpstreamOAuthProviderSource.asStr]
    rfl
  obtain ⟨-, hedges⟩ := Page.tryMap_ok hpage
  rw [hrows] at hedges
  refine ⟨rfl, List.forall₂_map_right_iff.mpr (hedges.imp fun r p hp => ?_)⟩
  exact toUpstreamOAuthProvider_ok hp.2

/-- Enabled in the database, but not by the configuration. -/
def dropped (configIds : List Ulid) (page : List UpstreamOAuthProvider) (id : Ulid) : Bool :=
  page.any (fun p => p.id = id && p.enabled && id ∉ configIds)

def collected (configIds : List Ulid) (page : List UpstreamOAuthProvider) (id : Ulid) : Bool :=
  page.any (fun p => p.id = id && (!p.enabled || id ∉ configIds))

theorem returns_processExisting {configIds : List Ulid} {page : List UpstreamOAuthProvider}
    {t t' : Table Ulid UpstreamOAuthProvider}
    (h : (processExisting env false configIds page t).Returns db t' db') (id : Ulid) :
    db'.upstreamOAuthProviders.get? id = (db.upstreamOAuthProviders.get? id).map (fun r =>
      if dropped configIds page id then { r with disabledAt := some env.now } else r) ∧
    t'.contains id = (t.contains id || collected configIds page id) := by
  induction page generalizing db t with
  | nil =>
    obtain ⟨rfl, rfl⟩ := returns_pure.mp h
    simp [dropped, collected]
  | cons p rest ih =>
    have hdropped : dropped configIds (p :: rest) id =
        (decide (p.id = id) && p.enabled && decide (id ∉ configIds) || dropped configIds rest id) :=
      List.any_cons
    have hcollected : collected configIds (p :: rest) id =
        (decide (p.id = id) && (!p.enabled || decide (id ∉ configIds)) ||
          collected configIds rest id) := List.any_cons
    unfold processExisting at h
    by_cases henabled : p.enabled
    · rw [if_pos henabled] at h
      by_cases hconfig : p.id ∈ configIds
      · rw [if_pos hconfig] at h
        obtain ⟨hrow, hkey⟩ := ih h
        rw [hrow, hkey, hdropped, hcollected]
        by_cases hid : p.id = id
        · subst hid
          simp [henabled, hconfig]
        · simp [hid]
      · rw [if_neg hconfig] at h
        obtain ⟨p', db₁, hdisable, h⟩ := returns_bind.mp h
        obtain ⟨rfl, rfl⟩ := UpstreamOAuthProviderRepository.returns_disable hdisable
        obtain ⟨hrow, hkey⟩ := ih h
        rw [hrow, hkey, hdropped, hcollected, get?_update, contains_insert]
        by_cases hid : p.id = id
        · subst hid
          cases db.upstreamOAuthProviders.get? p.id <;> simp [henabled, hconfig]
        · simp [hid, Ne.symm hid]
    · rw [if_neg henabled] at h
      obtain ⟨hrow, hkey⟩ := ih h
      rw [hrow, hkey, hdropped, hcollected, contains_insert]
      by_cases hid : p.id = id
      · subst hid
        simp [henabled]
      · simp [hid, Ne.symm hid]

section Page

variable {rows : List (Ulid × UpstreamOAuthProviderRow)} {page : List UpstreamOAuthProvider}
  {configIds : List Ulid}

theorem exists_page_iff {P : Ulid → Option Time → Prop}
    (h : List.Forall₂ (fun r p => p.id = r.1 ∧ p.disabledAt = r.2.disabledAt) rows page) :
    (∃ p ∈ page, P p.id p.disabledAt) ↔ ∃ r ∈ rows, P r.1 r.2.disabledAt := by
  induction h with
  | nil => simp
  | cons hp _ ih => simp only [List.exists_mem_cons_iff, ih, hp.1, hp.2]

theorem dropped_iff
    (h : List.Forall₂ (fun r p => p.id = r.1 ∧ p.disabledAt = r.2.disabledAt) rows page) :
    dropped configIds page id ↔ ∃ r, (id, r) ∈ rows ∧ r.disabledAt = none ∧ id ∉ configIds := by
  have hpage := exists_page_iff (P := fun k d => k = id ∧ d = none ∧ id ∉ configIds) h
  simpa [dropped, UpstreamOAuthProvider.enabled, and_assoc] using hpage

end Page

/-- An upsert leaves `disabled_at` as it is. -/
theorem disabledAt_upsertProvider {p : ProviderConfig × ℕ} {d : Option Time}
    (hd : ∃ r, db.upstreamOAuthProviders.get? id = some r ∧ r.disabledAt = d)
    (h : (upsertProvider env false p).Returns db () db') :
    ∃ r, db'.upstreamOAuthProviders.get? id = some r ∧ r.disabledAt = d := by
  obtain ⟨r, hr, hrd⟩ := hd
  unfold upsertProvider at h
  split_ifs at h
  · obtain ⟨-, rfl⟩ := returns_pure.mp h
    exact ⟨r, hr, hrd⟩
  · obtain ⟨_, -, h⟩ := returns_ofExcept_bind.mp h
    obtain ⟨existing, -, h⟩ := Repo.returns_fetch_bind.mp h
    split_ifs at h
    · obtain ⟨-, rfl⟩ := returns_pure.mp h
      exact ⟨r, hr, hrd⟩
    · obtain ⟨_, -, h⟩ := returns_ofOption_bind.mp h
      obtain ⟨_, db₁, hupsert, h⟩ := returns_bind.mp h
      obtain ⟨-, rfl⟩ := returns_pure.mp h
      rw [UpstreamOAuthProviderRepository.returns_upsert hupsert]
      by_cases hid : id = p.1.id
      · subst hid
        refine ⟨_, by rw [get?_insert, if_pos rfl], ?_⟩
        simp [UpstreamOAuthProviderRow.upserted, hr, hrd]
      · exact ⟨r, by rw [get?_insert, if_neg hid, hr], hrd⟩

/-- A provider that is not enabled in the configuration is disabled, and none is enabled. -/
theorem disabledAt_configSync (hr : db.upstreamOAuthProviders.get? id = some r)
    (h : (configSync env providers clients false false).Returns db () db') :
    ∃ r', db'.upstreamOAuthProviders.get? id = some r' ∧ (r'.disabledAt = none ↔
      r.disabledAt = none ∧ (id ∈ enabledIds providers ∨ (id, r) ∉ listed db)) := by
  obtain ⟨_, db₀, hlock, hrun⟩ := returns_bind.mp h
  obtain ⟨-, rfl⟩ := returns_execute.mp hlock
  obtain ⟨_, db₁, hproviders, hclients⟩ := returns_bind.mp hrun
  obtain ⟨page, db₂, hlist, hrest⟩ := returns_bind.mp hproviders
  obtain ⟨rfl, hpage⟩ := returns_list hlist
  obtain ⟨existingDisabled, db₃, hexisting, hloops⟩ := returns_bind.mp hrest
  obtain ⟨_, db₄, hdelete, hupsert⟩ := returns_bind.mp hloops
  obtain ⟨-, rfl⟩ := returns_pure.mp hdelete
  have hrow := (returns_processExisting hexisting id).1
  have hdropped : dropped (enabledIds providers) (page.edges.map Prod.snd) id ↔
      (id, r) ∈ listed db₂ ∧ r.disabledAt = none ∧ id ∉ enabledIds providers := by
    rw [dropped_iff hpage]
    refine ⟨?_, fun hlisted => ⟨r, hlisted⟩⟩
    rintro ⟨r₂, hlisted, hrest⟩
    cases (get?_of_mem_listed hlisted).1.symm.trans hr
    exact ⟨hlisted, hrest⟩
  rw [hr, Option.map_some] at hrow
  obtain ⟨r', hr', hd⟩ := forEach_keeps (fun p _ s s' hs => disabledAt_upsertProvider hs)
    ⟨_, hrow, rfl⟩ hupsert
  have hkept : upstreamTables db' = upstreamTables db₁ :=
    (issues_syncClients (fun _ => rfl) fun _ _ he => he).returns_eq hclients
  refine ⟨r', (congrArg (fun t => t.1.get? id) hkept).trans hr', ?_⟩
  rw [hd]
  by_cases hdrop : dropped (enabledIds providers) (page.edges.map Prod.snd) id
  · obtain ⟨hlisted, -, hid⟩ := hdropped.mp hdrop
    simp [hdrop, hlisted, hid]
  · have hstays := hdropped.not.mp hdrop
    rw [if_neg hdrop]
    refine (and_iff_left_of_imp fun hd => ?_).symm
    by_contra hno
    rw [not_or, not_not] at hno
    exact hstays ⟨hno.2, hd, hno.1⟩

/-- A provider is enabled after the second run just when the first left it alone. -/
theorem reenabled_iff {env₁ env₂ : Env} {providers₁ providers₂ : List ProviderConfig}
    {clients₁ clients₂ : List ClientConfig} {db₀ db₁ db₂ : Database} {p : Ulid}
    {r : UpstreamOAuthProviderRow} (hr : db₀.upstreamOAuthProviders.get? p = some r)
    (henabled : r.disabledAt = none)
    (h₁ : (configSync env₁ providers₁ clients₁ false false).Returns db₀ () db₁)
    (h₂ : (configSync env₂ providers₂ clients₂ false false).Returns db₁ () db₂)
    (hp : p ∈ enabledIds providers₂) :
    (∃ r', db₂.upstreamOAuthProviders.get? p = some r' ∧ r'.disabledAt = none) ↔
      p ∈ enabledIds providers₁ ∨ (p, r) ∉ listed db₀ := by
  obtain ⟨r₁, hr₁, hfirst⟩ := disabledAt_configSync hr h₁
  obtain ⟨r₂, hr₂, hsecond⟩ := disabledAt_configSync hr₁ h₂
  constructor
  · rintro ⟨r', hr', hd⟩
    cases hr₂.symm.trans hr'
    exact (hfirst.mp (hsecond.mp hd).1).2
  · intro hcond
    exact ⟨r₂, hr₂, hsecond.mpr ⟨hfirst.mpr ⟨henabled, hcond⟩, .inl hp⟩⟩

def plainEnv (now : Time) : Env := ⟨now, 0, Except.ok, fun _ => none⟩

def plainProvider (id : Ulid) : ProviderConfig :=
  ⟨id, true, none, none, "openid", none, .default, none, .doNothing⟩

def configured (disabledAt : Option Time) : UpstreamOAuthProviderRow :=
  ⟨none, disabledAt, none, "config", 0, 0, none, none, .default⟩

def oneProvider (disabledAt : Option Time) : Database := { Database.empty with
    upstreamOAuthProviders := Table.empty.insert 4 (configured disabledAt) }

theorem provider_stays_disabled : ∃ db₁ db₂ r₁ r₂,
      (oneProvider none).upstreamOAuthProviders.get? 4 = some (configured none) ∧
      (configSync (plainEnv 1) [] [] false false).Returns (oneProvider none) () db₁ ∧
      db₁.upstreamOAuthProviders.get? 4 = some r₁ ∧ r₁.disabledAt = some 1 ∧
      (configSync (plainEnv 2) [plainProvider 4] [] false false).Returns db₁ () db₂ ∧
      4 ∈ enabledIds [plainProvider 4] ∧
      db₂.upstreamOAuthProviders.get? 4 = some r₂ ∧ r₂.disabledAt = some 1 :=
  ⟨_, _, _, _, rfl, rfl, rfl, rfl, rfl, by decide, rfl, rfl⟩

theorem provider_in_both_configurations_enabled : ∃ db₁ db₂,
      (configSync (plainEnv 1) [plainProvider 4] [] false false).Returns (oneProvider none) () db₁ ∧
      (configSync (plainEnv 2) [plainProvider 4] [] false false).Returns db₁ () db₂ ∧
      ∃ r, db₂.upstreamOAuthProviders.get? 4 = some r ∧ r.disabledAt = none := by
  have hruns : ∃ db₁ db₂,
      (configSync (plainEnv 1) [plainProvider 4] [] false false).Returns (oneProvider none) () db₁ ∧
      (configSync (plainEnv 2) [plainProvider 4] [] false false).Returns db₁ () db₂ :=
    ⟨_, _, rfl, rfl⟩
  obtain ⟨db₁, db₂, h₁, h₂⟩ := hruns
  have hr : (oneProvider none).upstreamOAuthProviders.get? 4 = some (configured none) := rfl
  exact ⟨db₁, db₂, h₁, h₂, (reenabled_iff hr rfl h₁ h₂ (by decide)).mpr (.inl (by decide))⟩

end Pasion.ConfigSync
