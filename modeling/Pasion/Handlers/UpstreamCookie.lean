import Mathlib.Logic.Relation
import Pasion.Data.Basic

/-! The cookie that lists the upstream authorization attempts in flight. -/
namespace Pasion

inductive AccountAction where
  | orgMatrixProfile
  | profile
  | orgMatrixDevicesList
  | orgMatrixSessionsList
  | sessionsList
  | orgMatrixDeviceView (deviceId : String)
  | orgMatrixSessionView (deviceId : String)
  | sessionView (deviceId : String)
  | orgMatrixDeviceDelete (deviceId : String)
  | orgMatrixSessionEnd (deviceId : String)
  | sessionEnd (deviceId : String)
  | orgMatrixCrossSigningReset
  deriving DecidableEq

inductive PostAuthAction where
  | continueAuthorizationGrant (id : Ulid)
  | continueDeviceCodeGrant (id : Ulid)
  | changePassword
  | linkUpstream (id : Ulid)
  | manageAccount (action : Option AccountAction)
  deriving DecidableEq

/-- The upper 48 bits of a ULID: milliseconds since the epoch. -/
def Ulid.timestampMs (id : Ulid) : ℕ := id / 2 ^ 80

/-- Times of 48 bits are all dates, so neither conversion of the source fails. -/
def ulidIsExpired (id : Ulid) (now : Time) (maxAge : Duration) : Bool :=
  decide (now - (id.timestampMs : ℤ) * 1000 > maxAge)

structure Payload where
  (session provider : Ulid)
  state : String
  link : Option Ulid
  postAuthAction : Option PostAuthAction
  deriving DecidableEq

structure UpstreamSessions where
  payloads : List Payload
  deriving DecidableEq

inductive UpstreamSessionNotFound where
  | upstreamSessionNotFound
  deriving DecidableEq

namespace UpstreamSessions

def maxAge : Duration := 10 * 60 * 1000 * 1000

def default : UpstreamSessions := ⟨[]⟩

def expire (c : UpstreamSessions) (now : Time) : UpstreamSessions :=
  ⟨c.payloads.filter (fun p => !ulidIsExpired p.session now maxAge)⟩

def isEmpty (c : UpstreamSessions) : Bool := c.payloads.isEmpty

def add (c : UpstreamSessions) (session provider : Ulid) (state : String)
    (postAuthAction : Option PostAuthAction) : UpstreamSessions :=
  ⟨c.payloads ++ [⟨session, provider, state, none, postAuthAction⟩]⟩

def findSession (c : UpstreamSessions) (provider : Ulid) (state : String) :
    Except UpstreamSessionNotFound (Ulid × Option PostAuthAction) :=
  match c.payloads.find?
      (fun p => p.provider == provider && p.state == state && p.link.isNone) with
  | some p => .ok (p.session, p.postAuthAction)
  | none => .error .upstreamSessionNotFound

def addLinkToSession (c : UpstreamSessions) (session link : Ulid) :
    Except UpstreamSessionNotFound UpstreamSessions :=
  match c.payloads.findIdx? (fun p => p.session == session && p.link.isNone) with
  | some i => .ok ⟨c.payloads.modify i (fun p => { p with link := some link })⟩
  | none => .error .upstreamSessionNotFound

/-- Of two payloads the one with the higher session; the second if they are equal. -/
def moreRecent (a b : Payload) : Payload := if a.session > b.session then a else b

def mostRecent : List Payload → Option Payload
  | [] => none
  | p :: ps => some (ps.foldl moreRecent p)

def lookupLink (c : UpstreamSessions) (linkId : Ulid) :
    Except UpstreamSessionNotFound (Ulid × Option PostAuthAction) :=
  match mostRecent (c.payloads.filter (fun p => p.link == some linkId)) with
  | some p => .ok (p.session, p.postAuthAction)
  | none => .error .upstreamSessionNotFound

def consumeLink (c : UpstreamSessions) (linkId : Ulid) :
    Except UpstreamSessionNotFound UpstreamSessions :=
  match c.payloads.findIdx? (fun p => p.link == some linkId) with
  | some pos => .ok ⟨c.payloads.eraseIdx pos⟩
  | none => .error .upstreamSessionNotFound

/-- One operation on the cookie. Only sessions that satisfy `mayAdd` are added. -/
inductive Step (mayAdd : Ulid → Prop) : UpstreamSessions → UpstreamSessions → Prop where
  | add {c session provider state action} (h : mayAdd session) :
      Step mayAdd c (c.add session provider state action)
  | addLinkToSession {c session link c'} (h : c.addLinkToSession session link = .ok c') :
      Step mayAdd c c'
  | consumeLink {c link c'} (h : c.consumeLink link = .ok c') : Step mayAdd c c'
  | expire {c now} : Step mayAdd c (c.expire now)

/-- The second cookie comes from the first by operations that add only sessions of `mayAdd`. -/
def Reaches (mayAdd : Ulid → Prop) : UpstreamSessions → UpstreamSessions → Prop :=
  Relation.ReflTransGen (Step mayAdd)

def Forgets (c : UpstreamSessions) (session : Ulid) : Prop := ∀ p ∈ c.payloads, p.session ≠ session

/-- The first payload with the link is the only one of its session, and its session the highest. -/
def FirstIsLatest (c : UpstreamSessions) (linkId : Ulid) : Prop :=
  ∃ before p after, c.payloads = before ++ p :: after ∧ p.link = some linkId ∧
    (∀ q ∈ before, q.link ≠ some linkId) ∧
    ∀ q ∈ before ++ after, q.session ≠ p.session ∧ (q.link = some linkId → q.session < p.session)

variable {c c' : UpstreamSessions} {linkId session link : Ulid} {action : Option PostAuthAction}
  {before after : List Payload}

theorem moreRecent_eq_or (a b : Payload) : moreRecent a b = a ∨ moreRecent a b = b := by
  unfold moreRecent
  split_ifs
  · exact .inl rfl
  · exact .inr rfl

theorem le_moreRecent (a b : Payload) :
    a.session ≤ (moreRecent a b).session ∧ b.session ≤ (moreRecent a b).session := by
  unfold moreRecent
  split_ifs with h
  · exact ⟨Nat.le_refl _, Nat.le_of_lt h⟩
  · exact ⟨Nat.le_of_not_gt h, Nat.le_refl _⟩

theorem foldl_moreRecent (ps : List Payload) (p : Payload) : ps.foldl moreRecent p ∈ p :: ps ∧
      ∀ q ∈ p :: ps, q.session ≤ (ps.foldl moreRecent p).session := by
  induction ps generalizing p with
  | nil => simp
  | cons r ps ih =>
    obtain ⟨hmem, hmax⟩ := ih (moreRecent p r)
    have hle := le_moreRecent p r
    have htop := hmax (moreRecent p r) List.mem_cons_self
    constructor
    · rw [List.foldl_cons]
      obtain h | h := List.mem_cons.mp hmem
      · rw [h]
        obtain hp | hr := moreRecent_eq_or p r
        · rw [hp]
          exact List.mem_cons_self
        · rw [hr]
          exact List.mem_cons_of_mem p List.mem_cons_self
      · exact List.mem_cons_of_mem p (List.mem_cons_of_mem r h)
    · intro q hq
      simp only [List.mem_cons] at hq
      rw [List.foldl_cons]
      obtain rfl | rfl | hq := hq
      · exact Nat.le_trans hle.1 htop
      · exact Nat.le_trans hle.2 htop
      · exact hmax q (List.mem_cons_of_mem _ hq)

/-- The payload looked up is one with the link, of the highest session among those. -/
theorem lookupLink_eq_ok (h : c.lookupLink linkId = .ok (session, action)) :
    (∃ p ∈ c.payloads, p.link = some linkId ∧ p.session = session) ∧
      ∀ q ∈ c.payloads, q.link = some linkId → q.session ≤ session := by
  unfold lookupLink at h
  cases hf : c.payloads.filter (fun p => p.link == some linkId) with
  | nil =>
    rw [hf] at h
    cases h
  | cons p ps =>
    rw [hf] at h
    obtain ⟨hmem, hmax⟩ := foldl_moreRecent ps p
    have hsession : (ps.foldl moreRecent p).session = session := congrArg Prod.fst (Except.ok.inj h)
    rw [← hf] at hmem hmax
    rw [hsession] at hmax
    have hlatest := List.mem_filter.mp hmem
    constructor
    · exact ⟨_, hlatest.1, by simpa using hlatest.2, hsession⟩
    · intro q hq hlink
      exact hmax q (List.mem_filter.mpr ⟨hq, by simp [hlink]⟩)

theorem lookupLink_isOk (h : ∃ p ∈ c.payloads, p.link = some linkId) :
    ∃ session action, c.lookupLink linkId = .ok (session, action) := by
  obtain ⟨p, hp, hlink⟩ := h
  have hmem : p ∈ c.payloads.filter (fun p => p.link == some linkId) :=
    List.mem_filter.mpr ⟨hp, by simp [hlink]⟩
  unfold lookupLink
  cases hf : c.payloads.filter (fun p => p.link == some linkId) with
  | nil => simp [hf] at hmem
  | cons q qs => exact ⟨_, _, rfl⟩

theorem lookupLink_eq_ok_iff : (∃ action, c.lookupLink linkId = .ok (session, action)) ↔
      (∃ p ∈ c.payloads, p.link = some linkId ∧ p.session = session) ∧
        ∀ q ∈ c.payloads, q.link = some linkId → q.session ≤ session := by
  constructor
  · rintro ⟨action, h⟩
    exact lookupLink_eq_ok h
  · rintro ⟨⟨p, hp, hlink, hsession⟩, hmax⟩
    obtain ⟨session', action, hlookup⟩ := lookupLink_isOk ⟨p, hp, hlink⟩
    obtain ⟨⟨r, hr, hrlink, hrsession⟩, hmax'⟩ := lookupLink_eq_ok hlookup
    have hle : session ≤ session' := hsession ▸ hmax' p hp hlink
    have hge : session' ≤ session := hrsession ▸ hmax r hr hrlink
    exact ⟨action, Nat.le_antisymm hge hle ▸ hlookup⟩

/-- Only the first payload with the link is removed. -/
theorem consumeLink_append {p : Payload}
    (hp : p.link = some linkId) (hbefore : ∀ q ∈ before, q.link ≠ some linkId) :
    consumeLink ⟨before ++ p :: after⟩ linkId = .ok ⟨before ++ after⟩ := by
  have hpos : (before ++ p :: after).findIdx? (fun q => q.link == some linkId) =
      some before.length := by
    have hnone : before.findIdx? (fun q => q.link == some linkId) = none := by
      rw [List.findIdx?_eq_none_iff]
      intro q hq
      simpa using hbefore q hq
    rw [List.findIdx?_append, hnone]
    simp [List.findIdx?_cons, hp]
  unfold consumeLink
  rw [hpos]
  simp [List.eraseIdx_append_of_length_le]

/-- A payload with the link has a first one before it. -/
theorem exists_first_link {ps : List Payload} (h : ∃ p ∈ ps, p.link = some linkId) :
    ∃ before p after, ps = before ++ p :: after ∧ p.link = some linkId ∧
      ∀ q ∈ before, q.link ≠ some linkId := by
  induction ps with
  | nil => simp at h
  | cons r ps ih =>
    by_cases hr : r.link = some linkId
    · exact ⟨[], r, ps, rfl, hr, by simp⟩
    · have hps : ∃ p ∈ ps, p.link = some linkId := by
        obtain ⟨p, hp, hlink⟩ := h
        obtain rfl | hp := List.mem_cons.mp hp
        · exact absurd hlink hr
        · exact ⟨p, hp, hlink⟩
      obtain ⟨before, p, after, rfl, hp, hbefore⟩ := ih hps
      refine ⟨r :: before, p, after, rfl, hp, ?_⟩
      intro q hq
      obtain rfl | hq := List.mem_cons.mp hq
      · exact hr
      · exact hbefore q hq

/-- The link is given to the first payload of the session that has none. -/
theorem addLinkToSession_eq_ok (h : c.addLinkToSession session link = .ok c') :
    ∃ before p after, c.payloads = before ++ p :: after ∧ p.session = session ∧ p.link = none ∧
      c'.payloads = before ++ { p with link := some link } :: after := by
  unfold addLinkToSession at h
  split at h
  · next i hi =>
    cases h
    obtain ⟨hlt, htest, -⟩ := List.findIdx?_eq_some_iff_getElem.mp hi
    simp only [Bool.and_eq_true, beq_iff_eq, Option.isNone_iff_eq_none] at htest
    refine ⟨c.payloads.take i, c.payloads[i], c.payloads.drop (i + 1), ?_, htest.1, htest.2, ?_⟩
    · rw [List.getElem_cons_drop, List.take_append_drop]
    · rw [List.modify_eq_take_cons_drop hlt]
  · cases h

/-- What a link that has just been added leads to once the expired payloads are gone. -/
theorem lookupLink_expire_iff {now : Time} (h : c.addLinkToSession session link = .ok c') :
    (∃ action, (c'.expire now).lookupLink link = .ok (session, action)) ↔
      ulidIsExpired session now maxAge = false ∧
        ∀ q ∈ c.payloads, q.link = some link → ulidIsExpired q.session now maxAge = false →
          q.session ≤ session := by
  obtain ⟨before, p, after, hc, hsession, hlink, hc'⟩ := addLinkToSession_eq_ok h
  have hmem : ∀ q, q ∈ (c'.expire now).payloads ↔
      q ∈ c'.payloads ∧ ulidIsExpired q.session now maxAge = false := by
    intro q
    simp [expire, List.mem_filter]
  rw [lookupLink_eq_ok_iff]
  simp only [hmem, hc, hc', List.mem_append, List.mem_cons]
  constructor
  · rintro ⟨⟨q, ⟨-, hfresh⟩, -, hq⟩, hmax⟩
    refine ⟨hq ▸ hfresh, ?_⟩
    intro r hr hrlink hrfresh
    refine hmax r ⟨?_, hrfresh⟩ hrlink
    obtain hr | rfl | hr := hr
    · exact .inl hr
    · rw [hlink] at hrlink
      cases hrlink
    · exact .inr (.inr hr)
  · rintro ⟨hfresh, hmax⟩
    constructor
    · exact ⟨{ p with link := some link }, ⟨.inr (.inl rfl), hsession ▸ hfresh⟩, rfl, hsession⟩
    · rintro q ⟨hq | rfl | hq, hqfresh⟩ hqlink
      · exact hmax q (.inl hq) hqlink hqfresh
      · exact Nat.le_of_eq hsession
      · exact hmax q (.inr (.inr hq)) hqlink hqfresh

/-- Sessions are not changed by an operation, and only added by `add`. -/
theorem Step.forgets {mayAdd : Ulid → Prop} (hsession : ¬ mayAdd session) (hstep : Step mayAdd c c') (hc : c.Forgets session) :
    c'.Forgets session := by
  cases hstep with
  | add h =>
    intro p hp
    obtain hp | hp := List.mem_append.mp hp
    · exact hc p hp
    · rw [List.mem_singleton.mp hp]
      intro heq
      exact hsession (heq ▸ h)
  | addLinkToSession h =>
    obtain ⟨before, p, after, hbefore, -, -, hafter⟩ := addLinkToSession_eq_ok h
    unfold Forgets at hc ⊢
    rw [hbefore] at hc
    rw [hafter]
    intro q hq
    simp only [List.mem_append, List.mem_cons] at hc hq
    obtain hq | rfl | hq := hq
    · exact hc q (.inl hq)
    · exact hc p (.inr (.inl rfl))
    · exact hc q (.inr (.inr hq))
  | consumeLink h =>
    unfold UpstreamSessions.consumeLink at h
    split at h
    · cases h
      intro p hp
      exact hc p (List.mem_of_mem_eraseIdx hp)
    · cases h
  | expire => exact fun p hp => hc p (List.mem_filter.mp hp).1

theorem Reaches.forgets {mayAdd : Ulid → Prop} (hsession : ¬ mayAdd session) (hreach : Reaches mayAdd c c') (hc : c.Forgets session) :
    c'.Forgets session := by
  induction hreach with
  | refl => exact hc
  | tail _ hstep ih => exact hstep.forgets hsession ih

/-- A forgotten session is not looked up. -/
theorem Forgets.lookupLink_ne (hc : c.Forgets session) (action : Option PostAuthAction) :
    c.lookupLink linkId ≠ .ok (session, action) := by
  intro h
  obtain ⟨⟨p, hp, -, hsession⟩, -⟩ := lookupLink_eq_ok h
  exact hc p hp hsession

/-- The rest does not have the session looked up exactly if the first payload was the latest. -/
theorem forgets_rest_iff {p : Payload} (hp : p.link = some linkId)
    (hlookup : lookupLink ⟨before ++ p :: after⟩ linkId = .ok (session, action)) :
    Forgets ⟨before ++ after⟩ session ↔ ∀ q ∈ before ++ after, q.session ≠ p.session ∧
        (q.link = some linkId → q.session < p.session) := by
  obtain ⟨⟨r, hr, hrlink, hrsession⟩, hmax⟩ := lookupLink_eq_ok hlookup
  have hsplit : ∀ q ∈ before ++ p :: after, q = p ∨ q ∈ before ++ after := by
    intro q hq
    simp only [List.mem_append, List.mem_cons] at hq ⊢
    tauto
  have hmem : ∀ q ∈ before ++ after, q ∈ before ++ p :: after := by
    intro q hq
    simp only [List.mem_append, List.mem_cons] at hq ⊢
    tauto
  have hpmax := hmax p (by simp) hp
  constructor
  · intro hforgets q hq
    have hsession : p.session = session := by
      obtain rfl | hr := hsplit r hr
      · exact hrsession
      · exact absurd hrsession (hforgets r hr)
    have hne : q.session ≠ p.session := hsession ▸ hforgets q hq
    refine ⟨hne, fun hlink => ?_⟩
    have hle : q.session ≤ p.session := hsession ▸ hmax q (hmem q hq) hlink
    exact Nat.lt_of_le_of_ne hle hne
  · intro hlatest q hq hqsession
    obtain rfl | hr := hsplit r hr
    · exact (hlatest q hq).1 (hqsession.trans hrsession.symm)
    · have hlt : session < p.session := hrsession ▸ (hlatest r hr).2 hrlink
      exact absurd hpmax (Nat.not_le_of_gt hlt)

/-- Consuming a link removes its session for good exactly if the first payload is the latest one. -/
theorem consumeLink_forgets_iff (c : UpstreamSessions) (linkId session : Ulid)
    (action : Option PostAuthAction) (hlookup : c.lookupLink linkId = .ok (session, action)) :
    (∃ c', c.consumeLink linkId = .ok c' ∧ c'.Forgets session ∧
      ∀ c'', Reaches (· ≠ session) c' c'' → ∀ a, c''.lookupLink linkId ≠ .ok (session, a)) ↔
    c.FirstIsLatest linkId := by
  constructor
  · rintro ⟨c', hconsume, hforgets, -⟩
    obtain ⟨⟨r, hr, hrlink, -⟩, -⟩ := lookupLink_eq_ok hlookup
    obtain ⟨before, p, after, hsplit, hp, hbefore⟩ := exists_first_link ⟨r, hr, hrlink⟩
    obtain rfl : c = ⟨before ++ p :: after⟩ := congrArg UpstreamSessions.mk hsplit
    rw [consumeLink_append hp hbefore] at hconsume
    cases hconsume
    exact ⟨before, p, after, rfl, hp, hbefore, (forgets_rest_iff hp hlookup).mp hforgets⟩
  · rintro ⟨before, p, after, hsplit, hp, hbefore, hlatest⟩
    obtain rfl : c = ⟨before ++ p :: after⟩ := congrArg UpstreamSessions.mk hsplit
    have hforgets : Forgets ⟨before ++ after⟩ session := (forgets_rest_iff hp hlookup).mpr hlatest
    refine ⟨⟨before ++ after⟩, consumeLink_append hp hbefore, hforgets, ?_⟩
    intro c'' hreach a
    exact (hreach.forgets (by simp) hforgets).lookupLink_ne a

/-- Three attempts: one with the link, after one with another link and before an open one. -/
def oneLinked : UpstreamSessions :=
  ⟨[⟨6, 1, "first", some 4, none⟩, ⟨7, 1, "second", some 3, none⟩, ⟨8, 2, "third", none, none⟩]⟩

theorem linked_attempt_forgotten : oneLinked.lookupLink 3 = .ok (7, none) ∧
    ∃ c', oneLinked.consumeLink 3 = .ok c' ∧ c'.Forgets 7 ∧
      ∀ c'', Reaches (· ≠ 7) c' c'' → ∀ a, c''.lookupLink 3 ≠ .ok (7, a) := by
  have hlookup : oneLinked.lookupLink 3 = .ok (7, none) := by decide
  refine ⟨hlookup, (consumeLink_forgets_iff oneLinked 3 7 none hlookup).mpr ?_⟩
  exact ⟨[⟨6, 1, "first", some 4, none⟩], _, [⟨8, 2, "third", none, none⟩], rfl, rfl, by simp,
    by simp⟩

def twoAttempts : UpstreamSessions :=
  ⟨[⟨7, 1, "first", some 3, none⟩, ⟨8, 1, "second", some 3, none⟩]⟩

/-- Consuming the link removes the older attempt, and the newer one is looked up again. -/
theorem consumed_session_found_again : Reaches (fun _ => True) default twoAttempts ∧
    twoAttempts.lookupLink 3 = .ok (8, none) ∧
    ∃ c', twoAttempts.consumeLink 3 = .ok c' ∧ ¬ c'.Forgets 8 ∧
      c'.lookupLink 3 = .ok (8, none) := by
  refine ⟨?_, by decide, ⟨[⟨8, 1, "second", some 3, none⟩]⟩, by decide, ?_, by decide⟩
  · have h₁ : Step (fun _ => True) default (default.add 7 1 "first" none) := .add trivial
    have h₂ : Step (fun _ => True) _ ((default.add 7 1 "first" none).add 8 1 "second" none) :=
      .add trivial
    have hfirst : ((default.add 7 1 "first" none).add 8 1 "second" none).addLinkToSession 7 3 =
        .ok ⟨[⟨7, 1, "first", some 3, none⟩, ⟨8, 1, "second", none, none⟩]⟩ := by decide
    have hsecond : addLinkToSession
        ⟨[⟨7, 1, "first", some 3, none⟩, ⟨8, 1, "second", none, none⟩]⟩ 8 3 =
        .ok twoAttempts := by decide
    exact (((Relation.ReflTransGen.single h₁).tail h₂).tail (.addLinkToSession hfirst)).tail
      (.addLinkToSession hsecond)
  · intro h
    exact h ⟨8, 1, "second", some 3, none⟩ (by simp) rfl

end UpstreamSessions

end Pasion
