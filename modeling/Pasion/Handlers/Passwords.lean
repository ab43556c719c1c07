import Mathlib.Data.List.Nodup
import Mathlib.Data.List.Chain

/-! Password hashing schemes, and the upgrade of hashes made under an older one. -/
namespace Pasion.Passwords

abbrev Bytes := List UInt8

def asBytes (s : String) : Bytes := s.toUTF8.data.toList

theorem asBytes_inj {s t : String} : asBytes s = asBytes t ↔ s = t := by
  constructor
  · intro h
    exact String.toByteArray_inj.mp (ByteArray.ext (Array.toList_inj.mp h))
  · rintro rfl
    rfl

/-- The hash functions with their salt and the normalisation; a stored text may be no hash. -/
structure Primitives where
  bcryptHash (password : Bytes) (cost : ℕ) (salt : Bytes) : Except String String
  bcryptVerify (password : Bytes) (hash : String) : Except String Bool
  argon2Hash (secret : Option Bytes) (password salt : Bytes) : Except String String
  argon2Verify (secret : Option Bytes) (password : Bytes) (hash : String) : Except String Bool
  pbkdf2Hash (password salt : Bytes) : Except String String
  pbkdf2Verify (password : Bytes) (hash : String) : Except String Bool
  nfkc : String → String

/-- A hash can always be made, and it verifies exactly against the bytes it was made from. -/
structure Primitives.Ideal (x : Primitives) : Prop where
  bcrypt : ∀ password cost salt, ∃ hash, x.bcryptHash password cost salt = .ok hash ∧
    ∀ other, x.bcryptVerify other hash = .ok (other = password)
  argon2 : ∀ secret password salt, ∃ hash, x.argon2Hash secret password salt = .ok hash ∧
    ∀ other, x.argon2Verify secret other hash = .ok (other = password)
  pbkdf2 : ∀ password salt, ∃ hash, x.pbkdf2Hash password salt = .ok hash ∧
    ∀ other, x.pbkdf2Verify other hash = .ok (other = password)

inductive PasswordVerificationResult (α : Type) where
  | matched (data : α)
  | notMatched
  deriving DecidableEq

namespace PasswordVerificationResult

def mapData {α β : Type} (data : β) : PasswordVerificationResult α → PasswordVerificationResult β
  | matched _ => matched data
  | notMatched => notMatched

def isSuccess {α : Type} : PasswordVerificationResult α → Bool
  | matched _ => true
  | notMatched => false

def ofBool (ok : Bool) : PasswordVerificationResult Unit := if ok then matched () else notMatched

end PasswordVerificationResult

open PasswordVerificationResult

inductive Algorithm where
  | bcrypt (cost : Option ℕ)
  | argon2id
  | pbkdf2

namespace Algorithm

def hashBlocking (x : Primitives) (salt : Bytes) (password : Bytes) (pepper : Option Bytes) :
    Algorithm → Except String String
  | bcrypt cost => x.bcryptHash (password ++ pepper.getD []) (cost.getD 13) salt
  | argon2id => x.argon2Hash pepper password salt
  | pbkdf2 => x.pbkdf2Hash (password ++ pepper.getD []) salt

def verifyBlocking (x : Primitives) (hashedPassword : String) (password : Bytes)
    (pepper : Option Bytes) : Algorithm → Except String (PasswordVerificationResult Unit)
  | bcrypt _ => (x.bcryptVerify (password ++ pepper.getD []) hashedPassword).map ofBool
  | argon2id => (x.argon2Verify pepper password hashedPassword).map ofBool
  | pbkdf2 => (x.pbkdf2Verify (password ++ pepper.getD []) hashedPassword).map ofBool

end Algorithm

structure Hasher where
  algorithm : Algorithm
  nfkcNormalize : Bool
  pepper : Option Bytes

namespace Hasher

def maybeNormalize (x : Primitives) (h : Hasher) (pwd : String) : String :=
  if h.nfkcNormalize then x.nfkc pwd else pwd

def hashBlocking (x : Primitives) (h : Hasher) (salt : Bytes) (password : String) :
    Except String String :=
  h.algorithm.hashBlocking x salt (asBytes (h.maybeNormalize x password)) h.pepper

def verifyBlocking (x : Primitives) (h : Hasher) (hashedPassword password : String) :
    Except String (PasswordVerificationResult Unit) :=
  h.algorithm.verifyBlocking x hashedPassword (asBytes (h.maybeNormalize x password)) h.pepper

end Hasher

abbrev SchemeVersion := ℕ

structure InnerPasswordManager where
  currentHasher : Hasher
  currentVersion : SchemeVersion
  otherHashers : List (SchemeVersion × Hasher)

structure PasswordManager where
  inner : Option InnerPasswordManager

namespace PasswordManager

/-- The first scheme is the current one. -/
def new : List (SchemeVersion × Hasher) → Except String PasswordManager
  | [] => .error "Iterator must have at least one item"
  | (currentVersion, currentHasher) :: otherHashers =>
    .ok ⟨some ⟨currentHasher, currentVersion, otherHashers⟩⟩

def getInner (m : PasswordManager) : Except String InnerPasswordManager :=
  match m.inner with
  | some inner => .ok inner
  | none => .error "Password manager is disabled"

def hash (x : Primitives) (m : PasswordManager) (salt : Bytes) (password : String) :
    Except String (SchemeVersion × String) := do
  let inner ← m.getInner
  let hashed ← inner.currentHasher.hashBlocking x salt password
  pure (inner.currentVersion, hashed)

/-- Of two hashers with one version, the map keeps the later. -/
def hasher (inner : InnerPasswordManager) (scheme : SchemeVersion) : Except String Hasher :=
  if scheme = inner.currentVersion then .ok inner.currentHasher
  else
    match inner.otherHashers.reverse.find? (fun s => s.1 = scheme) with
    | some s => .ok s.2
    | none => .error "Hashing scheme not found"

def verify (x : Primitives) (m : PasswordManager) (scheme : SchemeVersion)
    (password hashedPassword : String) : Except String (PasswordVerificationResult Unit) := do
  let inner ← m.getInner
  let hasher ← hasher inner scheme
  hasher.verifyBlocking x hashedPassword password

/-- A password under an old scheme is hashed anew; the hash is dropped if it does not match. -/
def verifyAndUpgrade (x : Primitives) (m : PasswordManager) (salt : Bytes) (scheme : SchemeVersion)
    (password hashedPassword : String) :
    Except String (PasswordVerificationResult (Option (SchemeVersion × String))) := do
  let inner ← m.getInner
  let verificationOutcome ← m.verify x scheme password hashedPassword
  let newHash ←
    if scheme ≠ inner.currentVersion then some <$> m.hash x salt password else pure none
  pure (verificationOutcome.mapData newHash)

end PasswordManager

/-- A list of schemes with distinct versions, the current one first. -/
structure Configuration where
  current : SchemeVersion × Hasher
  others : List (SchemeVersion × Hasher)
  nodup : ((current :: others).map Prod.fst).Nodup

namespace Configuration

def schemes (c : Configuration) : List (SchemeVersion × Hasher) := c.current :: c.others

def manager (c : Configuration) : PasswordManager := ⟨some ⟨c.current.2, c.current.1, c.others⟩⟩

theorem new_schemes (c : Configuration) : PasswordManager.new c.schemes = .ok c.manager := rfl

def Keeps (old new : Configuration) : Prop := old.schemes ⊆ new.schemes

theorem keeps_of_chain {history : List Configuration} (h : history.IsChain Keeps) {i j : ℕ}
    (hij : i ≤ j) {c d : Configuration} (hc : history[i]? = some c) (hd : history[j]? = some d) :
    c.Keeps d := by
  have htrans : IsTrans Configuration Keeps := ⟨fun _ _ _ h₁ h₂ => List.Subset.trans h₁ h₂⟩
  have hpairwise : history.Pairwise Keeps := List.isChain_iff_pairwise.mp h
  obtain ⟨hi, rfl⟩ := List.getElem?_eq_some_iff.mp hc
  obtain ⟨hj, rfl⟩ := List.getElem?_eq_some_iff.mp hd
  rcases hij.eq_or_lt with rfl | hlt
  · exact List.Subset.refl _
  · exact List.pairwise_iff_getElem.mp hpairwise i j hi hj hlt

end Configuration

section Upgrade

variable {x : Primitives} {c d : Configuration} {p q hash : String} {salt salt' : Bytes}
  {version : SchemeVersion}

theorem append_pepper_inj {a b : String} {pepper : Bytes} :
    asBytes a ++ pepper = asBytes b ++ pepper ↔ a = b := by
  rw [List.append_left_inj, asBytes_inj]

/-- A hash made by a hasher verifies exactly against passwords with the same normal form. -/
theorem Hasher.hash_verifies (hx : x.Ideal) (h : Hasher) (salt : Bytes) (p : String) :
    ∃ hash, h.hashBlocking x salt p = .ok hash ∧
      ∀ q, h.verifyBlocking x hash q = .ok (ofBool (h.maybeNormalize x q = h.maybeNormalize x p)) := by
  unfold hashBlocking verifyBlocking
  cases h.algorithm with
  | bcrypt cost =>
    obtain ⟨hash, hhash, hverify⟩ := hx.bcrypt
      (asBytes (h.maybeNormalize x p) ++ h.pepper.getD []) (cost.getD 13) salt
    refine ⟨hash, hhash, fun q => ?_⟩
    simp only [Algorithm.verifyBlocking, hverify, append_pepper_inj]
    rfl
  | argon2id =>
    obtain ⟨hash, hhash, hverify⟩ := hx.argon2 h.pepper (asBytes (h.maybeNormalize x p)) salt
    refine ⟨hash, hhash, fun q => ?_⟩
    simp only [Algorithm.verifyBlocking, hverify, asBytes_inj]
    rfl
  | pbkdf2 =>
    obtain ⟨hash, hhash, hverify⟩ := hx.pbkdf2
      (asBytes (h.maybeNormalize x p) ++ h.pepper.getD []) salt
    refine ⟨hash, hhash, fun q => ?_⟩
    simp only [Algorithm.verifyBlocking, hverify, append_pepper_inj]
    rfl

namespace Configuration

variable {s : SchemeVersion × Hasher}

theorem verify_of_mem (hs : s ∈ d.schemes) :
    d.manager.verify x s.1 q hash = s.2.verifyBlocking x hash q := by
  obtain ⟨hfresh, hothers⟩ := List.nodup_cons.mp d.nodup
  have hhasher : PasswordManager.hasher ⟨d.current.2, d.current.1, d.others⟩ s.1 = .ok s.2 := by
    unfold PasswordManager.hasher
    rcases List.mem_cons.mp hs with rfl | hs
    · exact if_pos rfl
    · have hne : s.1 ≠ d.current.1 := by
        intro heq
        exact hfresh (heq ▸ List.mem_map.mpr ⟨s, hs, rfl⟩)
      rw [if_neg hne]
      cases hfind : d.others.reverse.find? (fun s' => s'.1 = s.1) with
      | none =>
        have hnone := List.find?_eq_none.mp hfind s (List.mem_reverse.mpr hs)
        simp at hnone
      | some s' =>
        have hs' : s' ∈ d.others := List.mem_reverse.mp (List.mem_of_find?_eq_some hfind)
        have hversion : s'.1 = s.1 := by simpa using List.find?_some hfind
        rw [List.inj_on_of_nodup_map hothers hs' hs hversion]
  unfold PasswordManager.verify
  rw [show d.manager.getInner = .ok ⟨d.current.2, d.current.1, d.others⟩ from rfl]
  change (PasswordManager.hasher ⟨d.current.2, d.current.1, d.others⟩ s.1 >>= _) = _
  rw [hhasher]
  rfl

theorem hash_eq_ok : c.manager.hash x salt p = .ok (version, hash) ↔
      c.current.1 = version ∧ c.current.2.hashBlocking x salt p = .ok hash := by
  change (c.current.2.hashBlocking x salt p >>= fun hashed => Except.ok (c.current.1, hashed)) = _ ↔ _
  cases c.current.2.hashBlocking x salt p with
  | error e => simp [bind, Except.bind]
  | ok hashed => simp [bind, Except.bind]

theorem verifyAndUpgrade_of_mem (salt' : Bytes) (hx : x.Ideal) (hs : s ∈ d.schemes)
    (hhash : s.2.hashBlocking x salt p = .ok hash) :
    ∃ newHash, d.current.2.hashBlocking x salt' q = .ok newHash ∧
      d.manager.verifyAndUpgrade x salt' s.1 q hash =
        .ok ((ofBool (s.2.maybeNormalize x q = s.2.maybeNormalize x p)).mapData
          (if s.1 = d.current.1 then none else some (d.current.1, newHash))) := by
  obtain ⟨hash', hhash', hverify⟩ := s.2.hash_verifies hx salt p
  cases hhash.symm.trans hhash'
  obtain ⟨newHash, hnewHash, -⟩ := d.current.2.hash_verifies hx salt' q
  have hnew : d.manager.hash x salt' q = .ok (d.current.1, newHash) := hash_eq_ok.mpr ⟨rfl, hnewHash⟩
  refine ⟨newHash, hnewHash, ?_⟩
  unfold PasswordManager.verifyAndUpgrade
  rw [verify_of_mem hs, hverify, hnew]
  have hinner : d.manager.getInner = .ok ⟨d.current.2, d.current.1, d.others⟩ := rfl
  by_cases hcurrent : s.1 = d.current.1 <;>
    simp [hinner, hcurrent, bind, Except.bind, pure, Except.pure, Functor.map, Except.map]

end Configuration

/-- Hashers agree on two passwords, unless only the first normalises and they differ. -/
theorem normalize_agrees {h : Hasher} (hsame : h.maybeNormalize x q = h.maybeNormalize x p)
    (h' : Hasher) : h'.maybeNormalize x p = h'.maybeNormalize x q ↔
      ¬(h.nfkcNormalize ∧ ¬h'.nfkcNormalize ∧ x.nfkc q = x.nfkc p ∧ q ≠ p) := by
  unfold Hasher.maybeNormalize at hsame ⊢
  by_cases hflag : h.nfkcNormalize
  · rw [if_pos hflag, if_pos hflag] at hsame
    by_cases hflag' : h'.nfkcNormalize
    · simp [hflag', hsame]
    · simp [hflag, hflag', hsame, eq_comm]
  · rw [if_neg hflag, if_neg hflag] at hsame
    simp [hsame]

/-- A password is upgraded, unless only the older scheme takes its form for the same. -/
theorem upgrade_iff (hx : x.Ideal) {history : List Configuration}
    (hhistory : history.IsChain Configuration.Keeps) {i j : ℕ} (hij : i ≤ j)
    (hc : history[i]? = some c) (hd : history[j]? = some d)
    (hhash : c.manager.hash x salt p = .ok (version, hash)) :
    (∃ result, d.manager.verifyAndUpgrade x salt' version q hash = .ok result ∧
      (result.isSuccess ↔ c.current.2.maybeNormalize x q = c.current.2.maybeNormalize x p) ∧
      ((∃ upgraded, result = .matched (some upgraded)) ↔ result.isSuccess ∧ version ≠ d.current.1) ∧
      ∀ upgraded, result = .matched (some upgraded) → upgraded.1 = d.current.1 ∧
        d.manager.verify x upgraded.1 p upgraded.2 = .ok (.matched ())) ↔
    ¬(version ≠ d.current.1 ∧ c.current.2.nfkcNormalize ∧ ¬d.current.2.nfkcNormalize ∧
      x.nfkc q = x.nfkc p ∧ q ≠ p) := by
  obtain ⟨rfl, hblocking⟩ := Configuration.hash_eq_ok.mp hhash
  have hscheme : c.current ∈ d.schemes :=
    Configuration.keeps_of_chain hhistory hij hc hd List.mem_cons_self
  obtain ⟨newHash, hnewHash, hresult⟩ :=
    Configuration.verifyAndUpgrade_of_mem (q := q) salt' hx hscheme hblocking
  obtain ⟨newHash', hnewHash', hverify⟩ := d.current.2.hash_verifies hx salt' q
  cases hnewHash.symm.trans hnewHash'
  have hcurrent : d.manager.verify x d.current.1 p newHash = .ok (ofBool
      (d.current.2.maybeNormalize x p = d.current.2.maybeNormalize x q)) :=
    (Configuration.verify_of_mem List.mem_cons_self).trans (hverify p)
  rw [hresult]
  simp only [Except.ok.injEq, exists_eq_left']
  by_cases hold : c.current.2.maybeNormalize x q = c.current.2.maybeNormalize x p
  · by_cases hversion : c.current.1 = d.current.1
    · simp [hold, hversion, ofBool, mapData, isSuccess]
    · -- The new hash is made from `q`: it is good for `p` if the current scheme takes them for one.
      have hagree := normalize_agrees hold d.current.2
      simp [hold, hversion, ofBool, mapData, isSuccess, hcurrent, hagree]
  · refine iff_of_true ?_ ?_
    · simp [hold, ofBool, mapData, isSuccess]
    · rintro ⟨-, hflag, -, hnfkc, -⟩
      exact hold (by simpa [Hasher.maybeNormalize, hflag] using hnfkc)

end Upgrade

section Ligature

def byteChar (byte : UInt8) : Char := ⟨byte.toUInt32, .inl (by
    have hlt := byte.toNat_lt
    simp only [UInt8.toNat_toUInt32]
    omega)⟩

def plainHash (password : Bytes) : String := String.ofList (password.map byteChar)

theorem plainHash_inj {a b : Bytes} : plainHash a = plainHash b ↔ a = b := by
  have hbyte : Function.Injective byteChar := by
    intro byte byte' heq
    have hval : byte.toUInt32 = byte'.toUInt32 := congrArg Char.val heq
    simpa using congrArg UInt32.toUInt8 hval
  rw [plainHash, plainHash, String.ofList_inj, (List.map_injective_iff.mpr hbyte).eq_iff]

def plain : Primitives where
  bcryptHash password _ _ := .ok (plainHash password)
  bcryptVerify password hash := .ok (plainHash password = hash)
  argon2Hash _ password _ := .ok (plainHash password)
  argon2Verify _ password hash := .ok (plainHash password = hash)
  pbkdf2Hash password _ := .ok (plainHash password)
  pbkdf2Verify password hash := .ok (plainHash password = hash)
  nfkc s := if s = "ﬁ" then "fi" else s

theorem plain_ideal : plain.Ideal where
  bcrypt _ _ _ := ⟨_, rfl, fun _ => congrArg Except.ok (decide_eq_decide.mpr plainHash_inj)⟩
  argon2 _ _ _ := ⟨_, rfl, fun _ => congrArg Except.ok (decide_eq_decide.mpr plainHash_inj)⟩
  pbkdf2 _ _ := ⟨_, rfl, fun _ => congrArg Except.ok (decide_eq_decide.mpr plainHash_inj)⟩

def oldScheme : Configuration := ⟨(1, ⟨.pbkdf2, true, none⟩), [], by decide⟩

def newScheme : Configuration := ⟨(2, ⟨.argon2id, false, none⟩), [(1, ⟨.pbkdf2, true, none⟩)], by decide⟩

theorem ligature_locks_out : plain.Ideal ∧ [oldScheme, newScheme].IsChain Configuration.Keeps ∧
    ∃ hash upgraded, oldScheme.manager.hash plain [] "fi" = .ok (1, hash) ∧
      newScheme.manager.verifyAndUpgrade plain [] 1 "ﬁ" hash = .ok (.matched (some upgraded)) ∧
      newScheme.manager.verify plain upgraded.1 "fi" upgraded.2 = .ok .notMatched := by
  refine ⟨plain_ideal, ?_, _, _, rfl, rfl, ?_⟩
  · simp [Configuration.Keeps, Configuration.schemes, oldScheme, newScheme]
  · decide +kernel

theorem same_spelling_upgrades :
    ∃ result, newScheme.manager.verifyAndUpgrade plain [] 1 "fi" (plainHash (asBytes "fi")) =
      .ok result ∧ result.isSuccess := by
  have hchain : [oldScheme, newScheme].IsChain Configuration.Keeps := by
    simp [Configuration.Keeps, Configuration.schemes, oldScheme, newScheme]
  have hhash : oldScheme.manager.hash plain [] "fi" = .ok (1, plainHash (asBytes "fi")) := rfl
  refine Exists.imp (fun result h => ⟨h.1, h.2.1.mpr rfl⟩) ((upgrade_iff (i := 0) (j := 1)
    (c := oldScheme) (d := newScheme) (p := "fi") (q := "fi") plain_ideal hchain (by decide) rfl rfl
    hhash).mpr ?_)
  decide

end Ligature

section Bcrypt

/-- Bcrypt reads the first 72 bytes of its input, and is ideal on them. -/
def Primitives.ReadsPrefix (x : Primitives) : Prop :=
  ∀ password cost salt, ∃ hash, x.bcryptHash password cost salt = .ok hash ∧
    ∀ other, x.bcryptVerify other hash = .ok (other.take 72 = password.take 72)

/-- The two schemes take the two passwords for one, and have one pepper. -/
def SameSecret (x : Primitives) (h h' : Hasher) (p q : String) : Prop :=
  h'.maybeNormalize x q = h.maybeNormalize x p ∧ h'.pepper.getD [] = h.pepper.getD []

def Hasher.IsBcrypt (h : Hasher) (pepper : Bytes) : Prop :=
  (∃ cost, h.algorithm = .bcrypt cost) ∧ h.pepper.getD [] = pepper

def Hasher.size (x : Primitives) (h : Hasher) (password : String) : ℕ :=
  (asBytes (h.maybeNormalize x password)).length

/-- Of the passwords with `m` and `n` bytes under the peppers `k` and `k'`, only the same secret is
accepted. -/
def AcceptsSameOnly (x : Primitives) (m n : ℕ) (k k' : Bytes) : Prop :=
  ∀ (h h' : Hasher), h.IsBcrypt k → h'.IsBcrypt k' → ∀ salt p q hash, h.size x p = m →
    h'.size x q = n → h.hashBlocking x salt p = .ok hash →
      h'.verifyBlocking x hash q = .ok (.matched ()) → SameSecret x h h' p q

/-- A text goes on after `m` bytes up to `n` bytes, and with the pepper `k'` after it looks like the
pepper `k`, as far as bcrypt reads. -/
def Continues (m n : ℕ) (k k' : Bytes) : Prop :=
  m ≤ n ∧ ∃ r : String, (asBytes r).length = n - m ∧
    (asBytes r ++ k').take (72 - m) = k.take (72 - m)

/-- Both passwords are too long, or the longer one may go on like the pepper of the other. -/
def Collide (m n : ℕ) (k k' : Bytes) : Prop :=
  (m = n ∧ 72 < m) ∨ (¬(m = n ∧ k = k') ∧ (Continues m n k k' ∨ Continues n m k' k))

variable {x : Primitives} {h h' : Hasher} {p q : String} {m n : ℕ} {k k' : Bytes}

theorem asBytes_append (s t : String) : asBytes (s ++ t) = asBytes s ++ asBytes t := by
  simp [asBytes, String.toUTF8_eq_toByteArray]

theorem exists_text_of_append {b : Bytes} (hq : asBytes q = asBytes p ++ b) :
    ∃ r : String, q = p ++ r ∧ asBytes r = b := by
  have hbytes : p.toList.utf8Encode ++ ⟨b.toArray⟩ = q.toList.utf8Encode := by
    rw [← String.toByteArray_ofList, ← String.toByteArray_ofList, String.ofList_toList,
      String.ofList_toList]
    refine ByteArray.ext (Array.toList_inj.mp ?_)
    simpa [asBytes, String.toUTF8_eq_toByteArray] using hq.symm
  obtain ⟨l, hl⟩ := List.isPrefix_of_utf8Encode_append_eq_utf8Encode _ hbytes
  have happend : q = p ++ String.ofList l := by
    rw [← String.toList_inj, String.toList_append, String.toList_ofList, hl]
  refine ⟨_, happend, ?_⟩
  rw [happend, asBytes_append, List.append_cancel_left_eq] at hq
  exact hq

def repeated (n : ℕ) : String := String.ofList (List.replicate n 'a')

theorem length_asBytes_repeated (n : ℕ) : (asBytes (repeated n)).length = n := by
  induction n with
  | zero => rfl
  | succ n ih =>
    have hone : (asBytes (String.ofList ['a'])).length = 1 := by decide
    rw [repeated, List.replicate_succ', String.ofList_append, asBytes_append, List.length_append]
    change (asBytes (repeated n)).length + _ = _
    omega

/-- After a common beginning, only what is left of the 72 bytes is compared. -/
theorem take_append_inj (a b c : Bytes) : (a ++ b).take 72 = (a ++ c).take 72 ↔
    b.take (72 - a.length) = c.take (72 - a.length) := by
  rw [List.take_append, List.take_append, List.append_cancel_left_eq]

theorem Collide.symm (hcollide : Collide m n k k') : Collide n m k' k := by
  rcases hcollide with ⟨rfl, hlong⟩ | ⟨hne, hcontinues⟩
  · exact .inl ⟨rfl, hlong⟩
  · exact .inr ⟨fun heq => hne ⟨heq.1.symm, heq.2.symm⟩, hcontinues.symm⟩

/-- The first bytes that are read make the longer text continue the shorter one. -/
theorem same_of_not_collide_of_le (hle : (asBytes p).length ≤ (asBytes q).length)
    (hnot : ¬Collide (asBytes p).length (asBytes q).length k k')
    (hread : (asBytes q ++ k').take 72 = (asBytes p ++ k).take 72) : q = p ∧ k' = k := by
  set m := (asBytes p).length with hm
  set n := (asBytes q).length with hn
  have hshort : m ≤ 72 := by
    by_contra hlong
    by_cases heq : m = n
    · exact hnot (.inl ⟨heq, by omega⟩)
    · refine hnot (.inr ⟨fun h => heq h.1, .inl ⟨hle, repeated (n - m), length_asBytes_repeated _, ?_⟩⟩)
      have hzero : 72 - m = 0 := by omega
      rw [hzero, List.take_zero, List.take_zero]
  have hprefix : (asBytes q).take m = asBytes p := by
    have htake := congrArg (List.take m) hread
    rw [List.take_take, List.take_take, min_eq_left hshort, List.take_append_of_le_length hle,
      List.take_left' rfl] at htake
    exact htake
  obtain ⟨r, rfl, hr⟩ := exists_text_of_append (p := p) (q := q) (b := (asBytes q).drop m)
    (by rw [← hprefix, List.take_append_drop])
  rw [asBytes_append, List.append_assoc, take_append_inj] at hread
  have hlength : (asBytes r).length = n - m := by
    rw [hn, asBytes_append, List.length_append]
    omega
  have hcontinues : Continues m n k k' := ⟨hle, r, hlength, hread⟩
  by_cases hsame : m = n ∧ k = k'
  · have hempty : asBytes r = asBytes "" := by
      rw [List.eq_nil_of_length_eq_zero (by omega : (asBytes r).length = 0)]
      rfl
    rw [asBytes_inj.mp hempty, String.append_empty]
    exact ⟨rfl, hsame.2.symm⟩
  · exact absurd (.inr ⟨hsame, .inl hcontinues⟩) hnot

theorem same_of_not_collide (hnot : ¬Collide (asBytes p).length (asBytes q).length k k')
    (hread : (asBytes q ++ k').take 72 = (asBytes p ++ k).take 72) : q = p ∧ k' = k := by
  rcases Nat.le_total (asBytes p).length (asBytes q).length with hle | hle
  · exact same_of_not_collide_of_le hle hnot hread
  · obtain ⟨hpq, hpepper⟩ := same_of_not_collide_of_le hle (mt Collide.symm hnot) hread.symm
    exact ⟨hpq.symm, hpepper.symm⟩

theorem exists_of_continues (hcontinues : Continues m n k k') :
    ∃ p q : String, (asBytes p).length = m ∧ (asBytes q).length = n ∧
      (asBytes q ++ k').take 72 = (asBytes p ++ k).take 72 := by
  obtain ⟨hle, r, hlength, hread⟩ := hcontinues
  have hm := length_asBytes_repeated m
  refine ⟨repeated m, repeated m ++ r, hm, ?_, ?_⟩
  · rw [asBytes_append, List.length_append]
    omega
  · rw [asBytes_append, List.append_assoc, take_append_inj, hm]
    exact hread

theorem exists_of_collide (hcollide : Collide m n k k') :
    ∃ p q : String, (asBytes p).length = m ∧ (asBytes q).length = n ∧
      (asBytes q ++ k').take 72 = (asBytes p ++ k).take 72 ∧ ¬(q = p ∧ k' = k) := by
  rcases hcollide with ⟨rfl, hlong⟩ | ⟨hne, hcontinues⟩
  · -- the two differ in their last byte, which is not read
    have hone : (asBytes "a").length = 1 ∧ (asBytes "b").length = 1 := by decide
    have hm := length_asBytes_repeated (m - 1)
    refine ⟨repeated (m - 1) ++ "a", repeated (m - 1) ++ "b", ?_, ?_, ?_, ?_⟩
    · rw [asBytes_append, List.length_append]
      omega
    · rw [asBytes_append, List.length_append]
      omega
    · rw [asBytes_append, asBytes_append, List.append_assoc, List.append_assoc,
        List.take_append_of_le_length (by omega), List.take_append_of_le_length (by omega)]
    · rintro ⟨hsame, -⟩
      rw [← asBytes_inj, asBytes_append, asBytes_append, List.append_cancel_left_eq] at hsame
      exact absurd hsame (by decide)
  · have hdiffer : ∀ p q : String, (asBytes p).length = m → (asBytes q).length = n →
        ¬(q = p ∧ k' = k) := by
      rintro p q rfl rfl ⟨rfl, rfl⟩
      exact hne ⟨rfl, rfl⟩
    rcases hcontinues with hcontinues | hcontinues
    · obtain ⟨p, q, hp, hq, hread⟩ := exists_of_continues hcontinues
      exact ⟨p, q, hp, hq, hread, hdiffer p q hp hq⟩
    · obtain ⟨q, p, hq, hp, hread⟩ := exists_of_continues hcontinues
      exact ⟨p, q, hp, hq, hread.symm, hdiffer p q hp hq⟩

/-- A hash can be made, and what verifies against it has the same first 72 bytes. -/
theorem exists_hash (hx : x.ReadsPrefix) (hh : h.IsBcrypt k) (hh' : h'.IsBcrypt k') (salt : Bytes)
    (p q : String) : ∃ hash, h.hashBlocking x salt p = .ok hash ∧
      (h'.verifyBlocking x hash q = .ok (.matched ()) ↔
        (asBytes (h'.maybeNormalize x q) ++ k').take 72 =
          (asBytes (h.maybeNormalize x p) ++ k).take 72) := by
  obtain ⟨⟨cost, hcost⟩, rfl⟩ := hh
  obtain ⟨⟨cost', hcost'⟩, rfl⟩ := hh'
  obtain ⟨hash, hhash, hverify⟩ := hx (asBytes (h.maybeNormalize x p) ++ h.pepper.getD [])
    (cost.getD 13) salt
  refine ⟨hash, ?_, ?_⟩
  · rw [Hasher.hashBlocking, hcost]
    exact hhash
  · have hresult : h'.verifyBlocking x hash q =
        (x.bcryptVerify (asBytes (h'.maybeNormalize x q) ++ h'.pepper.getD []) hash).map ofBool := by
      rw [Hasher.verifyBlocking, hcost']
      rfl
    rw [hresult, hverify]
    by_cases hsame : (asBytes (h'.maybeNormalize x q) ++ h'.pepper.getD []).take 72 =
        (asBytes (h.maybeNormalize x p) ++ h.pepper.getD []).take 72 <;>
      simp [hsame, Except.map, ofBool]

theorem not_collide_of_short (hpepper : k'.length = k.length) (hshort : min m n + k.length < 72) :
    ¬Collide m n k k' := by
  have hseparated : ∀ {m n : ℕ} {k k' : Bytes}, k'.length = k.length → m + k.length < 72 →
      Continues m n k k' → m = n ∧ k = k' := by
    rintro m n k k' hlength hm ⟨hle, r, hr, hread⟩
    have hsize := congrArg List.length hread
    simp only [List.length_take, List.length_append] at hsize
    have heq : m = n := by omega
    have hnil := List.eq_nil_of_length_eq_zero (by omega : (asBytes r).length = 0)
    rw [hnil, List.nil_append, List.take_of_length_le (by omega),
      List.take_of_length_le (by omega)] at hread
    exact ⟨heq, hread.symm⟩
  rintro (⟨rfl, hlong⟩ | ⟨hne, hcontinues | hcontinues⟩)
  · omega
  · exact hne (hseparated hpepper (by have := hcontinues.1; omega) hcontinues)
  · obtain ⟨heq, hsame⟩ := hseparated hpepper.symm (by have := hcontinues.1; omega) hcontinues
    exact hne ⟨heq.symm, hsame.symm⟩

/-- Whether bcrypt tells the secrets apart depends on the lengths of the passwords and on the peppers.
With peppers of one length it does as long as the shorter input is not cut off. -/
theorem bcrypt_accepts_same_only_iff (hx : x.ReadsPrefix) (m n : ℕ) (k k' : Bytes) :
    (AcceptsSameOnly x m n k k' ↔ ¬Collide m n k k') ∧
      (k'.length = k.length → min m n + k.length < 72 → ¬Collide m n k k') := by
  refine ⟨⟨fun haccepts hcollide => ?_, fun hnot => ?_⟩, not_collide_of_short⟩
  · obtain ⟨p, q, hp, hq, hread, hdiffer⟩ := exists_of_collide hcollide
    let h : Hasher := ⟨.bcrypt none, false, some k⟩
    let h' : Hasher := ⟨.bcrypt none, false, some k'⟩
    have hh : h.IsBcrypt k := ⟨⟨none, rfl⟩, rfl⟩
    have hh' : h'.IsBcrypt k' := ⟨⟨none, rfl⟩, rfl⟩
    obtain ⟨hash, hhash, hverify⟩ := exists_hash hx hh hh' [] p q
    exact hdiffer (haccepts h h' hh hh' [] p q hash hp hq hhash (hverify.mpr hread))
  · rintro h h' hh hh' salt p q hash rfl rfl hhash hmatched
    obtain ⟨hash', hhash', hverify⟩ := exists_hash hx hh hh' salt p q
    cases hhash.symm.trans hhash'
    obtain ⟨hsame, hpepper⟩ := same_of_not_collide hnot (hverify.mp hmatched)
    exact ⟨hsame, hh'.2.trans (hpepper.trans hh.2.symm)⟩

def plainPrefix : Primitives := { plain with
  bcryptHash password _ _ := .ok (plainHash (password.take 72))
  bcryptVerify password hash := .ok (plainHash (password.take 72) = hash) }

theorem plainPrefix_readsPrefix : plainPrefix.ReadsPrefix :=
  fun _ _ _ => ⟨_, rfl, fun _ => congrArg Except.ok (decide_eq_decide.mpr plainHash_inj)⟩

def peppered (pepper : UInt8) : Hasher := ⟨.bcrypt none, false, some [pepper]⟩

theorem short_passwords_separated : plainPrefix.ReadsPrefix ∧
    AcceptsSameOnly plainPrefix 8 40 (List.replicate 32 1) (List.replicate 32 2) := by
  have h := bcrypt_accepts_same_only_iff plainPrefix_readsPrefix 8 40 (List.replicate 32 1)
    (List.replicate 32 2)
  exact ⟨plainPrefix_readsPrefix, h.1.mpr (h.2 rfl (by decide))⟩

/-- Neither the end of a long password nor the pepper counts. -/
theorem long_password_loses_pepper :
    let p := String.ofList (List.replicate 72 'a')
    plainPrefix.ReadsPrefix ∧ ∃ hash, (peppered 1).hashBlocking plainPrefix [] p = .ok hash ∧
      (peppered 2).verifyBlocking plainPrefix hash (p ++ "b") = .ok (.matched ()) ∧
      ¬SameSecret plainPrefix (peppered 1) (peppered 2) p (p ++ "b") := by
  refine ⟨plainPrefix_readsPrefix, _, rfl, by decide +kernel, ?_⟩
  rintro ⟨-, hpepper⟩
  exact absurd hpepper (by decide)

end Bcrypt

end Pasion.Passwords
