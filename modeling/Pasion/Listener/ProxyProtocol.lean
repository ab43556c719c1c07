import Pasion.Data.Basic
import Pasion.Text.ReadLoop

/-! The proxy protocol header, version 1, that is read at the start of a connection. -/
namespace Pasion.ProxyProtocol

open Stream' (Seq)
open ReadLoop

abbrev Bytes := List UInt8

def ascii (s : String) : Bytes := s.toList.map (fun c => c.toNat.toUInt8)

structure SocketAddr where
  ip : IpAddr
  port : ℕ
  deriving DecidableEq

inductive ProxyProtocolV1Info where
  | tcp (source destination : SocketAddr)
  | udp (source destination : SocketAddr)
  | unknown
  deriving DecidableEq

inductive ParseError where
  | notEnoughBytes
  | noCrLf
  | noProxyPreamble
  | noProtocol
  | invalidProtocol
  | noSourceAddress
  | noDestinationAddress
  | noSourcePort
  | noDestinationPort
  | tooManyFields
  | invalidUtf8
  | invalidAddress
  | invalidPort
  deriving DecidableEq

/-- How the standard library reads addresses and 16-bit numbers. -/
structure FromStr where
  (ipv4Addr ipv6Addr : String → Option IpAddr)
  u16 : String → Option ℕ

/-- Pieces between spaces, of which the last may hold more spaces. -/
def splitn : ℕ → Bytes → List Bytes
  | 0, _ => []
  | 1, bytes => [bytes]
  | n + 2, bytes =>
    match bytes.span (· ≠ 0x20) with
    | (piece, []) => [piece]
    | (piece, _ :: rest) => piece :: splitn (n + 1) rest

def field {α : Type} (bytes : Option Bytes) (missing : ParseError) (fromStr : String → Option α)
    (invalid : ParseError) : Except ParseError α :=
  match bytes with
  | none => .error missing
  | some bytes =>
    match String.fromUTF8? ⟨bytes.toArray⟩ with
    | none => .error .invalidUtf8
    | some s =>
      match fromStr s with
      | none => .error invalid
      | some a => .ok a

def endpoints (addr : String → Option IpAddr) (u16 : String → Option ℕ) (it : List Bytes) :
    Except ParseError (SocketAddr × SocketAddr) := do
  let sourceAddress ← field it[0]? .noSourceAddress addr .invalidAddress
  let destinationAddress ← field it[1]? .noDestinationAddress addr .invalidAddress
  let sourcePort ← field it[2]? .noSourcePort u16 .invalidPort
  let destinationPort ← field it[3]? .noDestinationPort u16 .invalidPort
  if it[4]?.isSome then .error .tooManyFields
  else .ok (⟨sourceAddress, sourcePort⟩, ⟨destinationAddress, destinationPort⟩)

def header (std : FromStr) (bytes : Bytes) : Except ParseError ProxyProtocolV1Info :=
  let it := splitn 6 bytes
  if it[0]? ≠ some (ascii "PROXY") then .error .noProxyPreamble
  else
    match it[1]? with
    | none => .error .noProtocol
    | some protocol =>
      let fields := it.drop 2
      if protocol = ascii "TCP4" then
        (endpoints std.ipv4Addr std.u16 fields).map (fun (s, d) => .tcp s d)
      else if protocol = ascii "TCP6" then
        (endpoints std.ipv6Addr std.u16 fields).map (fun (s, d) => .tcp s d)
      else if protocol = ascii "UDP4" then
        (endpoints std.ipv4Addr std.u16 fields).map (fun (s, d) => .udp s d)
      else if protocol = ascii "UDP6" then
        (endpoints std.ipv6Addr std.u16 fields).map (fun (s, d) => .udp s d)
      else if protocol = ascii "UNKNOWN" then .ok .unknown
      else .error .invalidProtocol

/-- The first CRLF in the first 108 windows of two bytes. -/
def crlf? (buf : Bytes) : Option ℕ :=
  ((buf.zip buf.tail).take 108).findIdx? (fun window => window.1 = 0x0D && window.2 = 0x0A)

def parse (std : FromStr) (buf : Bytes) : Except ParseError (ProxyProtocolV1Info × Bytes) :=
  if buf.length < 15 then .error .notEnoughBytes
  else
    match crlf? buf with
    | none => .error (if buf.length < 108 then .notEnoughBytes else .noCrLf)
    | some crlf => (header std (buf.take crlf)).map (fun info => (info, buf.drop (crlf + 2)))

/-- A result of the parser, unless it asks for more bytes. -/
def tryParse (std : FromStr) (buf : Bytes) :
    Option (Except ParseError (ProxyProtocolV1Info × Bytes)) :=
  match parse std buf with
  | .error .notEnoughBytes => none
  | result => some result

/-- Reads of the given sizes until the parser has enough, and what the application gets. -/
def accept (std : FromStr) (reads : ℕ → ℕ) (fuel : ℕ) (stream : Seq UInt8) :
    Option (Except ParseError (ProxyProtocolV1Info × Seq UInt8)) :=
  (readLoop (tryParse std) reads fuel 0 [] stream).map
    (fun (result, stream) => result.map (fun (info, buf) => (info, (Seq.ofList buf).append stream)))

def Accepts (std : FromStr) (reads : ℕ → ℕ) (stream : Seq UInt8)
    (outcome : Except ParseError (ProxyProtocolV1Info × Seq UInt8)) : Prop :=
  ∃ fuel, accept std reads fuel stream = some outcome

section Prefixes

variable {std : FromStr} {buf : Bytes} {s : Seq UInt8} {n p : ℕ}

def CrLfAt (s : Seq UInt8) (p : ℕ) : Prop := s.get? p = some 0x0D ∧ s.get? (p + 1) = some 0x0A

def FirstCrLf (s : Seq UInt8) (p : ℕ) : Prop := CrLfAt s p ∧ ∀ q < p, ¬CrLfAt s q

theorem lt_length_take : p < (s.take n).length ↔ p < n ∧ (s.get? p).isSome := by
  have hlength : p < (s.take n).length ↔ ((s.take n)[p]?).isSome :=
    ⟨fun h => by rw [List.getElem?_eq_getElem h]; rfl, fun h => by
      by_contra hge
      rw [List.getElem?_eq_none (not_lt.mp hge)] at h
      cases h⟩
  rw [hlength, Seq.getElem?_take]
  by_cases h : p < n <;> simp [h]

theorem getElem?_windows {w : UInt8 × UInt8} : ((s.take n).zip (s.take n).tail)[p]? = some w ↔
      p + 2 ≤ n ∧ s.get? p = some w.1 ∧ s.get? (p + 1) = some w.2 := by
  rw [List.getElem?_zip_eq_some, List.getElem?_tail, Seq.getElem?_take, Seq.getElem?_take]
  by_cases hn : p + 1 < n
  · have hp : p < n := by omega
    simp [hn, hp, Nat.succ_le_of_lt hn]
  · simp [hn, show ¬p + 2 ≤ n by omega]

/-- The window at `p` is among those searched, and is a CRLF. -/
theorem window_iff : (∃ w, ((((s.take n).zip (s.take n).tail).take 108)[p]? = some w) ∧
        (w.1 = 0x0D && w.2 = 0x0A) = true) ↔ p < 108 ∧ p + 2 ≤ n ∧ CrLfAt s p := by
  rw [List.getElem?_take]
  by_cases hp : p < 108
  · simp only [if_pos hp, getElem?_windows, Bool.and_eq_true, decide_eq_true_eq]
    constructor
    · rintro ⟨⟨a, b⟩, ⟨hn, ha, hb⟩, rfl, rfl⟩
      exact ⟨hp, hn, ha, hb⟩
    · rintro ⟨-, hn, ha, hb⟩
      exact ⟨(0x0D, 0x0A), ⟨hn, ha, hb⟩, rfl, rfl⟩
  · simp [hp]

theorem crlf?_eq_none : crlf? (s.take n) = none ↔ ∀ p < 108, p + 2 ≤ n → ¬CrLfAt s p := by
  unfold crlf?
  rw [List.findIdx?_eq_none_iff]
  constructor
  · intro h p hp hn hat
    obtain ⟨w, hw, htest⟩ := window_iff.mpr ⟨hp, hn, hat⟩
    rw [h w (List.mem_of_getElem? hw)] at htest
    cases htest
  · intro h w hw
    obtain ⟨p, hp⟩ := List.mem_iff_getElem?.mp hw
    by_contra htest
    obtain ⟨hlt, hn, hat⟩ := window_iff.mp ⟨w, hp, by simpa using htest⟩
    exact h p hlt hn hat

theorem crlf?_eq_some : crlf? (s.take n) = some p ↔ p < 108 ∧ p + 2 ≤ n ∧ FirstCrLf s p := by
  have hwindow : ∀ q, (∃ h : q < (((s.take n).zip (s.take n).tail).take 108).length,
      ((((s.take n).zip (s.take n).tail).take 108)[q].1 = 0x0D &&
        (((s.take n).zip (s.take n).tail).take 108)[q].2 = 0x0A) = true) ↔
      q < 108 ∧ q + 2 ≤ n ∧ CrLfAt s q := by
    intro q
    rw [← window_iff]
    constructor
    · rintro ⟨hq, htest⟩
      exact ⟨_, List.getElem?_eq_getElem hq, htest⟩
    · rintro ⟨w, hw, htest⟩
      obtain ⟨hq, rfl⟩ := List.getElem?_eq_some_iff.mp hw
      exact ⟨hq, htest⟩
  unfold crlf?
  rw [List.findIdx?_eq_some_iff_getElem]
  constructor
  · rintro ⟨hp, htest, hbefore⟩
    obtain ⟨hlt, hn, hat⟩ := (hwindow p).mp ⟨hp, htest⟩
    refine ⟨hlt, hn, hat, fun q hq hcrlf => ?_⟩
    obtain ⟨hq', htest'⟩ := (hwindow q).mpr ⟨by omega, by omega, hcrlf⟩
    exact hbefore q hq htest'
  · rintro ⟨hlt, hn, hat, hbefore⟩
    obtain ⟨hp, htest⟩ := (hwindow p).mpr ⟨hlt, hn, hat⟩
    refine ⟨hp, htest, fun q hq htest' => ?_⟩
    exact hbefore q hq ((hwindow q).mp ⟨by omega, htest'⟩).2.2

/-- What the parser makes of a part of the stream that holds the first CRLF. -/
theorem parse_take_of_crlf (hlength : 15 ≤ (s.take n).length) (hp : p < 108) (hn : p + 2 ≤ n)
    (hfirst : FirstCrLf s p) :
    parse std (s.take n) = (header std (s.take p)).map (fun info => (info, (s.take n).drop (p + 2))) := by
  have htake : (s.take n).take p = s.take p := by
    refine List.ext_getElem? fun k => ?_
    rw [List.getElem?_take, Seq.getElem?_take, Seq.getElem?_take]
    by_cases hk : k < p
    · simp [hk, show k < n by omega]
    · simp [hk]
  unfold parse
  rw [if_neg (by omega), crlf?_eq_some.mpr ⟨hp, hn, hfirst⟩, ← htake]

theorem parse_take_of_no_crlf (hlength : 15 ≤ (s.take n).length)
    (hnone : ∀ p < 108, p + 2 ≤ n → ¬CrLfAt s p) :
    parse std (s.take n) = .error (if (s.take n).length < 108 then .notEnoughBytes else .noCrLf) := by
  unfold parse
  rw [if_neg (by omega), crlf?_eq_none.mpr hnone]

end Prefixes

section Errors

variable {std : FromStr} {e : ParseError}

/-- The error is about what the header says, not about where it ends. -/
def ParseError.inHeader : ParseError → Bool
  | notEnoughBytes => false
  | noCrLf => false
  | _ => true

theorem field_error {α : Type} {bytes : Option Bytes} {missing invalid : ParseError}
    {fromStr : String → Option α} (hmissing : missing.inHeader) (hinvalid : invalid.inHeader)
    (h : field bytes missing fromStr invalid = .error e) : e.inHeader := by
  unfold field at h
  split at h
  · exact Except.error.inj h ▸ hmissing
  · split at h
    · exact Except.error.inj h ▸ rfl
    · split at h
      · exact Except.error.inj h ▸ hinvalid
      · cases h

theorem bind_error {α β : Type} {x : Except ParseError α} {f : α → Except ParseError β}
    (h : (x >>= f) = .error e) : x = .error e ∨ ∃ a, f a = .error e := by
  cases x with
  | error e' => exact .inl (congrArg Except.error (Except.error.inj h))
  | ok a => exact .inr ⟨a, h⟩

theorem map_error {α β : Type} {x : Except ParseError α} {f : α → β} (h : x.map f = .error e) :
    x = .error e := by
  cases x with
  | error e' => exact congrArg Except.error (Except.error.inj h)
  | ok a => cases h

theorem endpoints_error {addr : String → Option IpAddr} {u16 : String → Option ℕ}
    {it : List Bytes} (h : endpoints addr u16 it = .error e) : e.inHeader := by
  obtain h | ⟨_, h⟩ := bind_error h
  · exact field_error rfl rfl h
  obtain h | ⟨_, h⟩ := bind_error h
  · exact field_error rfl rfl h
  obtain h | ⟨_, h⟩ := bind_error h
  · exact field_error rfl rfl h
  obtain h | ⟨_, h⟩ := bind_error h
  · exact field_error rfl rfl h
  split_ifs at h
  exact Except.error.inj h ▸ rfl

theorem header_error {bytes : Bytes} (h : header std bytes = .error e) : e.inHeader := by
  unfold header at h
  dsimp only at h
  split_ifs at h
  · exact Except.error.inj h ▸ rfl
  · split at h
    · exact Except.error.inj h ▸ rfl
    · split_ifs at h
      · exact endpoints_error (map_error h)
      · exact endpoints_error (map_error h)
      · exact endpoints_error (map_error h)
      · exact endpoints_error (map_error h)
      · exact Except.error.inj h ▸ rfl

theorem tryParse_of_inHeader {buf : Bytes} (h : ∀ e, parse std buf = .error e → e.inHeader) :
    tryParse std buf = some (parse std buf) := by
  unfold tryParse
  split
  · next hparse => cases h _ hparse
  · rfl

end Errors

section Outcomes

variable {std : FromStr} {reads : ℕ → ℕ} {s : Seq UInt8} {n p : ℕ}
  {outcome outcome' : Except ParseError (ProxyProtocolV1Info × Seq UInt8)}

/-- The outcome for a header that ends at `p`. -/
def headerOutcome (std : FromStr) (s : Seq UInt8) (p : ℕ) :
    Except ParseError (ProxyProtocolV1Info × Seq UInt8) :=
  (header std (s.take p)).map (fun info => (info, s.drop (p + 2)))

/-- The outcome when the first `n` bytes have been read, if they are enough. -/
def outcomeAt (std : FromStr) (s : Seq UInt8) (n : ℕ) :
    Option (Except ParseError (ProxyProtocolV1Info × Seq UInt8)) :=
  (tryParse std (s.take n)).map
    (fun result => result.map (fun (info, buf) => (info, (Seq.ofList buf).append (s.drop n))))

theorem Accepts.exists_outcomeAt (h : Accepts std reads s outcome) :
    ∃ n, outcomeAt std s n = some outcome := by
  obtain ⟨fuel, hfuel⟩ := h
  obtain ⟨⟨result, rest⟩, hloop, rfl⟩ := Option.map_eq_some_iff.mp hfuel
  obtain ⟨n, hparse, rfl⟩ := Returns.sound ⟨fuel, hloop⟩
  exact ⟨n, by rw [outcomeAt, hparse]; rfl⟩

theorem accepts_of_first (h : outcomeAt std s (reads 0) = some outcome) :
    Accepts std reads s outcome := by
  obtain ⟨result, hparse, rfl⟩ := Option.map_eq_some_iff.mp h
  have hreturns : Returns (tryParse std) reads s result (s.drop (reads 0)) :=
    returns_of_first hparse
  obtain ⟨fuel, hfuel⟩ := hreturns
  exact ⟨fuel, by rw [accept, hfuel]; rfl⟩

theorem exists_accepts (hreads : ∀ i, 0 < reads i)
    (h : ∀ m, n ≤ m → (outcomeAt std s m).isSome) : ∃ outcome, Accepts std reads s outcome := by
  have hparse : ∀ m, n ≤ m → (tryParse std (s.take m)).isSome := by
    intro m hm
    simpa [outcomeAt] using h m hm
  obtain ⟨result, rest, fuel, hfuel⟩ := exists_returns hreads hparse
  exact ⟨_, fuel, by rw [accept, hfuel]; rfl⟩

theorem Accepts.unique (h : Accepts std reads s outcome) (h' : Accepts std reads s outcome') :
    outcome = outcome' := by
  obtain ⟨fuel, hfuel⟩ := h
  obtain ⟨⟨result, rest⟩, hloop, rfl⟩ := Option.map_eq_some_iff.mp hfuel
  obtain ⟨fuel', hfuel'⟩ := h'
  obtain ⟨⟨result', rest'⟩, hloop', rfl⟩ := Option.map_eq_some_iff.mp hfuel'
  obtain ⟨rfl, rfl⟩ := Returns.unique ⟨fuel, hloop⟩ ⟨fuel', hloop'⟩
  rfl

theorem append_drop_take (hn : p ≤ n) :
    (Seq.ofList ((s.take n).drop p)).append (s.drop n) = s.drop p := by
  have hdrop : s.drop n = (s.drop p).drop (n - p) := by
    rw [← Seq.dropn_add, Nat.add_sub_cancel' hn]
  rw [Seq.take_drop, hdrop, append_ofList_take_drop]

theorem outcomeAt_of_crlf (hlength : 15 ≤ (s.take n).length) (hp : p < 108) (hn : p + 2 ≤ n)
    (hfirst : FirstCrLf s p) : outcomeAt std s n = some (headerOutcome std s p) := by
  have hparse : parse std (s.take n) =
      (header std (s.take p)).map (fun info => (info, (s.take n).drop (p + 2))) :=
    parse_take_of_crlf hlength hp hn hfirst
  have htry : tryParse std (s.take n) = some (parse std (s.take n)) :=
    tryParse_of_inHeader fun e he => header_error (map_error (hparse.symm.trans he))
  unfold outcomeAt headerOutcome
  rw [htry, hparse]
  cases header std (s.take p) with
  | error e => rfl
  | ok info =>
    change some (Except.ok (info, (Seq.ofList ((s.take n).drop (p + 2))).append (s.drop n))) = _
    rw [append_drop_take hn]
    rfl

theorem outcomeAt_of_no_crlf (hnone : ∀ p < 108, p + 2 ≤ n → ¬CrLfAt s p) :
    outcomeAt std s n = if (s.take n).length < 108 then none else some (.error .noCrLf) := by
  unfold outcomeAt tryParse
  by_cases hlength : (s.take n).length < 15
  · have hparse : parse std (s.take n) = .error .notEnoughBytes := if_pos hlength
    rw [hparse, if_pos (by omega)]
    rfl
  · rw [parse_take_of_no_crlf (by omega) hnone]
    split_ifs <;> rfl

theorem outcomeAt_of_short (hlength : (s.take n).length < 15) : outcomeAt std s n = none := by
  have hparse : parse std (s.take n) = .error .notEnoughBytes := if_pos hlength
  unfold outcomeAt tryParse
  rw [hparse]
  rfl

/-- A part of the stream gives an outcome only if it holds a CRLF or is long enough to need one. -/
theorem outcomeAt_cases (h : outcomeAt std s n = some outcome) : 15 ≤ (s.take n).length ∧
      ((∃ p < 108, p + 2 ≤ n ∧ FirstCrLf s p ∧ outcome = headerOutcome std s p) ∨
        (∀ p < 108, p + 2 ≤ n → ¬CrLfAt s p) ∧ 108 ≤ (s.take n).length ∧
          outcome = .error .noCrLf) := by
  have hlength : 15 ≤ (s.take n).length := by
    by_contra hshort
    rw [outcomeAt_of_short (by omega)] at h
    cases h
  refine ⟨hlength, ?_⟩
  cases hcrlf : crlf? (s.take n) with
  | some p =>
    obtain ⟨hp, hn, hfirst⟩ := crlf?_eq_some.mp hcrlf
    rw [outcomeAt_of_crlf hlength hp hn hfirst] at h
    exact .inl ⟨p, hp, hn, hfirst, (Option.some.inj h).symm⟩
  | none =>
    have hnone := crlf?_eq_none.mp hcrlf
    rw [outcomeAt_of_no_crlf hnone] at h
    split_ifs at h with hlt
    exact .inr ⟨hnone, by omega, (Option.some.inj h).symm⟩

theorem length_take_mono {m : ℕ} (h : n ≤ m) : (s.take n).length ≤ (s.take m).length := by
  by_contra hlt
  obtain ⟨hn, hsome⟩ := lt_length_take.mp (not_le.mp hlt)
  exact absurd (lt_length_take.mpr ⟨by omega, hsome⟩) (lt_irrefl _)

/-- Longer parts of the stream are enough as well. -/
theorem outcomeAt_isSome_mono {m : ℕ} (hnm : n ≤ m) (h : (outcomeAt std s n).isSome) :
    (outcomeAt std s m).isSome := by
  obtain ⟨outcome, houtcome⟩ := Option.isSome_iff_exists.mp h
  obtain ⟨hlength, hcases⟩ := outcomeAt_cases houtcome
  have hmono : (s.take n).length ≤ (s.take m).length := length_take_mono hnm
  rcases hcases with ⟨p, hp, hn, hfirst, -⟩ | ⟨-, hlong, -⟩
  · rw [outcomeAt_of_crlf (by omega) hp (by omega) hfirst]
    rfl
  · cases hcrlf : crlf? (s.take m) with
    | some p =>
      obtain ⟨hp, hn, hfirst⟩ := crlf?_eq_some.mp hcrlf
      rw [outcomeAt_of_crlf (by omega) hp hn hfirst]
      rfl
    | none =>
      rw [outcomeAt_of_no_crlf (crlf?_eq_none.mp hcrlf), if_neg (by omega)]
      rfl

/-- Without a CRLF a long part leaves no place for one, except right after the 107th byte. -/
theorem not_first_of_long (h107 : ¬FirstCrLf s 107)
    (hnone : ∀ p < 108, p + 2 ≤ n → ¬CrLfAt s p) (hlong : 108 ≤ (s.take n).length) (hp : p < 108) :
    ¬FirstCrLf s p := by
  intro hfirst
  have hn : (s.take n).length ≤ n := Seq.length_take_le
  by_cases hlast : p = 107
  · exact h107 (hlast ▸ hfirst)
  · exact hnone p hp (by omega) hfirst.1

theorem FirstCrLf.unique {q : ℕ} (hp : FirstCrLf s p) (hq : FirstCrLf s q) : p = q := by
  rcases Nat.lt_trichotomy p q with hlt | heq | hgt
  · exact absurd hp.1 (hq.2 p hlt)
  · exact heq
  · exact absurd hq.1 (hp.2 q hgt)

/-- Which outcome the parser comes to does not depend on how much has been read. -/
theorem outcomeAt_unique {m : ℕ} (h107 : ¬FirstCrLf s 107) (h : outcomeAt std s n = some outcome)
    (h' : outcomeAt std s m = some outcome') : outcome = outcome' := by
  obtain ⟨-, ⟨p, hp, hn, hfirst, rfl⟩ | ⟨hnone, hlong, rfl⟩⟩ := outcomeAt_cases h
  · obtain ⟨-, ⟨q, hq, hm, hfirst', rfl⟩ | ⟨hnone', hlong', rfl⟩⟩ := outcomeAt_cases h'
    · rw [hfirst.unique hfirst']
    · exact absurd hfirst (not_first_of_long h107 hnone' hlong' hp)
  · obtain ⟨-, ⟨q, hq, hm, hfirst', rfl⟩ | ⟨hnone', hlong', rfl⟩⟩ := outcomeAt_cases h'
    · exact absurd hfirst' (not_first_of_long h107 hnone hlong hq)
    · rfl

theorem accepts_of_outcomeAt (h107 : ¬FirstCrLf s 107) (hreads : ∀ i, 0 < reads i)
    (h : outcomeAt std s n = some outcome) : Accepts std reads s outcome := by
  have hsome : ∀ m, n ≤ m → (outcomeAt std s m).isSome := by
    intro m hm
    exact outcomeAt_isSome_mono hm (by rw [h]; rfl)
  obtain ⟨outcome', haccepts⟩ := exists_accepts hreads hsome
  obtain ⟨m, hm⟩ := haccepts.exists_outcomeAt
  rw [outcomeAt_unique h107 h hm]
  exact haccepts

theorem isInfix_crlf_iff {bytes : Bytes} : [0x0D, 0x0A] <:+: bytes ↔
      ∃ p : ℕ, bytes[p]? = some (0x0D : UInt8) ∧ bytes[p + 1]? = some (0x0A : UInt8) := by
  constructor
  · rintro ⟨before, after, rfl⟩
    exact ⟨before.length, by simp, by simp⟩
  · rintro ⟨p, hp, hnext⟩
    obtain ⟨hlt, hcr⟩ := List.getElem?_eq_some_iff.mp hp
    obtain ⟨hlt', hlf⟩ := List.getElem?_eq_some_iff.mp hnext
    refine ⟨bytes.take p, bytes.drop (p + 2), ?_⟩
    calc bytes.take p ++ [0x0D, 0x0A] ++ bytes.drop (p + 2)
        = bytes.take p ++ (0x0D :: 0x0A :: bytes.drop (p + 2)) := by simp
      _ = bytes.take p ++ bytes.drop p := by
        rw [List.drop_eq_getElem_cons hlt, List.drop_eq_getElem_cons hlt', hcr, hlf]
      _ = bytes := List.take_append_drop p bytes

/-- The bytes after the header are what follows its CRLF. -/
theorem FirstCrLf.split (h : FirstCrLf s p) : ¬[0x0D, 0x0A] <:+: s.take p ∧
    s = (Seq.ofList (s.take p ++ [0x0D, 0x0A])).append (s.drop (p + 2)) := by
  constructor
  · rw [isInfix_crlf_iff]
    rintro ⟨q, hq, hnext⟩
    rw [Seq.getElem?_take] at hq hnext
    split_ifs at hq hnext with hlt hlt'
    exact h.2 q hlt ⟨hq, hnext⟩
  · have htake : s.take p ++ [0x0D, 0x0A] = s.take (p + 2) := by
      have hcrlf : (s.drop p).take 2 = [0x0D, 0x0A] := by
        refine List.ext_getElem? fun k => ?_
        rw [Seq.getElem?_take, Seq.drop_get?]
        match k with
        | 0 => simpa using h.1.1
        | 1 => simpa using h.1.2
        | k + 2 => simp
      rw [← hcrlf, take_append_take_drop]
    rw [htake, append_ofList_take_drop]

/-- However the stream is split, the outcome is the same, unless the CRLF follows the 107th byte. -/
theorem accept_split_iff : ((∀ reads reads' : ℕ → ℕ, (∀ i, 0 < reads i) → (∀ i, 0 < reads' i) →
        ∀ outcome, Accepts std reads s outcome ↔ Accepts std reads' s outcome) ∧
      ∀ (reads : ℕ → ℕ) info bytes, (∀ i, 0 < reads i) → Accepts std reads s (.ok (info, bytes)) →
        ∃ header, ¬[0x0D, 0x0A] <:+: header ∧
          s = (Seq.ofList (header ++ [0x0D, 0x0A])).append bytes) ↔
      ¬FirstCrLf s 107 := by
  constructor
  · rintro ⟨hsame, -⟩ hfirst
    have hlf : ∀ q ≤ 108, (s.get? q).isSome := by
      intro q hq
      obtain ⟨b, hb⟩ := s.ge_stable hq hfirst.1.2
      exact Option.isSome_iff_exists.mpr ⟨b, hb⟩
    have h108 : 108 ≤ (s.take 108).length := lt_length_take.mpr ⟨by omega, hlf 107 (by omega)⟩
    have h109 : 109 ≤ (s.take 109).length := lt_length_take.mpr ⟨by omega, hlf 108 (by omega)⟩
    have hcut : outcomeAt std s 108 = some (.error .noCrLf) := by
      rw [outcomeAt_of_no_crlf fun q hq hle => hfirst.2 q (by omega), if_neg (by omega)]
    have hwhole : outcomeAt std s 109 = some (headerOutcome std s 107) :=
      outcomeAt_of_crlf (by omega) (by omega) (by omega) hfirst
    have haccepts : Accepts std (fun _ => 108) s (.error .noCrLf) := accepts_of_first hcut
    have haccepts' : Accepts std (fun _ => 109) s (headerOutcome std s 107) :=
      accepts_of_first hwhole
    have hsame' := (hsame _ (fun _ => 109) (fun _ => by omega) (fun _ => by omega) _).mp haccepts
    have hheader := header_error (map_error (haccepts'.unique hsame'))
    cases hheader
  · intro h107
    refine ⟨fun reads reads' hreads hreads' outcome => ⟨fun h => ?_, fun h => ?_⟩,
      fun reads info bytes hreads h => ?_⟩
    · obtain ⟨n, hn⟩ := h.exists_outcomeAt
      exact accepts_of_outcomeAt h107 hreads' hn
    · obtain ⟨n, hn⟩ := h.exists_outcomeAt
      exact accepts_of_outcomeAt h107 hreads hn
    · obtain ⟨n, hn⟩ := h.exists_outcomeAt
      obtain ⟨-, ⟨p, -, -, hfirst, houtcome⟩ | ⟨-, -, houtcome⟩⟩ := outcomeAt_cases hn
      · obtain ⟨hheader, hsplit⟩ := hfirst.split
        refine ⟨s.take p, hheader, ?_⟩
        unfold headerOutcome at houtcome
        cases hinfo : header std (s.take p) with
        | error e =>
          rw [hinfo] at houtcome
          cases houtcome
        | ok info' =>
          rw [hinfo] at houtcome
          obtain ⟨-, rfl⟩ := Prod.mk.inj (Except.ok.inj houtcome)
          exact hsplit
      · cases houtcome

/-- A finite stream ends the loop exactly if it holds a CRLF, or enough bytes for one. -/
theorem accept_returns_iff {bytes : Bytes} (hreads : ∀ i, 0 < reads i) :
    (∃ fuel, (accept std reads fuel (Seq.ofList bytes)).isSome) ↔
      108 ≤ bytes.length ∨ 15 ≤ bytes.length ∧ [0x0D, 0x0A] <:+: bytes := by
  constructor
  · rintro ⟨fuel, hfuel⟩
    obtain ⟨outcome, houtcome⟩ := Option.isSome_iff_exists.mp hfuel
    obtain ⟨n, hn⟩ := Accepts.exists_outcomeAt ⟨fuel, houtcome⟩
    obtain ⟨hlength, hcases⟩ := outcomeAt_cases hn
    rw [take_ofList, List.length_take] at hlength hcases
    rcases hcases with ⟨p, -, -, hfirst, -⟩ | ⟨-, hlong, -⟩
    · exact .inr ⟨by omega, isInfix_crlf_iff.mpr ⟨p, hfirst.1⟩⟩
    · exact .inl (by omega)
  · intro h
    have hsome : ∀ m, bytes.length ≤ m → (outcomeAt std (Seq.ofList bytes) m).isSome := by
      intro m hm
      have hall : ((Seq.ofList bytes).take m).length = bytes.length := by
        rw [take_ofList, List.length_take, Nat.min_eq_right hm]
      cases hcrlf : crlf? ((Seq.ofList bytes).take m) with
      | some p =>
        obtain ⟨hp, hn, hfirst⟩ := crlf?_eq_some.mp hcrlf
        rw [outcomeAt_of_crlf (by omega) hp hn hfirst]
        rfl
      | none =>
        have hnone := crlf?_eq_none.mp hcrlf
        have hlong : 108 ≤ bytes.length := by
          rcases h with hlong | ⟨-, hinfix⟩
          · exact hlong
          · obtain ⟨p, hp, hnext⟩ := isInfix_crlf_iff.mp hinfix
            obtain ⟨hlt, -⟩ := List.getElem?_eq_some_iff.mp hnext
            by_contra hshort
            exact hnone p (by omega) (by omega) ⟨hp, hnext⟩
        rw [outcomeAt_of_no_crlf hnone, if_neg (by omega)]
        rfl
    obtain ⟨outcome, fuel, hfuel⟩ := exists_accepts hreads hsome
    exact ⟨fuel, by rw [hfuel]; rfl⟩

end Outcomes

section Cuts

def noAddresses : FromStr := ⟨fun _ => none, fun _ => none, fun _ => none⟩

theorem truncated_header_never_returns : (∀ i : ℕ, 0 < (fun _ => 64) i) ∧
      ¬∃ fuel, (accept noAddresses (fun _ => 64) fuel (Seq.ofList (ascii "PROXY TCP4"))).isSome := by
  refine ⟨fun _ => Nat.zero_lt_succ 63, ?_⟩
  rintro ⟨fuel, hfuel⟩
  obtain ⟨outcome, houtcome⟩ := Option.isSome_iff_exists.mp hfuel
  obtain ⟨n, hn⟩ := Accepts.exists_outcomeAt ⟨fuel, houtcome⟩
  have hlength := (outcomeAt_cases hn).1
  rw [take_ofList, List.length_take, show (ascii "PROXY TCP4").length = 10 by decide +kernel] at hlength
  omega

theorem whole_header_returns :
    ∃ fuel, (accept noAddresses (fun _ => 4) fuel (Seq.ofList (ascii "PROXY UNKNOWN\r\n"))).isSome :=
  (accept_returns_iff fun _ => Nat.zero_lt_succ 3).mpr (.inr (by decide +kernel))

def longHeader : Bytes := ascii "PROXY UNKNOWN " ++ List.replicate 93 0x78 ++ [0x0D, 0x0A]

/-- Two reads of 54 bytes end between the CR and the LF. -/
theorem long_header_split :
    Accepts noAddresses (fun _ => 54) (Seq.ofList longHeader) (.error .noCrLf) ∧
      ¬Accepts noAddresses (fun _ => 64) (Seq.ofList longHeader) (.error .noCrLf) := by
  have hfirst : ∀ n ≤ 64, tryParse noAddresses (longHeader.take n) = none := by decide +kernel
  constructor
  · refine ⟨2, ?_⟩
    have hsecond : tryParse noAddresses (longHeader.take 54 ++ (longHeader.drop 54).take 54) =
        some (.error .noCrLf) := by decide +kernel
    simp only [accept, readLoop, take_ofList, drop_ofList, List.nil_append, hfirst 54 (by omega),
      hsecond]
    rfl
  · intro h
    have hwhole : tryParse noAddresses (longHeader.take 64 ++ (longHeader.drop 64).take 64) =
        some (.ok (.unknown, [])) := by decide +kernel
    have haccepts : Accepts noAddresses (fun _ => 64) (Seq.ofList longHeader)
        (.ok (.unknown, (Seq.ofList []).append (Seq.ofList ((longHeader.drop 64).drop 64)))) := by
      refine ⟨2, ?_⟩
      simp only [accept, readLoop, take_ofList, drop_ofList, List.nil_append, hfirst 64 (by omega),
        hwhole]
      rfl
    cases haccepts.unique h

end Cuts
end Pasion.ProxyProtocol
