import Pasion.Text.Fallible
import Pasion.Text.Words

/-! The addresses that the certificate of an SNS message may be fetched from. -/
namespace Pasion.SnsCertificate

inductive Error where
  | unauthorized (message : String)
  deriving DecidableEq

structure Url where
  (scheme username : String)
  (password hostStr : Option String)
  port : Option ℕ
  path : String
  (query fragment : Option String)

def toAsciiLowercase (s : String) : String := .ofList (s.toList.map Char.toLower)

def endsWith (s t : String) : Bool := t.toList.isSuffixOf s.toList

/-- `trim_start_matches`, for at most `fuel` matches. -/
def trimStartMatches (p : String) : ℕ → String → String
  | 0, s => s
  | fuel + 1, s => (Str.stripPrefix p s).elim s (fun rest => trimStartMatches p fuel rest)

def normalizePrefix (p : String) : String :=
  toAsciiLowercase (.ofList ((Str.trim p.toList).rdropWhile (· = '/')))

def matchesPrefix (host path : String) (allowed : String) : Bool :=
  let p := normalizePrefix allowed
  if p = "" then false
  else if Str.startsWith p "https://" then Str.startsWith ("https://" ++ host ++ path) p
  else Str.startsWith host
    (trimStartMatches "https://" p.length (trimStartMatches "http://" p.length p))

def Url.hasExtras (url : Url) : Bool :=
  url.username ≠ "" || url.password.isSome || url.port.isSome || url.query.isSome ||
    url.fragment.isSome

def awsDomains : List String := [".amazonaws.com", ".amazonaws.com.cn"]

def isAwsHost (host : String) : Bool := awsDomains.any (endsWith host)

def isCertificatePath (path : String) : Bool :=
  Str.startsWith path "/SimpleNotificationService-" && endsWith path ".pem"

def refuse (test : Bool) (message : String) : Except Error Unit :=
  if test then .error (.unauthorized message) else .ok ()

/-- `parse` is the parser of URLs. -/
def validateSnsSigningCertUrl (parse : String → Except String Url) (signingCertUrl : String)
    (allowedPrefixes : List String) : Except Error Unit := do
  let url ← (parse signingCertUrl).mapError
    fun error => .unauthorized ("invalid SNS SigningCertURL: " ++ error)
  refuse (url.scheme ≠ "https") "SNS SigningCertURL must use HTTPS"
  refuse url.hasExtras
    "SNS SigningCertURL must not contain credentials, ports, query strings, or fragments"
  let host ← (url.hostStr.map toAsciiLowercase).elim
    (.error (.unauthorized "SNS SigningCertURL is missing a host")) .ok
  refuse (!isAwsHost host) "SNS SigningCertURL host must be an AWS SNS endpoint"
  refuse (!isCertificatePath url.path)
    "SNS SigningCertURL path must reference a SimpleNotificationService PEM certificate"
  refuse (!allowedPrefixes.any (matchesPrefix host url.path))
    "SNS SigningCertURL does not match the allowed prefixes"

def awsSnsAllowedSigningCertUrlPrefixesDefault : List String := ["https://sns.", "https://sns-"]

/-- The URL of a certificate file, with nothing but a host and a path. -/
structure Url.Plain (url : Url) : Prop where
  https : url.scheme = "https"
  bare : url.hasExtras = false
  certificate : isCertificatePath url.path

/-- An endpoint of SNS: the region, a single label, stands between `sns.` and the domain. -/
def IsSnsHost (isRegion : String → Prop) (host : String) : Prop :=
  ∃ region, isRegion region ∧ '.' ∉ region.toList ∧
    ∃ domain ∈ awsDomains, host = "sns." ++ region ++ domain

/-- What stands before the domain is `sns.` with a region, and no more labels. -/
def NamesRegion (isRegion : String → Prop) (host : String) : Prop :=
  ∀ front, ∀ domain ∈ awsDomains, host = front ++ domain →
    ¬Str.startsWith host "sns-" ∧ (Str.startsWith host "sns." →
      front.toList.count '.' = 1 ∧ isRegion (.ofList (front.toList.drop 4)))

section Checks

variable {parse : String → Except String Url} {text host path domain front p q : String}

theorem refuse_eq_ok {test : Bool} {message : String} {u : Unit} :
    refuse test message = .ok u ↔ test = false := by
  cases test <;> simp [refuse]

theorem validate_eq_ok {allowed : List String} :
    validateSnsSigningCertUrl parse text allowed = .ok () ↔
      ∃ url, parse text = .ok url ∧ url.Plain ∧ ∃ host, url.hostStr = some host ∧
        isAwsHost (toAsciiLowercase host) ∧
        allowed.any (matchesPrefix (toAsciiLowercase host) url.path) := by
  simp only [validateSnsSigningCertUrl, Fallible.bind_eq_ok_iff, Fallible.mapError_eq_ok_iff,
    refuse_eq_ok, Fallible.elim_eq_ok_iff, Option.map_eq_some_iff, Bool.not_eq_false',
    decide_eq_false_iff_not, not_not, ne_eq]
  constructor
  · rintro ⟨url, hparse, _, hhttps, _, hbare, _, ⟨host, hhost, rfl⟩, _, haws, _, hpath, hany⟩
    exact ⟨url, hparse, ⟨hhttps, hbare, hpath⟩, host, hhost, haws, hany⟩
  · rintro ⟨url, hparse, hplain, host, hhost, haws, hany⟩
    exact ⟨url, hparse, (), hplain.https, (), hplain.bare, _, ⟨host, hhost, rfl⟩, (), haws, (),
      hplain.certificate, hany⟩

theorem isAwsHost_iff :
    isAwsHost host ↔ ∃ domain ∈ awsDomains, ∃ front, host = front ++ domain := by
  rw [isAwsHost, List.any_eq_true]
  refine exists_congr fun domain => and_congr_right fun _ => ?_
  rw [endsWith, List.isSuffixOf_iff_suffix]
  constructor
  · rintro ⟨front, hfront⟩
    refine ⟨.ofList front, String.toList_inj.mp ?_⟩
    rw [String.toList_append, String.toList_ofList, hfront]
  · rintro ⟨front, rfl⟩
    exact ⟨front.toList, String.toList_append.symm⟩

theorem matchesPrefix_eq (hp : normalizePrefix p = "https://" ++ q)
    (hq : q.toList.length ≤ host.toList.length) :
    matchesPrefix host path p = Str.startsWith host q := by
  have hnonempty : "https://" ++ q ≠ "" := fun h => by
    have := congrArg (fun s => s.toList.length) h
    simp [String.toList_append] at this
  have hurl : Str.startsWith ("https://" ++ q) "https://" := Str.startsWith_iff.mpr ⟨q, rfl⟩
  unfold matchesPrefix
  simp only [hp, hnonempty, if_false, hurl, if_true]
  rw [Bool.eq_iff_iff, Str.startsWith, Str.startsWith, List.isPrefixOf_iff_prefix,
    List.isPrefixOf_iff_prefix]
  simp only [String.toList_append, List.append_assoc, List.prefix_append_right_inj]
  constructor
  · intro h
    exact List.prefix_of_prefix_length_le h (List.prefix_append _ _) hq
  · intro h
    exact h.trans (List.prefix_append _ _)

theorem any_default_iff (h : isAwsHost host) :
    awsSnsAllowedSigningCertUrlPrefixesDefault.any (matchesPrefix host path) ↔
      Str.startsWith host "sns." ∨ Str.startsWith host "sns-" := by
  obtain ⟨domain, hdomain, front, rfl⟩ := isAwsHost_iff.mp h
  have hdomains : ∀ domain ∈ awsDomains, 4 ≤ domain.toList.length := by decide
  have hlong : 4 ≤ (front ++ domain).toList.length := by
    rw [String.toList_append, List.length_append]
    exact Nat.le_add_left_of_le (hdomains domain hdomain)
  rw [awsSnsAllowedSigningCertUrlPrefixesDefault, List.any_cons, List.any_cons, List.any_nil,
    matchesPrefix_eq (q := "sns.") (by decide +kernel) hlong,
    matchesPrefix_eq (q := "sns-") (by decide +kernel) hlong]
  simp

/-- A host ends in one of the domains only. -/
theorem front_unique {front' domain' : String} (hd : domain ∈ awsDomains)
    (hd' : domain' ∈ awsDomains) (h : front ++ domain = front' ++ domain') : front = front' := by
  have hlast : ∀ d ∈ awsDomains, d.toList.getLast?.isSome := by decide
  have hinj : ∀ d ∈ awsDomains, ∀ d' ∈ awsDomains,
      d.toList.getLast? = d'.toList.getLast? → d = d' := by decide
  have hlist := congrArg String.toList h
  simp only [String.toList_append] at hlist
  have heq := congrArg List.getLast? hlist
  simp only [List.getLast?_append, Option.or_of_isSome (hlast _ hd),
    Option.or_of_isSome (hlast _ hd')] at heq
  obtain rfl := hinj _ hd _ hd' heq
  exact String.toList_inj.mp (List.append_cancel_right hlist)

variable {isRegion : String → Prop}

theorem startsWith_of_isSnsHost (h : IsSnsHost isRegion host) : Str.startsWith host "sns." := by
  obtain ⟨region, -, -, domain, -, rfl⟩ := h
  exact Str.startsWith_append (Str.startsWith_iff.mpr ⟨region, rfl⟩)

theorem namesRegion_of_isSnsHost (h : IsSnsHost isRegion host) : NamesRegion isRegion host := by
  intro front domain hdomain hhost
  constructor
  · intro hdash
    have hdot := Str.getElem?_of_startsWith (startsWith_of_isSnsHost h) (i := 3) (c := '.') rfl
    rw [Str.getElem?_of_startsWith hdash (i := 3) (c := '-') rfl] at hdot
    cases hdot
  · intro _
    obtain ⟨region, hregion, hlabel, domain', hdomain', rfl⟩ := h
    obtain rfl := front_unique hdomain' hdomain hhost
    have hcount : ("sns." ++ region).toList.count '.' = 1 := by
      rw [String.toList_append, List.count_append, List.count_eq_zero.mpr hlabel]
      rfl
    refine ⟨hcount, ?_⟩
    rw [String.toList_append]
    exact String.ofList_toList.symm ▸ hregion

theorem isSnsHost_of_namesRegion (h : NamesRegion isRegion host) (haws : isAwsHost host)
    (hstart : Str.startsWith host "sns." ∨ Str.startsWith host "sns-") :
    IsSnsHost isRegion host := by
  obtain ⟨domain, hdomain, front, rfl⟩ := isAwsHost_iff.mp haws
  obtain ⟨hdash, hdot⟩ := h front domain hdomain rfl
  have hsns := hstart.resolve_right hdash
  obtain ⟨hcount, hregion⟩ := hdot hsns
  have hprefix : "sns.".toList <+: front.toList ++ domain.toList := by
    rw [← String.toList_append]
    exact List.isPrefixOf_iff_prefix.mp hsns
  have hlong : 4 ≤ front.toList.length := by
    by_contra hshort
    -- what is shorter than `sns.` and begins it has no dot
    have hlt := Nat.not_le.mp hshort
    have hbegins := List.prefix_of_prefix_length_le (List.prefix_append _ _) hprefix hlt.le
    have hshorter : front.toList <+: "sns".toList :=
      List.prefix_of_prefix_length_le hbegins ⟨['.'], rfl⟩ (Nat.le_of_lt_succ hlt)
    have hdots := hshorter.sublist.count_le '.'
    rw [hcount] at hdots
    exact absurd hdots (by decide)
  obtain ⟨region, hfront⟩ := List.prefix_of_prefix_length_le hprefix (List.prefix_append _ _) hlong
  rw [← hfront] at hcount hregion
  have hlist : (String.ofList region).toList = region := String.toList_ofList
  refine ⟨.ofList region, hregion, ?_, domain, hdomain, ?_⟩
  · rw [hlist]
    refine List.count_eq_zero.mp ?_
    rw [List.count_append] at hcount
    exact Nat.add_left_cancel (n := 1) hcount
  · refine congrArg (· ++ domain) (String.toList_inj.mp ?_)
    rw [String.toList_append, hlist, hfront]

end Checks

/-- Only endpoints of SNS are accepted exactly if the host names a region and nothing else. -/
theorem accepts_sns_hosts_only_iff (parse : String → Except String Url)
    (isRegion : String → Prop) (text : String) :
    (∀ url, parse text = .ok url →
      validateSnsSigningCertUrl parse text awsSnsAllowedSigningCertUrlPrefixesDefault = .ok () →
      url.scheme = "https" ∧ ∃ host, url.hostStr = some host ∧
        IsSnsHost isRegion (toAsciiLowercase host)) ↔
      ∀ url host, parse text = .ok url → url.Plain → url.hostStr = some host →
        NamesRegion isRegion (toAsciiLowercase host) := by
  constructor
  · intro h url host hparse hplain hhost front domain hdomain heq
    have haws := isAwsHost_iff.mpr ⟨domain, hdomain, front, heq⟩
    have hnames : Str.startsWith (toAsciiLowercase host) "sns." ∨
        Str.startsWith (toAsciiLowercase host) "sns-" →
        NamesRegion isRegion (toAsciiLowercase host) := by
      intro hstart
      obtain ⟨-, host', hhost', hsns⟩ := h url hparse (validate_eq_ok.mpr
        ⟨url, hparse, hplain, host, hhost, haws, (any_default_iff haws).mpr hstart⟩)
      cases hhost.symm.trans hhost'
      exact namesRegion_of_isSnsHost hsns
    exact ⟨fun hdash => (hnames (.inr hdash) front domain hdomain heq).1 hdash,
      fun hdot => (hnames (.inl hdot) front domain hdomain heq).2 hdot⟩
  · intro h url hparse hvalid
    obtain ⟨url', hparse', hplain, host, hhost, haws, hany⟩ := validate_eq_ok.mp hvalid
    cases hparse.symm.trans hparse'
    exact ⟨hplain.https, host, hhost, isSnsHost_of_namesRegion (h url host hparse hplain hhost) haws
      ((any_default_iff haws).mp hany)⟩

def bucket : Url :=
  ⟨"https", "", none, some "sns.evil.s3.amazonaws.com", none,
    "/SimpleNotificationService-x.pem", none, none⟩

theorem bucket_accepted : validateSnsSigningCertUrl (fun _ => .ok bucket)
        "https://sns.evil.s3.amazonaws.com/SimpleNotificationService-x.pem"
        awsSnsAllowedSigningCertUrlPrefixesDefault = .ok () ∧
      ∀ isRegion : String → Prop, ¬IsSnsHost isRegion "sns.evil.s3.amazonaws.com" := by
  refine ⟨by decide +kernel, fun isRegion h => ?_⟩
  have hnames := (namesRegion_of_isSnsHost h "sns.evil.s3" ".amazonaws.com" (by decide) rfl).2
    (startsWith_of_isSnsHost h)
  exact absurd hnames.1 (by decide)

end Pasion.SnsCertificate
