import Pasion.Data.OpenEnum
import Pasion.Data.ResponseType
import Pasion.Text.Codec
import Pasion.Text.Fallible
import Pasion.Text.Slice

/-! Client metadata as a JSON object, with the localized variants of a field as members of their
own. -/
namespace Pasion

/-- The libraries of the leaf types. A key set is held by its text, and its JSON is assumed as a
whole. A duration counts nanoseconds and is written in seconds. -/
structure SerdeLibraries where
  parseUrl : String → Option Url
  languageTag : String → Option String
  keySet : Json.Codec String
  roundSeconds : ℤ → ℤ
  roundSeconds_mul : ∀ s, roundSeconds (s * 10 ^ 9) = s

/-- The types of the fields without localized variants. -/
inductive FieldKind where
  | urls | url | urlText
  | responseTypes | grantTypes | authMethod
  | signatureAlg | encryptionAlg | encryptionEnc
  | applicationType | subjectType
  | strings | string | flag | seconds | keySet

namespace FieldKind

def type : FieldKind → Type
  | urls => List Url
  | url => Url
  | urlText | string | keySet => String
  | responseTypes => List ResponseType
  | grantTypes => List GrantType
  | authMethod => OAuthClientAuthenticationMethod
  | signatureAlg => JsonWebSignatureAlg
  | encryptionAlg => JsonWebEncryptionAlg
  | encryptionEnc => JsonWebEncryptionEnc
  | applicationType => ApplicationType
  | subjectType => SubjectType
  | strings => List String
  | flag => Bool
  | seconds => ℤ

end FieldKind

namespace SerdeLibraries

open Json

variable (lib : SerdeLibraries)

def url : Codec Url := Codec.string.via Url.serialization lib.parseUrl

def urlText : Codec String :=
  Codec.string.via id (fun text => (lib.parseUrl text).map Url.serialization)

def responseType : Codec ResponseType := Codec.string.via ResponseType.toString ResponseType.fromStr

def openEnum {α : Type} [OpenEnum α] : Codec α :=
  Codec.string.via OpenEnum.asStr (fun text => some (OpenEnum.fromStr text))

def seconds : Codec ℤ := Codec.int.via lib.roundSeconds (fun s => some (s * 10 ^ 9))

def codec : (k : FieldKind) → Codec k.type
  | .urls => lib.url.list
  | .url => lib.url
  | .urlText => lib.urlText
  | .responseTypes => responseType.list
  | .grantTypes => (openEnum : Codec GrantType).list
  | .authMethod => (openEnum : Codec OAuthClientAuthenticationMethod)
  | .signatureAlg => (openEnum : Codec JsonWebSignatureAlg)
  | .encryptionAlg => (openEnum : Codec JsonWebEncryptionAlg)
  | .encryptionEnc => (openEnum : Codec JsonWebEncryptionEnc)
  | .applicationType => (openEnum : Codec ApplicationType)
  | .subjectType => (openEnum : Codec SubjectType)
  | .strings => Codec.string.list
  | .string => Codec.string
  | .flag => Codec.bool
  | .seconds => lib.seconds
  | .keySet => lib.keySet

/-- The URLs and key sets are values of their libraries, which read what they write. -/
def Parsed : (k : FieldKind) → k.type → Prop
  | .urls, (l : List Url) => ∀ u ∈ l, lib.parseUrl u.serialization = some u
  | .url, (u : Url) => lib.parseUrl u.serialization = some u
  | .urlText, (text : String) => (lib.parseUrl text).map Url.serialization = some text
  | .keySet, (keys : String) => lib.keySet.Reads keys
  | _, _ => True

end SerdeLibraries

/-- Response types that are read back, names in their place, and whole seconds. -/
def FieldKind.Canonical : (k : FieldKind) → k.type → Prop
  | .responseTypes, (l : List ResponseType) => ∀ t ∈ l, t.IsRead ∧ t.ReadsBack
  | .grantTypes, (l : List GrantType) => ∀ g ∈ l, OpenEnum.Canonical g
  | .authMethod, (a : OAuthClientAuthenticationMethod) => OpenEnum.Canonical a
  | .signatureAlg, (a : JsonWebSignatureAlg) => OpenEnum.Canonical a
  | .encryptionAlg, (a : JsonWebEncryptionAlg) => OpenEnum.Canonical a
  | .encryptionEnc, (a : JsonWebEncryptionEnc) => OpenEnum.Canonical a
  | .applicationType, (a : ApplicationType) => OpenEnum.Canonical a
  | .subjectType, (a : SubjectType) => OpenEnum.Canonical a
  | .seconds, (d : ℤ) => 10 ^ 9 ∣ d
  | _, _ => True

namespace SerdeLibraries

open Json

variable {lib : SerdeLibraries}

theorem reads_url {u : Url} : lib.url.Reads u ↔ lib.parseUrl u.serialization = some u :=
  Codec.reads_via_iff (Codec.reads_string _)

theorem reads_responseType {t : ResponseType} : responseType.Reads t ↔ t.IsRead ∧ t.ReadsBack :=
  (Codec.reads_via_iff (Codec.reads_string _)).trans ResponseType.fromStr_eq_some_iff_isRead

theorem reads_openEnum {α : Type} [OpenEnum α] {a : α} :
    (openEnum : Codec α).Reads a ↔ OpenEnum.Canonical a := by
  unfold openEnum
  rw [Codec.reads_via_iff (Codec.reads_string _), Option.some_inj, OpenEnum.fromStr_asStr_iff]

/-- Whatever the rounding, only whole seconds are read as they were. -/
theorem reads_seconds {d : ℤ} : lib.seconds.Reads d ↔ 10 ^ 9 ∣ d := by
  unfold seconds
  rw [Codec.reads_via_iff (Codec.reads_int _), Option.some_inj]
  constructor
  · intro h
    rw [← h]
    exact Int.dvd_mul_left _ _
  · rintro ⟨s, rfl⟩
    rw [Int.mul_comm (10 ^ 9) s, lib.roundSeconds_mul]

theorem reads_codec_iff {k : FieldKind} {a : k.type} (h : lib.Parsed k a) :
    (lib.codec k).Reads a ↔ k.Canonical a := by
  cases k with
  | urls =>
    refine iff_of_true (Codec.reads_list_iff.mpr fun u hu => reads_url.mpr (h u hu)) trivial
  | url => exact iff_of_true (reads_url.mpr h) trivial
  | urlText => exact iff_of_true ((Codec.reads_via_iff (Codec.reads_string _)).mpr h) trivial
  | responseTypes =>
    exact Codec.reads_list_iff.trans (forall₂_congr fun _ _ => reads_responseType)
  | grantTypes => exact Codec.reads_list_iff.trans (forall₂_congr fun _ _ => reads_openEnum)
  | authMethod => exact reads_openEnum (α := OAuthClientAuthenticationMethod)
  | signatureAlg => exact reads_openEnum (α := JsonWebSignatureAlg)
  | encryptionAlg => exact reads_openEnum (α := JsonWebEncryptionAlg)
  | encryptionEnc => exact reads_openEnum (α := JsonWebEncryptionEnc)
  | applicationType => exact reads_openEnum (α := ApplicationType)
  | subjectType => exact reads_openEnum (α := SubjectType)
  | strings =>
    exact iff_of_true (Codec.reads_list_iff.mpr fun s _ => Codec.reads_string s) trivial
  | string => exact iff_of_true (Codec.reads_string a) trivial
  | flag => exact iff_of_true (Codec.reads_bool a) trivial
  | seconds => exact reads_seconds
  | keySet => exact iff_of_true h trivial

end SerdeLibraries

/-- The fields without localized variants, in the order in which they are written. -/
inductive FlatField where
  | redirectUris | responseTypes | grantTypes | tokenEndpointAuthMethod
  | tokenEndpointAuthSigningAlg | contacts | jwksUri | jwks | softwareId | softwareVersion
  | applicationType | sectorIdentifierUri | subjectType | idTokenSignedResponseAlg
  | idTokenEncryptedResponseAlg | idTokenEncryptedResponseEnc | userinfoSignedResponseAlg
  | userinfoEncryptedResponseAlg | userinfoEncryptedResponseEnc | requestObjectSigningAlg
  | requestObjectEncryptionAlg | requestObjectEncryptionEnc | defaultMaxAge | requireAuthTime
  | defaultAcrValues | initiateLoginUri | requestUris | requireSignedRequestObject
  | requirePushedAuthorizationRequests | introspectionSignedResponseAlg
  | introspectionEncryptedResponseAlg | introspectionEncryptedResponseEnc | postLogoutRedirectUris
  deriving DecidableEq

namespace FlatField

def all : List FlatField :=
  [redirectUris, responseTypes, grantTypes, tokenEndpointAuthMethod, tokenEndpointAuthSigningAlg,
    contacts, jwksUri, jwks, softwareId, softwareVersion, applicationType, sectorIdentifierUri,
    subjectType, idTokenSignedResponseAlg, idTokenEncryptedResponseAlg,
    idTokenEncryptedResponseEnc, userinfoSignedResponseAlg, userinfoEncryptedResponseAlg,
    userinfoEncryptedResponseEnc, requestObjectSigningAlg, requestObjectEncryptionAlg,
    requestObjectEncryptionEnc, defaultMaxAge, requireAuthTime, defaultAcrValues,
    initiateLoginUri, requestUris, requireSignedRequestObject, requirePushedAuthorizationRequests,
    introspectionSignedResponseAlg, introspectionEncryptedResponseAlg,
    introspectionEncryptedResponseEnc, postLogoutRedirectUris]

def name : FlatField → String
  | redirectUris => "redirect_uris"
  | responseTypes => "response_types"
  | grantTypes => "grant_types"
  | tokenEndpointAuthMethod => "token_endpoint_auth_method"
  | tokenEndpointAuthSigningAlg => "token_endpoint_auth_signing_alg"
  | contacts => "contacts"
  | jwksUri => "jwks_uri"
  | jwks => "jwks"
  | softwareId => "software_id"
  | softwareVersion => "software_version"
  | applicationType => "application_type"
  | sectorIdentifierUri => "sector_identifier_uri"
  | subjectType => "subject_type"
  | idTokenSignedResponseAlg => "id_token_signed_response_alg"
  | idTokenEncryptedResponseAlg => "id_token_encrypted_response_alg"
  | idTokenEncryptedResponseEnc => "id_token_encrypted_response_enc"
  | userinfoSignedResponseAlg => "userinfo_signed_response_alg"
  | userinfoEncryptedResponseAlg => "userinfo_encrypted_response_alg"
  | userinfoEncryptedResponseEnc => "userinfo_encrypted_response_enc"
  | requestObjectSigningAlg => "request_object_signing_alg"
  | requestObjectEncryptionAlg => "request_object_encryption_alg"
  | requestObjectEncryptionEnc => "request_object_encryption_enc"
  | defaultMaxAge => "default_max_age"
  | requireAuthTime => "require_auth_time"
  | defaultAcrValues => "default_acr_values"
  | initiateLoginUri => "initiate_login_uri"
  | requestUris => "request_uris"
  | requireSignedRequestObject => "require_signed_request_object"
  | requirePushedAuthorizationRequests => "require_pushed_authorization_requests"
  | introspectionSignedResponseAlg => "introspection_signed_response_alg"
  | introspectionEncryptedResponseAlg => "introspection_encrypted_response_alg"
  | introspectionEncryptedResponseEnc => "introspection_encrypted_response_enc"
  | postLogoutRedirectUris => "post_logout_redirect_uris"

def kind : FlatField → FieldKind
  | redirectUris | requestUris | postLogoutRedirectUris => .urls
  | responseTypes => .responseTypes
  | grantTypes => .grantTypes
  | tokenEndpointAuthMethod => .authMethod
  | tokenEndpointAuthSigningAlg | idTokenSignedResponseAlg | userinfoSignedResponseAlg
  | requestObjectSigningAlg | introspectionSignedResponseAlg => .signatureAlg
  | idTokenEncryptedResponseAlg | userinfoEncryptedResponseAlg | requestObjectEncryptionAlg
  | introspectionEncryptedResponseAlg => .encryptionAlg
  | idTokenEncryptedResponseEnc | userinfoEncryptedResponseEnc | requestObjectEncryptionEnc
  | introspectionEncryptedResponseEnc => .encryptionEnc
  | contacts | defaultAcrValues => .strings
  | jwksUri => .urlText
  | jwks => .keySet
  | softwareId | softwareVersion => .string
  | applicationType => .applicationType
  | sectorIdentifierUri | initiateLoginUri => .url
  | subjectType => .subjectType
  | defaultMaxAge => .seconds
  | requireAuthTime | requireSignedRequestObject | requirePushedAuthorizationRequests => .flag

def get (m : ClientMetadata) : (f : FlatField) → Option f.kind.type
  | redirectUris => m.redirectUris
  | responseTypes => m.responseTypes
  | grantTypes => m.grantTypes
  | tokenEndpointAuthMethod => m.tokenEndpointAuthMethod
  | tokenEndpointAuthSigningAlg => m.tokenEndpointAuthSigningAlg
  | contacts => m.contacts
  | jwksUri => m.jwksUri
  | jwks => m.jwks
  | softwareId => m.softwareId
  | softwareVersion => m.softwareVersion
  | applicationType => m.applicationType
  | sectorIdentifierUri => m.sectorIdentifierUri
  | subjectType => m.subjectType
  | idTokenSignedResponseAlg => m.idTokenSignedResponseAlg
  | idTokenEncryptedResponseAlg => m.idTokenEncryptedResponseAlg
  | idTokenEncryptedResponseEnc => m.idTokenEncryptedResponseEnc
  | userinfoSignedResponseAlg => m.userinfoSignedResponseAlg
  | userinfoEncryptedResponseAlg => m.userinfoEncryptedResponseAlg
  | userinfoEncryptedResponseEnc => m.userinfoEncryptedResponseEnc
  | requestObjectSigningAlg => m.requestObjectSigningAlg
  | requestObjectEncryptionAlg => m.requestObjectEncryptionAlg
  | requestObjectEncryptionEnc => m.requestObjectEncryptionEnc
  | defaultMaxAge => m.defaultMaxAge
  | requireAuthTime => m.requireAuthTime
  | defaultAcrValues => m.defaultAcrValues
  | initiateLoginUri => m.initiateLoginUri
  | requestUris => m.requestUris
  | requireSignedRequestObject => m.requireSignedRequestObject
  | requirePushedAuthorizationRequests => m.requirePushedAuthorizationRequests
  | introspectionSignedResponseAlg => m.introspectionSignedResponseAlg
  | introspectionEncryptedResponseAlg => m.introspectionEncryptedResponseAlg
  | introspectionEncryptedResponseEnc => m.introspectionEncryptedResponseEnc
  | postLogoutRedirectUris => m.postLogoutRedirectUris

/-- The metadata with these fields, and with the localized fields apart. -/
def build (fields : (f : FlatField) → Option f.kind.type) (clientName : Option (Localized String))
    (logoUri clientUri policyUri tosUri : Option (Localized Url)) : ClientMetadata where
  redirectUris := fields redirectUris
  responseTypes := fields responseTypes
  grantTypes := fields grantTypes
  tokenEndpointAuthMethod := fields tokenEndpointAuthMethod
  tokenEndpointAuthSigningAlg := fields tokenEndpointAuthSigningAlg
  clientName
  logoUri
  clientUri
  policyUri
  tosUri
  contacts := fields contacts
  jwksUri := fields jwksUri
  jwks := fields jwks
  softwareId := fields softwareId
  softwareVersion := fields softwareVersion
  applicationType := fields applicationType
  sectorIdentifierUri := fields sectorIdentifierUri
  subjectType := fields subjectType
  idTokenSignedResponseAlg := fields idTokenSignedResponseAlg
  idTokenEncryptedResponseAlg := fields idTokenEncryptedResponseAlg
  idTokenEncryptedResponseEnc := fields idTokenEncryptedResponseEnc
  userinfoSignedResponseAlg := fields userinfoSignedResponseAlg
  userinfoEncryptedResponseAlg := fields userinfoEncryptedResponseAlg
  userinfoEncryptedResponseEnc := fields userinfoEncryptedResponseEnc
  requestObjectSigningAlg := fields requestObjectSigningAlg
  requestObjectEncryptionAlg := fields requestObjectEncryptionAlg
  requestObjectEncryptionEnc := fields requestObjectEncryptionEnc
  defaultMaxAge := fields defaultMaxAge
  requireAuthTime := fields requireAuthTime
  defaultAcrValues := fields defaultAcrValues
  initiateLoginUri := fields initiateLoginUri
  requestUris := fields requestUris
  requireSignedRequestObject := fields requireSignedRequestObject
  requirePushedAuthorizationRequests := fields requirePushedAuthorizationRequests
  introspectionSignedResponseAlg := fields introspectionSignedResponseAlg
  introspectionEncryptedResponseAlg := fields introspectionEncryptedResponseAlg
  introspectionEncryptedResponseEnc := fields introspectionEncryptedResponseEnc
  postLogoutRedirectUris := fields postLogoutRedirectUris

theorem mem_all (f : FlatField) : f ∈ all := by cases f <;> decide

theorem get_build (fields : (f : FlatField) → Option f.kind.type)
    (clientName : Option (Localized String))
    (logoUri clientUri policyUri tosUri : Option (Localized Url)) (f : FlatField) :
    get (build fields clientName logoUri clientUri policyUri tosUri) f = fields f := by
  cases f <;> rfl

theorem build_get (m : ClientMetadata) :
    build (get m) m.clientName m.logoUri m.clientUri m.policyUri m.tosUri = m := rfl

theorem nodup_names : (all.map name).Nodup := by decide +kernel

end FlatField

namespace ClientMetadata

open Json

inductive DeserializeError where
  | invalidLanguageTag (text : String)
  | invalidFlatFields
  | invalidVariant (field : String)
  | missingNonLocalized (field : String)
  deriving DecidableEq

section Serialize

variable (lib : SerdeLibraries)

def flatMembers (m : ClientMetadata) : List (String × Option Value) :=
  FlatField.all.map (fun f => (lib.codec f.kind).member f.name (f.get m))

def serializeLocalizedField {α : Type} (c : Codec α) (name : String) :
    Option (Localized α) → List (String × Value)
  | none => []
  | some l => (name, c.toValue l.nonLocalized) ::
      l.tagged.map (fun r => (name ++ "#" ++ r.1, c.toValue r.2))

def emitLocalizedFields (m : ClientMetadata) : List (String × Value) :=
  serializeLocalizedField Codec.string "client_name" m.clientName ++
  serializeLocalizedField lib.url "logo_uri" m.logoUri ++
  serializeLocalizedField lib.url "client_uri" m.clientUri ++
  serializeLocalizedField lib.url "policy_uri" m.policyUri ++
  serializeLocalizedField lib.url "tos_uri" m.tosUri

/-- The loop over the flat members, which writes the localized ones after the anchor. -/
def interleave (localized : List (String × Value)) :
    List (String × Value) → Bool → List (String × Value)
  | [], emitted => if emitted then [] else localized
  | (key, value) :: rest, emitted =>
    if key = "contacts" && !emitted then (key, value) :: (localized ++ interleave localized rest true)
    else (key, value) :: interleave localized rest emitted

def serialize (m : ClientMetadata) : List (String × Value) :=
  interleave (emitLocalizedFields lib m) (Value.present (flatMembers lib m)) false

end Serialize

section Deserialize

variable (lib : SerdeLibraries)

def localizedFieldNames : List String :=
  ["client_name", "logo_uri", "client_uri", "policy_uri", "tos_uri"]

def isLocalizedKey (key : String) : Bool :=
  ((Str.splitOnce '#' key).map Prod.fst).getD key ∈ localizedFieldNames

/-- The localized field that a key belongs to and its language, unless it is a flat key. -/
def classify (key : String) : Except DeserializeError (Option (String × Option String)) :=
  if isLocalizedKey key then
    match Str.splitOnce '#' key with
    | some (base, text) => match lib.languageTag text with
      | none => .error (.invalidLanguageTag text)
      | some tag => .ok (some (base, some tag))
    | none => .ok (some (key, none))
  else .ok none

abbrev Variant := Option String × Value

abbrev GroupedEntries := List (String × List Variant)

def findGroup (name : String) : GroupedEntries → Option (List Variant)
  | [] => none
  | (base, group) :: rest => if base = name then some group else findGroup name rest

/-- `get_or_create_group`, and the push that follows it. -/
def pushGroup (base : String) (v : Variant) : GroupedEntries → GroupedEntries
  | [] => [(base, [v])]
  | (name, group) :: rest =>
    if name = base then (name, group ++ [v]) :: rest else (name, group) :: pushGroup base v rest

structure Visited where
  flat : List (String × Value)
  grouped : GroupedEntries

def visitEntry (s : Visited) (entry : String × Value) : Except DeserializeError Visited :=
  (classify lib entry.1).map (fun
    | some (base, tag) => { s with grouped := pushGroup base (tag, entry.2) s.grouped }
    | none => { s with flat := Value.insertMember entry.1 entry.2 s.flat })

def visitMap (entries : List (String × Value)) : Except DeserializeError Visited :=
  entries.foldlM (visitEntry lib) ⟨[], []⟩

def readVariant {α : Type} (c : Codec α) (name : String) (acc : Option α × List (String × α))
    (v : Variant) : Except DeserializeError (Option α × List (String × α)) :=
  match c.fromValue v.2 with
  | none => .error (.invalidVariant name)
  | some parsed => match v.1 with
    | none => .ok (some parsed, acc.2)
    | some tag => .ok (acc.1, acc.2 ++ [(tag, parsed)])

def readVariants {α : Type} (c : Codec α) (name : String) (variants : List Variant) :
    Except DeserializeError (Localized α) := do
  let (default, tagged) ← variants.foldlM (readVariant c name) (none, [])
  match default with
  | none => .error (.missingNonLocalized name)
  | some nonLocalized => .ok (.new nonLocalized tagged)

def parseLocalizedField {α : Type} (c : Codec α) (name : String) (groups : GroupedEntries) :
    Except DeserializeError (Option (Localized α) × GroupedEntries) :=
  match findGroup name groups with
  | none => .ok (none, groups)
  | some variants => (readVariants c name variants).map
      (fun l => (some l, groups.eraseP (fun g => g.1 = name)))

def deserializeFlat (members : List (String × Value)) :
    Except DeserializeError ((f : FlatField) → Option f.kind.type) :=
  if FlatField.all.all (fun f => ((lib.codec f.kind).readMember f.name members).isSome) then
    .ok (fun f => ((lib.codec f.kind).readMember f.name members).getD none)
  else .error .invalidFlatFields

def deserialize (entries : List (String × Value)) : Except DeserializeError ClientMetadata := do
  let visited ← visitMap lib entries
  let flat ← deserializeFlat lib visited.flat
  let (clientName, grouped) ← parseLocalizedField Codec.string "client_name" visited.grouped
  let (logoUri, grouped) ← parseLocalizedField lib.url "logo_uri" grouped
  let (clientUri, grouped) ← parseLocalizedField lib.url "client_uri" grouped
  let (policyUri, grouped) ← parseLocalizedField lib.url "policy_uri" grouped
  let (tosUri, _) ← parseLocalizedField lib.url "tos_uri" grouped
  .ok (FlatField.build flat clientName logoUri clientUri policyUri tosUri)

end Deserialize

section Visit

variable {lib : SerdeLibraries} {entries : List (String × Value)} {s : Visited}

def variants (lib : SerdeLibraries) (name : String) (entries : List (String × Value)) :
    List Variant :=
  entries.filterMap (fun entry => match classify lib entry.1 with
    | .ok (some (base, tag)) => if base = name then some (tag, entry.2) else none
    | _ => none)

def flatEntries (lib : SerdeLibraries) (entries : List (String × Value)) : List (String × Value) :=
  entries.filter (fun entry => classify lib entry.1 matches .ok none)

theorem variants_append {name : String} (front back : List (String × Value)) :
    variants lib name (front ++ back) = variants lib name front ++ variants lib name back :=
  List.filterMap_append

theorem flatEntries_append (front back : List (String × Value)) :
    flatEntries lib (front ++ back) = flatEntries lib front ++ flatEntries lib back :=
  List.filter_append ..

def asGroup : List Variant → Option (List Variant)
  | [] => none
  | group => some group

theorem findGroup_pushGroup {name base : String} {v : Variant} {groups : GroupedEntries} :
    findGroup name (pushGroup base v groups) =
      if base = name then some ((findGroup name groups).getD [] ++ [v])
      else findGroup name groups := by
  induction groups with
  | nil => simp [pushGroup, findGroup]
  | cons g rest ih =>
    obtain ⟨other, group⟩ := g
    by_cases hother : other = base
    · subst hother
      by_cases hname : other = name <;> simp [pushGroup, findGroup, hname]
    · by_cases hname : other = name
      · subst hname
        simp [pushGroup, findGroup, hother, Ne.symm hother]
      · simp [pushGroup, findGroup, hother, hname, ih]

theorem asGroup_concat (group : List Variant) (v : Variant) :
    asGroup (group ++ [v]) = some ((asGroup group).getD [] ++ [v]) := by
  cases group <;> rfl

theorem visited_of_visitMap (h : visitMap lib entries = .ok s) :
    s.flat = (flatEntries lib entries).foldl
      (fun acc entry => Value.insertMember entry.1 entry.2 acc) [] ∧
    ∀ name, findGroup name s.grouped = asGroup (variants lib name entries) := by
  induction entries using List.reverseRecOn generalizing s with
  | nil =>
    cases h
    exact ⟨rfl, fun _ => rfl⟩
  | append_singleton front entry ih =>
    rw [visitMap, List.foldlM_append] at h
    obtain ⟨s₁, hfront, h⟩ := Fallible.bind_eq_ok_iff.mp h
    obtain ⟨hflat, hgroups⟩ := ih hfront
    rw [List.foldlM_cons] at h
    obtain ⟨s₂, hentry, h⟩ := Fallible.bind_eq_ok_iff.mp h
    cases h
    obtain ⟨place, hplace, rfl⟩ := Fallible.map_eq_ok_iff.mp hentry
    cases place with
    | none =>
      have hlast : flatEntries lib [entry] = [entry] := by simp [flatEntries, hplace]
      have hnone : ∀ name, variants lib name [entry] = [] := by
        intro name
        simp [variants, hplace]
      constructor
      · rw [flatEntries_append, hlast, List.foldl_append, ← hflat]
        rfl
      · intro name
        rw [variants_append, hnone, List.append_nil, ← hgroups]
    | some place =>
      obtain ⟨base, tag⟩ := place
      have hnone : flatEntries lib [entry] = [] := by simp [flatEntries, hplace]
      constructor
      · rw [flatEntries_append, hnone, List.append_nil, ← hflat]
      · intro name
        change findGroup name (pushGroup base (tag, entry.2) s₁.grouped) = _
        rw [findGroup_pushGroup, variants_append]
        split_ifs with hname
        · have hlast : variants lib name [entry] = [(tag, entry.2)] := by
            simp [variants, hplace, hname]
          rw [hlast, asGroup_concat, ← hgroups]
        · have hlast : variants lib name [entry] = [] := by simp [variants, hplace, hname]
          rw [hlast, List.append_nil, ← hgroups]

theorem exists_visitMap (h : ∀ entry ∈ entries, ∃ place, classify lib entry.1 = .ok place) :
    ∃ s, visitMap lib entries = .ok s := by
  induction entries using List.reverseRecOn with
  | nil => exact ⟨_, rfl⟩
  | append_singleton front entry ih =>
    obtain ⟨s, hs⟩ := ih fun e he => h e (List.mem_append_left _ he)
    obtain ⟨place, hplace⟩ := h entry (by simp)
    obtain ⟨s', hs'⟩ : ∃ s', visitEntry lib s entry = .ok s' := by
      rw [visitEntry, hplace]
      exact ⟨_, rfl⟩
    refine ⟨s', ?_⟩
    unfold visitMap at hs ⊢
    rw [List.foldlM_append, hs]
    change (visitEntry lib s entry >>= pure) = .ok s'
    rw [hs']
    rfl

end Visit

section Read

variable {α : Type} {c : Codec α} {name : String} {groups : GroupedEntries}

def readField (c : Codec α) (name : String) :
    Option (List Variant) → Except DeserializeError (Option (Localized α))
  | none => .ok none
  | some group => (readVariants c name group).map some

theorem findGroup_eraseP {other : String} (hne : other ≠ name) :
    findGroup other (groups.eraseP (fun g => g.1 = name)) = findGroup other groups := by
  induction groups with
  | nil => rfl
  | cons g rest ih =>
    obtain ⟨base, group⟩ := g
    by_cases hbase : base = name
    · have hother : base ≠ other := fun h => hne (h ▸ hbase)
      simp [hbase, findGroup, hbase ▸ hother]
    · rw [List.eraseP_cons_of_neg (by simpa using hbase), findGroup, findGroup, ih]

theorem parseLocalizedField_ok_iff {found : Option (Localized α) × GroupedEntries} :
    parseLocalizedField c name groups = .ok found ↔
      readField c name (findGroup name groups) = .ok found.1 ∧
        found.2 = groups.eraseP (fun g => g.1 = name) := by
  obtain ⟨l, rest⟩ := found
  unfold parseLocalizedField
  cases hgroup : findGroup name groups with
  | none =>
    have herase : groups.eraseP (fun g => g.1 = name) = groups := by
      apply List.eraseP_of_forall_not
      clear l rest
      induction groups with
      | nil => simp
      | cons g others ih =>
        obtain ⟨base, group⟩ := g
        rw [findGroup] at hgroup
        split_ifs at hgroup with hbase
        intro g hg
        obtain rfl | hg := List.mem_cons.mp hg
        · simpa using hbase
        · exact ih hgroup g hg
    rw [herase]
    constructor
    · intro h
      cases h
      exact ⟨rfl, rfl⟩
    · rintro ⟨h, hrest⟩
      cases h
      obtain rfl : rest = groups := hrest
      rfl
  | some group =>
    simp only [readField, Fallible.map_eq_ok_iff, Prod.mk.injEq]
    constructor
    · rintro ⟨a, ha, hl, hrest⟩
      exact ⟨⟨a, ha, hl⟩, hrest.symm⟩
    · rintro ⟨⟨a, ha, hl⟩, hrest⟩
      exact ⟨a, ha, hl, hrest.symm⟩

theorem foldlM_readVariant {tagged : List (String × α)} (acc : Option α × List (String × α))
    (h : ∀ r ∈ tagged, c.Reads r.2) :
    (tagged.map (fun r => ((some r.1, c.toValue r.2) : Variant))).foldlM (readVariant c name) acc =
      .ok (acc.1, acc.2 ++ tagged) := by
  induction tagged generalizing acc with
  | nil => simp [pure, Except.pure]
  | cons r rest ih =>
    have hr : c.fromValue (c.toValue r.2) = some r.2 := h r List.mem_cons_self
    have hstep : readVariant c name acc (some r.1, c.toValue r.2) = .ok (acc.1, acc.2 ++ [r]) := by
      simp [readVariant, hr]
    rw [List.map_cons, List.foldlM_cons, hstep]
    refine (ih (acc.1, acc.2 ++ [r]) fun r hr => h r (List.mem_cons_of_mem _ hr)).trans ?_
    simp

def written (c : Codec α) : Option (Localized α) → List Variant
  | none => []
  | some l => (none, c.toValue l.nonLocalized) ::
      l.tagged.map (fun r => (some r.1, c.toValue r.2))

/-- The tags are those of the library, in order and distinct, and the values are readable. -/
structure Sound (lib : SerdeLibraries) (c : Codec α) (l : Localized α) : Prop where
  tags : ∀ r ∈ l.tagged, lib.languageTag r.1 = some r.1
  sorted : l.tagged.Pairwise (fun a b => compare a.1 b.1 = .lt)
  values : ∀ v ∈ l.values, c.Reads v

theorem readField_written {lib : SerdeLibraries} {l : Option (Localized α)}
    (h : ∀ a ∈ l, Sound lib c a) : readField c name (asGroup (written c l)) = .ok l := by
  cases l with
  | none => rfl
  | some l =>
    obtain ⟨-, hsorted, hvalues⟩ := h l rfl
    have hdefault : c.fromValue (c.toValue l.nonLocalized) = some l.nonLocalized :=
      hvalues _ List.mem_cons_self
    have htagged : ∀ r ∈ l.tagged, c.Reads r.2 := by
      intro r hr
      exact hvalues _ (List.mem_cons_of_mem _ (List.mem_map_of_mem hr))
    have hnew : Localized.new l.nonLocalized l.tagged = l := by
      have hle : l.tagged.Pairwise (fun a b => (compare a.1 b.1).isLE = true) :=
        hsorted.imp fun hlt => by rw [hlt]; rfl
      unfold Localized.new Localized.sorted
      rw [List.mergeSort_of_pairwise hle]
    have hstep : readVariant c name (none, []) (none, c.toValue l.nonLocalized) =
        .ok (some l.nonLocalized, []) := by
      simp [readVariant, hdefault]
    change (readVariants c name (written c (some l))).map some = .ok (some l)
    have hread : readVariants c name (written c (some l)) = .ok l := by
      unfold readVariants written
      rw [List.foldlM_cons, hstep]
      refine Fallible.bind_eq_ok_iff.mpr ⟨(some l.nonLocalized, l.tagged), ?_, ?_⟩
      · exact foldlM_readVariant (some l.nonLocalized, []) htagged
      · change Except.ok (Localized.new l.nonLocalized l.tagged) = Except.ok l
        rw [hnew]
    rw [hread]
    rfl

theorem from_variants {vs : List Variant} {acc : Option α × List (String × α)}
    (h : vs.foldlM (readVariant c name) (none, []) = .ok acc) :
    (∀ d, acc.1 = some d → ∃ v, (none, v) ∈ vs ∧ c.fromValue v = some d) ∧
    ∀ r ∈ acc.2, ∃ v, (some r.1, v) ∈ vs ∧ c.fromValue v = some r.2 := by
  induction vs using List.reverseRecOn generalizing acc with
  | nil =>
    cases h
    exact ⟨nofun, nofun⟩
  | append_singleton front v ih =>
    rw [List.foldlM_append] at h
    obtain ⟨acc₁, hfront, h⟩ := Fallible.bind_eq_ok_iff.mp h
    rw [List.foldlM_cons] at h
    obtain ⟨acc₂, hlast, h⟩ := Fallible.bind_eq_ok_iff.mp h
    cases h
    obtain ⟨hdefault, htagged⟩ := ih hfront
    have hweaken : ∀ {tag : Option String} {a : α}, (∃ w, (tag, w) ∈ front ∧ c.fromValue w = some a) →
        ∃ w, (tag, w) ∈ front ++ [v] ∧ c.fromValue w = some a := by
      rintro tag a ⟨w, hw, hread⟩
      exact ⟨w, List.mem_append_left _ hw, hread⟩
    obtain ⟨tag, value⟩ := v
    unfold readVariant at hlast
    dsimp only at hlast
    cases hparsed : c.fromValue value with
    | none =>
      rw [hparsed] at hlast
      cases hlast
    | some parsed =>
      rw [hparsed] at hlast
      cases tag with
      | none =>
        cases hlast
        refine ⟨?_, fun r hr => hweaken (htagged r hr)⟩
        rintro d ⟨⟩
        exact ⟨value, by simp, hparsed⟩
      | some tag =>
        cases hlast
        refine ⟨fun d hd => hweaken (hdefault d hd), ?_⟩
        intro r hr
        obtain hr | hr := List.mem_append.mp hr
        · exact hweaken (htagged r hr)
        · obtain rfl := List.mem_singleton.mp hr
          exact ⟨value, by simp, hparsed⟩

/-- Every value of a localized field stands under the name of that field. -/
def ReadFrom (lib : SerdeLibraries) (c : Codec α) (name : String)
    (entries : List (String × Value)) (l : Option (Localized α)) : Prop :=
  ∀ a ∈ l, (∃ v, (name, v) ∈ entries ∧ c.fromValue v = some a.nonLocalized) ∧
    ∀ r ∈ a.tagged, ∃ text v, (name ++ "#" ++ text, v) ∈ entries ∧
      lib.languageTag text = some r.1 ∧ c.fromValue v = some r.2

end Read

section Keys

variable {lib : SerdeLibraries} {entries : List (String × Value)} {name : String}

theorem hash_not_mem (h : name ∈ localizedFieldNames) : '#' ∉ name.toList := by
  have hall : ∀ n ∈ localizedFieldNames, '#' ∉ n.toList := by decide
  exact hall name h

theorem classify_flat (f : FlatField) : classify lib f.name = .ok none := by
  have hall : ∀ f ∈ FlatField.all, isLocalizedKey f.name = false := by decide +kernel
  simp [classify, hall f f.mem_all]

theorem classify_name (h : name ∈ localizedFieldNames) :
    classify lib name = .ok (some (name, none)) := by
  have hsplit : Str.splitOnce '#' name = none := Str.splitOnce_eq_none.mpr (hash_not_mem h)
  simp [classify, isLocalizedKey, hsplit, h]

theorem classify_tagged {tag : String} (h : name ∈ localizedFieldNames)
    (htag : lib.languageTag tag = some tag) :
    classify lib (name ++ "#" ++ tag) = .ok (some (name, some tag)) := by
  have hsplit : Str.splitOnce '#' (name ++ "#" ++ tag) = some (name, tag) :=
    Str.splitOnce_append (by decide) (hash_not_mem h)
  simp [classify, isLocalizedKey, hsplit, h, htag]

def VariantKey (lib : SerdeLibraries) (name key : String) : Option String → Prop
  | none => key = name
  | some tag => ∃ text, key = name ++ "#" ++ text ∧ lib.languageTag text = some tag

theorem variantKey_of_classify {key base : String} {tag : Option String}
    (h : classify lib key = .ok (some (base, tag))) : VariantKey lib base key tag := by
  unfold classify at h
  split_ifs at h
  · split at h
    · next front text hsplit =>
      split at h
      · cases h
      · next tag htag =>
        cases h
        exact ⟨text, Str.eq_of_splitOnce (by decide) hsplit, htag⟩
    · cases h
      rfl
  · cases h

theorem mem_variants {tag : Option String} {v : Value} (h : (tag, v) ∈ variants lib name entries) :
    ∃ key, (key, v) ∈ entries ∧ classify lib key = .ok (some (name, tag)) := by
  obtain ⟨entry, hentry, hvariant⟩ := List.mem_filterMap.mp h
  split at hvariant
  · next base tag' hclassify =>
    split_ifs at hvariant with hbase
    cases hvariant
    exact ⟨entry.1, hentry, hbase ▸ hclassify⟩
  · cases hvariant

theorem readFrom_of_readField {α : Type} {c : Codec α} {l : Option (Localized α)}
    (h : readField c name (asGroup (variants lib name entries)) = .ok l) :
    ReadFrom lib c name entries l := by
  intro a ha
  obtain rfl : l = some a := ha
  obtain ⟨group, hgroup, hread⟩ : ∃ group, asGroup (variants lib name entries) = some group ∧
      readVariants c name group = .ok a := by
    cases hgroup : asGroup (variants lib name entries) with
    | none =>
      rw [hgroup] at h
      cases h
    | some group =>
      rw [hgroup] at h
      obtain ⟨b, hb, hsome⟩ := Fallible.map_eq_ok_iff.mp h
      cases hsome
      exact ⟨group, rfl, hb⟩
  obtain rfl : variants lib name entries = group := by
    unfold asGroup at hgroup
    split at hgroup
    · cases hgroup
    · exact Option.some.inj hgroup
  obtain ⟨acc, hfold, hread⟩ := Fallible.bind_eq_ok_iff.mp hread
  obtain ⟨hdefault, htagged⟩ := from_variants hfold
  obtain ⟨default, tagged⟩ := acc
  cases default with
  | none => cases hread
  | some d =>
    cases hread
    constructor
    · obtain ⟨v, hv, hvalue⟩ := hdefault d rfl
      obtain ⟨key, hkey, hclassify⟩ := mem_variants hv
      obtain rfl : key = name := variantKey_of_classify hclassify
      exact ⟨v, hkey, hvalue⟩
    · intro r hr
      obtain ⟨v, hv, hvalue⟩ := htagged r (List.mem_mergeSort.mp hr)
      obtain ⟨key, hkey, hclassify⟩ := mem_variants hv
      obtain ⟨text, rfl, htag⟩ := variantKey_of_classify hclassify
      exact ⟨text, v, hkey, htag, hvalue⟩

end Keys

section Written

variable {lib : SerdeLibraries} {m : ClientMetadata} {name : String}

theorem interleave_emitted (localized flat : List (String × Value)) :
    interleave localized flat true = flat := by
  induction flat with
  | nil => rfl
  | cons entry rest ih =>
    obtain ⟨key, value⟩ := entry
    rw [interleave, ih]
    simp

/-- Wherever the anchor is, the localized members stand in one piece among the flat ones. -/
theorem exists_interleave (localized flat : List (String × Value)) :
    ∃ front back, flat = front ++ back ∧
      interleave localized flat false = front ++ localized ++ back := by
  induction flat with
  | nil => exact ⟨[], [], rfl, by simp [interleave]⟩
  | cons entry rest ih =>
    obtain ⟨key, value⟩ := entry
    by_cases hkey : key = "contacts"
    · refine ⟨[(key, value)], rest, rfl, ?_⟩
      rw [interleave, interleave_emitted]
      simp [hkey]
    · obtain ⟨front, back, hrest, hinterleave⟩ := ih
      refine ⟨(key, value) :: front, back, by rw [hrest, List.cons_append], ?_⟩
      rw [interleave, hinterleave]
      simp [hkey]

theorem nodup_flatMembers : ((flatMembers lib m).map Prod.fst).Nodup := by
  have hnames : (flatMembers lib m).map Prod.fst = FlatField.all.map FlatField.name := by
    rw [flatMembers, List.map_map]
    rfl
  rw [hnames]
  exact FlatField.nodup_names

variable {entry : String × Value} {entries : List (String × Value)}

theorem classify_present
    (h : entry ∈ Value.present (flatMembers lib m)) : classify lib entry.1 = .ok none := by
  have hkey := Value.mem_of_mem_present (List.mem_map_of_mem h)
  obtain ⟨member, hmember, hname⟩ := List.mem_map.mp hkey
  obtain ⟨f, -, rfl⟩ := List.mem_map.mp hmember
  rw [← hname]
  exact classify_flat f

theorem variants_of_flat
    (h : ∀ entry ∈ entries, classify lib entry.1 = .ok none) : variants lib name entries = [] := by
  refine List.filterMap_eq_nil_iff.mpr fun entry hentry => ?_
  rw [h entry hentry]

theorem flatEntries_of_flat (h : ∀ entry ∈ entries, classify lib entry.1 = .ok none) :
    flatEntries lib entries = entries := by
  refine List.filter_eq_self.mpr fun entry hentry => ?_
  rw [h entry hentry]

variable {α : Type} {c : Codec α} {l : Option (Localized α)}

theorem classify_serializeLocalizedField (hname : name ∈ localizedFieldNames)
    (h : ∀ a ∈ l, Sound lib c a)
    (hentry : entry ∈ serializeLocalizedField c name l) :
    ∃ tag, classify lib entry.1 = .ok (some (name, tag)) := by
  cases l with
  | none => cases hentry
  | some a =>
    obtain rfl | hentry := List.mem_cons.mp hentry
    · exact ⟨none, classify_name hname⟩
    · obtain ⟨r, hr, rfl⟩ := List.mem_map.mp hentry
      exact ⟨some r.1, classify_tagged hname ((h a rfl).tags r hr)⟩

theorem variants_serializeLocalizedField (hname : name ∈ localizedFieldNames)
    (h : ∀ a ∈ l, Sound lib c a) :
    variants lib name (serializeLocalizedField c name l) = written c l := by
  cases l with
  | none => rfl
  | some a =>
    have htagged : ∀ tagged : List (String × α), (∀ r ∈ tagged, lib.languageTag r.1 = some r.1) →
        variants lib name (tagged.map (fun r => (name ++ "#" ++ r.1, c.toValue r.2))) =
          tagged.map (fun r => (some r.1, c.toValue r.2)) := by
      intro tagged htags
      induction tagged with
      | nil => rfl
      | cons r rest ih =>
        rw [List.map_cons, List.map_cons, ← List.singleton_append, variants_append,
          ih fun r hr => htags r (List.mem_cons_of_mem _ hr)]
        simp [variants, classify_tagged hname (htags r List.mem_cons_self)]
    rw [serializeLocalizedField, ← List.singleton_append, variants_append,
      htagged a.tagged (h a rfl).tags]
    simp [variants, classify_name hname, written]

theorem variants_field (other : String) (hname : name ∈ localizedFieldNames)
    (h : ∀ a ∈ l, Sound lib c a) :
    variants lib other (serializeLocalizedField c name l) =
      if name = other then written c l else [] := by
  split_ifs with hother
  · rw [← hother, variants_serializeLocalizedField hname h]
  · refine List.filterMap_eq_nil_iff.mpr fun entry hentry => ?_
    obtain ⟨tag, htag⟩ := classify_serializeLocalizedField hname h hentry
    rw [htag]
    exact if_neg hother

/-- Values that the libraries have read, and localized variants in order under distinct tags. -/
structure WellFormed (lib : SerdeLibraries) (m : ClientMetadata) : Prop where
  flat : ∀ f, ∀ a ∈ FlatField.get m f, lib.Parsed f.kind a
  clientName : ∀ l ∈ m.clientName, Sound lib Codec.string l
  logoUri : ∀ l ∈ m.logoUri, Sound lib lib.url l
  clientUri : ∀ l ∈ m.clientUri, Sound lib lib.url l
  policyUri : ∀ l ∈ m.policyUri, Sound lib lib.url l
  tosUri : ∀ l ∈ m.tosUri, Sound lib lib.url l

theorem classify_emitLocalizedFields (h : WellFormed lib m)
    (hentry : entry ∈ emitLocalizedFields lib m) :
    ∃ base tag, classify lib entry.1 = .ok (some (base, tag)) := by
  simp only [emitLocalizedFields, List.mem_append] at hentry
  obtain (((hentry | hentry) | hentry) | hentry) | hentry := hentry
  · exact ⟨_, classify_serializeLocalizedField (by decide) h.clientName hentry⟩
  · exact ⟨_, classify_serializeLocalizedField (by decide) h.logoUri hentry⟩
  · exact ⟨_, classify_serializeLocalizedField (by decide) h.clientUri hentry⟩
  · exact ⟨_, classify_serializeLocalizedField (by decide) h.policyUri hentry⟩
  · exact ⟨_, classify_serializeLocalizedField (by decide) h.tosUri hentry⟩

theorem visit_serialize (h : WellFormed lib m) : ∃ s, visitMap lib (serialize lib m) = .ok s ∧
    s.flat = Value.present (flatMembers lib m) ∧
    ∀ name, findGroup name s.grouped = asGroup (variants lib name (emitLocalizedFields lib m)) := by
  obtain ⟨front, back, hflat, hserialize⟩ :=
    exists_interleave (emitLocalizedFields lib m) (Value.present (flatMembers lib m))
  have hfront : ∀ entry ∈ front, classify lib entry.1 = .ok none := by
    intro entry hentry
    exact classify_present (hflat ▸ List.mem_append_left _ hentry)
  have hback : ∀ entry ∈ back, classify lib entry.1 = .ok none := by
    intro entry hentry
    exact classify_present (hflat ▸ List.mem_append_right _ hentry)
  have hnone : flatEntries lib (emitLocalizedFields lib m) = [] := by
    refine List.filter_eq_nil_iff.mpr fun entry hentry => ?_
    obtain ⟨base, tag, hplace⟩ := classify_emitLocalizedFields h hentry
    simp [hplace]
  obtain ⟨s, hs⟩ : ∃ s, visitMap lib (serialize lib m) = .ok s := by
    apply exists_visitMap
    intro entry hentry
    rw [serialize, hserialize, List.append_assoc] at hentry
    obtain hentry | hentry := List.mem_append.mp hentry
    · exact ⟨none, hfront entry hentry⟩
    · obtain hentry | hentry := List.mem_append.mp hentry
      · obtain ⟨base, tag, hplace⟩ := classify_emitLocalizedFields h hentry
        exact ⟨_, hplace⟩
      · exact ⟨none, hback entry hentry⟩
  obtain ⟨hsflat, hgroups⟩ := visited_of_visitMap hs
  refine ⟨s, hs, ?_, ?_⟩
  · have hentries : flatEntries lib (serialize lib m) = Value.present (flatMembers lib m) := by
      rw [serialize, hserialize, flatEntries_append, flatEntries_append, hnone, List.append_nil,
        flatEntries_of_flat hfront, flatEntries_of_flat hback, hflat]
    have hnodup : (([] ++ Value.present (flatMembers lib m)).map Prod.fst).Nodup :=
      Value.nodup_present nodup_flatMembers
    rw [hsflat, hentries, Value.foldl_insertMember hnodup, List.nil_append]
  · intro name
    rw [hgroups, serialize, hserialize, variants_append, variants_append,
      variants_of_flat hfront, variants_of_flat hback, List.nil_append, List.append_nil]

theorem variants_emitLocalizedFields (h : WellFormed lib m) :
    variants lib "client_name" (emitLocalizedFields lib m) = written Codec.string m.clientName ∧
    variants lib "logo_uri" (emitLocalizedFields lib m) = written lib.url m.logoUri ∧
    variants lib "client_uri" (emitLocalizedFields lib m) = written lib.url m.clientUri ∧
    variants lib "policy_uri" (emitLocalizedFields lib m) = written lib.url m.policyUri ∧
    variants lib "tos_uri" (emitLocalizedFields lib m) = written lib.url m.tosUri := by
  have hfields : ∀ other, variants lib other (emitLocalizedFields lib m) =
      (if "client_name" = other then written Codec.string m.clientName else []) ++
      (if "logo_uri" = other then written lib.url m.logoUri else []) ++
      (if "client_uri" = other then written lib.url m.clientUri else []) ++
      (if "policy_uri" = other then written lib.url m.policyUri else []) ++
      (if "tos_uri" = other then written lib.url m.tosUri else []) := by
    intro other
    rw [emitLocalizedFields, variants_append, variants_append, variants_append, variants_append,
      variants_field other (by decide) h.clientName, variants_field other (by decide) h.logoUri,
      variants_field other (by decide) h.clientUri, variants_field other (by decide) h.policyUri,
      variants_field other (by decide) h.tosUri]
  refine ⟨?_, ?_, ?_, ?_, ?_⟩ <;> rw [hfields] <;> simp

end Written

section RoundTrip

variable {lib : SerdeLibraries} {entries : List (String × Value)} {m : ClientMetadata}

theorem deserializeFlat_ok_iff {members : List (String × Value)}
    {fields : (f : FlatField) → Option f.kind.type} :
    deserializeFlat lib members = .ok fields ↔
      ∀ f : FlatField, (lib.codec f.kind).readMember f.name members = some (fields f) := by
  unfold deserializeFlat
  constructor
  · intro h f
    split_ifs at h with hall
    cases h
    have hsome := List.all_eq_true.mp hall f f.mem_all
    obtain ⟨a, ha⟩ := Option.isSome_iff_exists.mp hsome
    simp [ha]
  · intro h
    have hall : FlatField.all.all
        (fun f => ((lib.codec f.kind).readMember f.name members).isSome) = true := by
      refine List.all_eq_true.mpr fun f _ => ?_
      rw [h f, Option.isSome_some]
    rw [if_pos hall]
    congr 1
    funext f
    rw [h f, Option.getD_some]

theorem deserialize_ok_iff : deserialize lib entries = .ok m ↔ ∃ s, visitMap lib entries = .ok s ∧
    (∀ f : FlatField, (lib.codec f.kind).readMember f.name s.flat = some (f.get m)) ∧
    readField Codec.string "client_name" (findGroup "client_name" s.grouped) = .ok m.clientName ∧
    readField lib.url "logo_uri" (findGroup "logo_uri" s.grouped) = .ok m.logoUri ∧
    readField lib.url "client_uri" (findGroup "client_uri" s.grouped) = .ok m.clientUri ∧
    readField lib.url "policy_uri" (findGroup "policy_uri" s.grouped) = .ok m.policyUri ∧
    readField lib.url "tos_uri" (findGroup "tos_uri" s.grouped) = .ok m.tosUri := by
  constructor
  · intro h
    obtain ⟨s, hs, h⟩ := Fallible.bind_eq_ok_iff.mp h
    obtain ⟨flat, hflat, h⟩ := Fallible.bind_eq_ok_iff.mp h
    obtain ⟨⟨clientName, groups₁⟩, hname, h⟩ := Fallible.bind_eq_ok_iff.mp h
    obtain ⟨⟨logoUri, groups₂⟩, hlogo, h⟩ := Fallible.bind_eq_ok_iff.mp h
    obtain ⟨⟨clientUri, groups₃⟩, hclient, h⟩ := Fallible.bind_eq_ok_iff.mp h
    obtain ⟨⟨policyUri, groups₄⟩, hpolicy, h⟩ := Fallible.bind_eq_ok_iff.mp h
    obtain ⟨⟨tosUri, groups₅⟩, htos, h⟩ := Fallible.bind_eq_ok_iff.mp h
    cases h
    simp only [parseLocalizedField_ok_iff] at hname hlogo hclient hpolicy htos
    obtain ⟨hname, rfl⟩ := hname
    obtain ⟨hlogo, rfl⟩ := hlogo
    obtain ⟨hclient, rfl⟩ := hclient
    obtain ⟨hpolicy, rfl⟩ := hpolicy
    simp (disch := decide) only [findGroup_eraseP] at hlogo hclient hpolicy htos
    refine ⟨s, hs, ?_, hname, hlogo, hclient, hpolicy, htos.1⟩
    intro f
    rw [FlatField.get_build]
    exact deserializeFlat_ok_iff.mp hflat f
  · rintro ⟨s, hs, hflat, hname, hlogo, hclient, hpolicy, htos⟩
    refine Fallible.bind_eq_ok_iff.mpr ⟨s, hs, ?_⟩
    refine Fallible.bind_eq_ok_iff.mpr ⟨_, deserializeFlat_ok_iff.mpr hflat, ?_⟩
    refine Fallible.bind_eq_ok_iff.mpr ⟨(m.clientName, _),
      parseLocalizedField_ok_iff.mpr ⟨hname, rfl⟩, ?_⟩
    refine Fallible.bind_eq_ok_iff.mpr ⟨(m.logoUri, _),
      parseLocalizedField_ok_iff.mpr ⟨?_, rfl⟩, ?_⟩
    · simp (disch := decide) only [findGroup_eraseP]
      exact hlogo
    refine Fallible.bind_eq_ok_iff.mpr ⟨(m.clientUri, _),
      parseLocalizedField_ok_iff.mpr ⟨?_, rfl⟩, ?_⟩
    · simp (disch := decide) only [findGroup_eraseP]
      exact hclient
    refine Fallible.bind_eq_ok_iff.mpr ⟨(m.policyUri, _),
      parseLocalizedField_ok_iff.mpr ⟨?_, rfl⟩, ?_⟩
    · simp (disch := decide) only [findGroup_eraseP]
      exact hpolicy
    refine Fallible.bind_eq_ok_iff.mpr ⟨(m.tosUri, _), parseLocalizedField_ok_iff.mpr ⟨?_, rfl⟩, ?_⟩
    · simp (disch := decide) only [findGroup_eraseP]
      exact htos
    exact congrArg Except.ok (FlatField.build_get m)

theorem deserialize_serialize_ok_iff (h : WellFormed lib m) :
    deserialize lib (serialize lib m) = .ok m ↔
      ∀ f : FlatField, ∀ a ∈ f.get m, f.kind.Canonical a := by
  obtain ⟨s, hs, hflat, hgroups⟩ := visit_serialize h
  obtain ⟨hname, hlogo, hclient, hpolicy, htos⟩ := variants_emitLocalizedFields h
  have hmember : ∀ f : FlatField,
      (lib.codec f.kind).readMember f.name s.flat = some (f.get m) ↔
        ∀ a ∈ f.get m, f.kind.Canonical a := by
    intro f
    rw [hflat, Codec.readMember_present nodup_flatMembers
      (List.mem_map_of_mem (f := fun f : FlatField => (lib.codec f.kind).member f.name (f.get m))
        f.mem_all)]
    exact forall₂_congr fun a ha => SerdeLibraries.reads_codec_iff (h.flat f a ha)
  rw [deserialize_ok_iff]
  constructor
  · rintro ⟨s', hs', hread, -⟩ f
    cases hs.symm.trans hs'
    exact (hmember f).mp (hread f)
  · intro hcanonical
    refine ⟨s, hs, fun f => (hmember f).mpr (hcanonical f), ?_, ?_, ?_, ?_, ?_⟩
    · rw [hgroups, hname]
      exact readField_written h.clientName
    · rw [hgroups, hlogo]
      exact readField_written h.logoUri
    · rw [hgroups, hclient]
      exact readField_written h.clientUri
    · rw [hgroups, hpolicy]
      exact readField_written h.policyUri
    · rw [hgroups, htos]
      exact readField_written h.tosUri

/-- Every field is read from the member of its name, localized ones from their own variants. -/
structure ReadsOwnVariants (lib : SerdeLibraries) (entries : List (String × Value))
    (m : ClientMetadata) : Prop where
  flat : ∀ f : FlatField, ∀ a ∈ f.get m, ∃ v, (f.name, v) ∈ entries ∧
    (lib.codec f.kind).fromValue v = some a
  clientName : ReadFrom lib Codec.string "client_name" entries m.clientName
  logoUri : ReadFrom lib lib.url "logo_uri" entries m.logoUri
  clientUri : ReadFrom lib lib.url "client_uri" entries m.clientUri
  policyUri : ReadFrom lib lib.url "policy_uri" entries m.policyUri
  tosUri : ReadFrom lib lib.url "tos_uri" entries m.tosUri

theorem readsOwnVariants_of_deserialize (h : deserialize lib entries = .ok m) :
    ReadsOwnVariants lib entries m := by
  obtain ⟨s, hs, hread, hname, hlogo, hclient, hpolicy, htos⟩ := deserialize_ok_iff.mp h
  obtain ⟨hflat, hgroups⟩ := visited_of_visitMap hs
  rw [hgroups] at hname hlogo hclient hpolicy htos
  refine ⟨?_, readFrom_of_readField hname, readFrom_of_readField hlogo,
    readFrom_of_readField hclient, readFrom_of_readField hpolicy, readFrom_of_readField htos⟩
  intro f a ha
  have hmember : (lib.codec f.kind).readMember f.name s.flat = some (some a) := by
    rw [hread f]
    exact congrArg some ha
  obtain ⟨v, hv, hvalue⟩ := Codec.of_readMember hmember
  rw [hflat] at hv
  obtain hv | hv := Value.of_mem_foldl_insertMember hv
  · cases hv
  · exact ⟨v, List.mem_of_mem_filter hv, hvalue⟩

end RoundTrip

/-- Metadata is read back exactly when its flat fields keep their text. -/
theorem deserialize_serialize (lib : SerdeLibraries) (m : ClientMetadata) (h : WellFormed lib m) :
    (deserialize lib (serialize lib m) = .ok m ↔
      ∀ f : FlatField, ∀ a ∈ f.get m, f.kind.Canonical a) ∧
    ∀ entries m', deserialize lib entries = .ok m' → ReadsOwnVariants lib entries m' :=
  ⟨deserialize_serialize_ok_iff h, fun _ _ => readsOwnVariants_of_deserialize⟩

section Example

def exampleLib : SerdeLibraries where
  parseUrl _ := none
  languageTag := some
  keySet := Codec.string
  roundSeconds d := d / 10 ^ 9
  roundSeconds_mul s := Int.mul_ediv_cancel s (by decide)

def postbox : ClientMetadata := { default with
    clientName := some ⟨"Postbox", [("fr", "Boîte à lettres")]⟩
    contacts := some ["postmaster@example.org"]
    grantTypes := some [.deviceCode] }

theorem postbox_reads_back : deserialize exampleLib (serialize exampleLib postbox) = .ok postbox := by
  have hname : Sound exampleLib Codec.string ⟨"Postbox", [("fr", "Boîte à lettres")]⟩ :=
    ⟨fun _ _ => rfl, List.pairwise_singleton _ _, fun v _ => Codec.reads_string v⟩
  have hwell : WellFormed exampleLib postbox := by
    refine ⟨?_, ?_, nofun, nofun, nofun, nofun⟩
    · intro f
      cases f <;> intro a ha <;> trivial
    · rintro l ⟨⟩
      exact hname
  refine (deserialize_serialize exampleLib postbox hwell).1.mpr ?_
  intro f
  cases f <;> intro a ha <;> first | trivial | cases ha
  intro g hg v hv
  obtain rfl := List.mem_singleton.mp hg
  cases hv

def noneTwice : ClientMetadata :=
  { default with responseTypes := some [.ofToken (.unknown "none")] }

theorem none_twice_not_read_back :
    deserialize exampleLib [("response_types", .array [.string "none none"])] = .ok noneTwice ∧
    deserialize exampleLib (serialize exampleLib noneTwice) ≠ .ok noneTwice := by
  decide +kernel

end Example

end ClientMetadata

end Pasion
