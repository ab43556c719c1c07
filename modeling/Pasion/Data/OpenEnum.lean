import Pasion.Data.ClientMetadata

/-! Enumerations of registered names that have room for any other text. -/
namespace Pasion

/-- The known values with their names, and a value for every text. -/
class OpenEnum (α : Type) where
  all : List α
  asStr : α → String
  unknown : String → α
  asStr_unknown : ∀ v, asStr (unknown v) = v := by intro v; rfl
  known_or_unknown : ∀ a, a ∈ all ∨ ∃ v, a = unknown v := by rintro (_ | _) <;> simp
  unknown_not_mem : ∀ v, unknown v ∉ all := by simp
  nodup : (all.map asStr).Nodup := by decide

namespace OpenEnum

variable {α : Type} [OpenEnum α]

def fromStr (s : String) : α := (all.find? (fun a : α => asStr a = s)).getD (unknown s)

/-- A known name does not stand for an unknown value. -/
def Canonical (a : α) : Prop := ∀ v, a = unknown v → v ∉ (all : List α).map asStr

theorem fromStr_asStr_of_mem {a : α} (h : a ∈ (all : List α)) : fromStr (asStr a) = a := by
  unfold fromStr
  cases hfind : (all : List α).find? (fun b => asStr b = asStr a) with
  | none => exact absurd (List.find?_eq_none.mp hfind a h) (by simp)
  | some b =>
    have hname : asStr b = asStr a := by simpa using List.find?_some hfind
    exact List.inj_on_of_nodup_map nodup (List.mem_of_find?_eq_some hfind) h hname

/-- The name is read as the value that it was written for, except for names in the wrong place. -/
theorem fromStr_asStr_iff {a : α} : fromStr (asStr a) = a ↔ Canonical a := by
  obtain hmem | ⟨v, rfl⟩ := known_or_unknown a
  · refine iff_of_true (fromStr_asStr_of_mem hmem) ?_
    rintro v rfl
    exact absurd hmem (unknown_not_mem v)
  · rw [asStr_unknown]
    constructor
    · intro h w hw hknown
      obtain rfl : v = w := by rw [← asStr_unknown (α := α) v, hw, asStr_unknown]
      obtain ⟨b, hb, rfl⟩ := List.mem_map.mp hknown
      rw [fromStr_asStr_of_mem hb] at h
      exact unknown_not_mem _ (h ▸ hb)
    · intro h
      have hnone : (all : List α).find? (fun b => asStr b = v) = none := by
        rw [List.find?_eq_none]
        intro b hb hname
        exact h v rfl (List.mem_map.mpr ⟨b, hb, by simpa using hname⟩)
      unfold fromStr
      rw [hnone, Option.getD_none]

theorem asStr_fromStr (s : String) : asStr (fromStr s : α) = s := by
  unfold fromStr
  cases hfind : (all : List α).find? (fun a => asStr a = s) with
  | none => exact asStr_unknown s
  | some a => simpa using List.find?_some hfind

end OpenEnum

def GrantType.asStr : GrantType → String
  | authorizationCode => "authorization_code"
  | refreshToken => "refresh_token"
  | implicit => "implicit"
  | clientCredentials => "client_credentials"
  | password => "password"
  | deviceCode => "urn:ietf:params:oauth:grant-type:device_code"
  | jwtBearer => "urn:ietf:params:oauth:grant-type:jwt-bearer"
  | clientInitiatedBackchannelAuthentication => "urn:openid:params:grant-type:ciba"
  | unknown value => value

instance : OpenEnum GrantType where
  all := [.authorizationCode, .refreshToken, .implicit, .clientCredentials, .password, .deviceCode,
    .jwtBearer, .clientInitiatedBackchannelAuthentication]
  asStr := GrantType.asStr
  unknown := .unknown

def JsonWebEncryptionAlg.asStr : JsonWebEncryptionAlg → String
  | rsa15 => "RSA1_5"
  | rsaOaep => "RSA-OAEP"
  | rsaOaep256 => "RSA-OAEP-256"
  | a128Kw => "A128KW"
  | a192Kw => "A192KW"
  | a256Kw => "A256KW"
  | dir => "dir"
  | ecdhEs => "ECDH-ES"
  | ecdhEsA128Kw => "ECDH-ES+A128KW"
  | ecdhEsA192Kw => "ECDH-ES+A192KW"
  | ecdhEsA256Kw => "ECDH-ES+A256KW"
  | a128Gcmkw => "A128GCMKW"
  | a192Gcmkw => "A192GCMKW"
  | a256Gcmkw => "A256GCMKW"
  | pbes2Hs256A128Kw => "PBES2-HS256+A128KW"
  | pbes2Hs384A192Kw => "PBES2-HS384+A192KW"
  | pbes2Hs512A256Kw => "PBES2-HS512+A256KW"
  | rsaOaep384 => "RSA-OAEP-384"
  | rsaOaep512 => "RSA-OAEP-512"
  | unknown value => value

instance : OpenEnum JsonWebEncryptionAlg where
  all := [.rsa15, .rsaOaep, .rsaOaep256, .a128Kw, .a192Kw, .a256Kw, .dir, .ecdhEs, .ecdhEsA128Kw,
    .ecdhEsA192Kw, .ecdhEsA256Kw, .a128Gcmkw, .a192Gcmkw, .a256Gcmkw, .pbes2Hs256A128Kw,
    .pbes2Hs384A192Kw, .pbes2Hs512A256Kw, .rsaOaep384, .rsaOaep512]
  asStr := JsonWebEncryptionAlg.asStr
  unknown := .unknown

def JsonWebEncryptionEnc.asStr : JsonWebEncryptionEnc → String
  | a128CbcHs256 => "A128CBC-HS256"
  | a192CbcHs384 => "A192CBC-HS384"
  | a256CbcHs512 => "A256CBC-HS512"
  | a128Gcm => "A128GCM"
  | a192Gcm => "A192GCM"
  | a256Gcm => "A256GCM"
  | unknown value => value

instance : OpenEnum JsonWebEncryptionEnc where
  all := [.a128CbcHs256, .a192CbcHs384, .a256CbcHs512, .a128Gcm, .a192Gcm, .a256Gcm]
  asStr := JsonWebEncryptionEnc.asStr
  unknown := .unknown

instance : OpenEnum JsonWebSignatureAlg where
  all := JsonWebSignatureAlg.all
  asStr := JsonWebSignatureAlg.asStr
  unknown := .unknown
  known_or_unknown a := by cases a <;> simp [JsonWebSignatureAlg.all]
  unknown_not_mem v := by simp [JsonWebSignatureAlg.all]

def OAuthClientAuthenticationMethod.asStr : OAuthClientAuthenticationMethod → String
  | none => "none"
  | clientSecretPost => "client_secret_post"
  | clientSecretBasic => "client_secret_basic"
  | clientSecretJwt => "client_secret_jwt"
  | privateKeyJwt => "private_key_jwt"
  | tlsClientAuth => "tls_client_auth"
  | selfSignedTlsClientAuth => "self_signed_tls_client_auth"
  | unknown value => value

instance : OpenEnum OAuthClientAuthenticationMethod where
  all := [.none, .clientSecretPost, .clientSecretBasic, .clientSecretJwt, .privateKeyJwt,
    .tlsClientAuth, .selfSignedTlsClientAuth]
  asStr := OAuthClientAuthenticationMethod.asStr
  unknown := .unknown

def ApplicationType.asStr : ApplicationType → String
  | web => "web"
  | native => "native"
  | unknown value => value

instance : OpenEnum ApplicationType where
  all := [.web, .native]
  asStr := ApplicationType.asStr
  unknown := .unknown

def SubjectType.asStr : SubjectType → String
  | public_ => "public"
  | pairwise => "pairwise"
  | unknown value => value

instance : OpenEnum SubjectType where
  all := [.public_, .pairwise]
  asStr := SubjectType.asStr
  unknown := .unknown

end Pasion
