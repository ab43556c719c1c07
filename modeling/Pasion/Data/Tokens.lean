import Pasion.Data.Basic
import Pasion.Text.Encoding
import Pasion.Text.Str

/-! Access and refresh tokens, and the self-checking format of token strings. -/
namespace Pasion

inductive AccessTokenState where
  | valid
  | revoked (revokedAt : Time)

namespace AccessTokenState

def revoke (s : AccessTokenState) (revokedAt : Time) :
    Except InvalidTransitionError AccessTokenState :=
  match s with
  | valid => .ok (revoked revokedAt)
  | revoked _ => .error .mk

def isValid : AccessTokenState → Bool
  | valid => true
  | revoked _ => false

def isRevoked : AccessTokenState → Bool
  | valid => false
  | revoked _ => true

end AccessTokenState

structure AccessToken where
  id : Ulid
  state : AccessTokenState
  sessionId : Ulid
  accessToken : String
  createdAt : Time
  (expiresAt firstUsedAt : Option Time)

namespace AccessToken

def jti (t : AccessToken) : String := Ulid.toString t.id

def isExpired (t : AccessToken) (now : Time) : Bool :=
  match t.expiresAt with
  | some expiresAt => expiresAt < now
  | none => false

def isValid (t : AccessToken) (now : Time) : Bool := t.state.isValid && !t.isExpired now

def isUsed (t : AccessToken) : Bool := t.firstUsedAt.isSome

def revoke (t : AccessToken) (revokedAt : Time) : Except InvalidTransitionError AccessToken :=
  (t.state.revoke revokedAt).map ({ t with state := · })

end AccessToken

inductive RefreshTokenState where
  | valid
  | consumed (consumedAt : Time) (nextRefreshTokenId : Option Ulid)
  | revoked (revokedAt : Time)

namespace RefreshTokenState

/-- A token that was consumed already may be consumed again, by another successor. -/
def consume (s : RefreshTokenState) (consumedAt : Time) (replacedBy : Ulid) :
    Except InvalidTransitionError RefreshTokenState :=
  match s with
  | valid => .ok (consumed consumedAt (some replacedBy))
  | consumed _ _ => .ok (consumed consumedAt (some replacedBy))
  | revoked _ => .error .mk

def revoke (s : RefreshTokenState) (revokedAt : Time) :
    Except InvalidTransitionError RefreshTokenState :=
  match s with
  | valid => .ok (revoked revokedAt)
  | consumed _ _ => .error .mk
  | revoked _ => .error .mk

def isValid : RefreshTokenState → Bool
  | valid => true
  | _ => false

def nextRefreshTokenId : RefreshTokenState → Option Ulid
  | consumed _ next => next
  | _ => none

end RefreshTokenState

structure RefreshToken where
  id : Ulid
  state : RefreshTokenState
  refreshToken : String
  sessionId : Ulid
  createdAt : Time
  accessTokenId : Option Ulid

namespace RefreshToken

def jti (t : RefreshToken) : String := Ulid.toString t.id

def isValid (t : RefreshToken) : Bool := t.state.isValid

def consume (t : RefreshToken) (consumedAt : Time) (replacedBy : RefreshToken) :
    Except InvalidTransitionError RefreshToken :=
  (t.state.consume consumedAt replacedBy.id).map ({ t with state := · })

def revoke (t : RefreshToken) (revokedAt : Time) : Except InvalidTransitionError RefreshToken :=
  (t.state.revoke revokedAt).map ({ t with state := · })

end RefreshToken

inductive TokenType where
  | accessToken
  | refreshToken
  | personalAccessToken
  deriving DecidableEq

inductive OAuthTokenTypeHint where
  | accessToken
  | refreshToken
  | unknown (value : String)
  deriving DecidableEq

inductive TokenFormatError where
  | invalidFormat
  | unknownPrefix (pre : String)
  | invalidCrc (expected got : String)
  deriving DecidableEq

/-- The sixty-two digits of a checksum. -/
def num : List Char := "0123456789ABCDEFGHIJKLMNOPQRSTUVWXYZabcdefghijklmnopqrstuvwxyz".toList

def charset : List Char := "ABCDEFGHIJKLMNOPQRSTUVWXYZabcdefghijklmnopqrstuvwxyz0123456789".toList

/-- At most `n` digits, the least significant first. -/
def base62Digits : ℕ → ℕ → List Char
  | 0, _ => []
  | n + 1, x => if x = 0 then [] else num.getD (x % 62) '0' :: base62Digits n (x / 62)

/-- Six digits hold every 32-bit number. Padding goes to the left of the digits. -/
def base62Encode (x : ℕ) : String :=
  let res := base62Digits 6 x
  .ofList (List.replicate (6 - res.length) '0' ++ res)

def generateAlphanumeric (bytes : List UInt8) : String :=
  .ofList (bytes.map (fun b => charset.getD (b.toNat % 62) 'A'))

def isLikelyPalpoMacaroon (token : String) : Bool :=
  match Encoding.base64UrlUnpadded token with
  | some decoded => (decoded.drop 4).take 9 = "location ".toList.map Char.toNat
  | none => false

namespace TokenType

def typePrefix : TokenType → String
  | accessToken => "mat"
  | refreshToken => "mar"
  | personalAccessToken => "mpt"

def matchPrefix (s : String) : Option TokenType :=
  if s = "mat" then some accessToken
  else if s = "mar" then some refreshToken
  else if s = "mpt" then some personalAccessToken
  else none

def crcOf (base : String) : String := base62Encode (Encoding.crc32 base.toUTF8.toList)

/-- The token whose random part comes from the thirty bytes drawn. -/
def generate (t : TokenType) (bytes : List UInt8) : String :=
  let base := t.typePrefix ++ "_" ++ generateAlphanumeric bytes
  base ++ "_" ++ crcOf base

def check (token : String) : Except TokenFormatError TokenType :=
  if Str.startsWith token "pst_" || Str.startsWith token "syr_" || isLikelyPalpoMacaroon token then
    .error .invalidFormat
  else
    match Str.split token '_' with
    | [pre, randomPart, crc] =>
      if pre.utf8ByteSize ≠ 3 ∨ randomPart.utf8ByteSize ≠ 30 ∨ crc.utf8ByteSize ≠ 6 then
        .error .invalidFormat
      else
        match matchPrefix pre with
        | none => .error (.unknownPrefix pre)
        | some tokenType =>
          let expectedCrc := crcOf (tokenType.typePrefix ++ "_" ++ randomPart)
          if crc ≠ expectedCrc then .error (.invalidCrc expectedCrc crc) else .ok tokenType
    | _ => .error .invalidFormat

/-- A hint fits a token type: personal access tokens count as access tokens. -/
def fitsHint : TokenType → OAuthTokenTypeHint → Bool
  | accessToken, .accessToken => true
  | personalAccessToken, .accessToken => true
  | refreshToken, .refreshToken => true
  | _, _ => false

end TokenType

example : TokenType.check (TokenType.generate .refreshToken (List.replicate 30 7)) =
    .ok .refreshToken := by decide +kernel

end Pasion
