import Pasion.Handlers.FlowExecutor
import Pasion.Pg.Users

/-! What the stages of a flow would check if a handler ran them: who is identified, and whether a
code is right. -/
namespace Pasion

open Relational

namespace Totp

/-- The decoders of base 32 without and with padding, and the keyed hash of twenty bytes. -/
structure Primitives where
  (base32NopadDecode base32Decode : String → Option (List UInt8))
  hmacSha1 : (key message : List UInt8) → List UInt8

def defaultPeriod : ℕ := 30

def skewSteps : ℕ := 1

def toBeBytes (n : ℕ) : List UInt8 := (List.range 8).map (fun i => .ofNat (n / 256 ^ (7 - i)))

/-- Dynamic truncation. The power wraps at 32 bits, as in a release build. -/
def generateCode (x : Primitives) (secret : List UInt8) (timeStep digits : ℕ) : ℕ :=
  let result := x.hmacSha1 secret (toBeBytes timeStep)
  let byte := fun i => (result.getD i 0).toNat
  let offset := byte 19 % 16
  let binary := byte offset % 128 * 2 ^ 24 + byte (offset + 1) * 2 ^ 16 +
    byte (offset + 2) * 2 ^ 8 + byte (offset + 3)
  binary % (10 ^ digits % 2 ^ 32)

/-- Whether the code is that of the current time step or of one beside it; `now` is in seconds. -/
def verify (x : Primitives) (now : ℕ) (secretBase32 code : String) (period digits : ℕ) : Bool :=
  match Str.parseUnsigned (2 ^ 32) code with
  | none => false
  | some expectedCode =>
    match (x.base32NopadDecode secretBase32).or (x.base32Decode secretBase32) with
    | none => false
    | some secret =>
      let period := if period = 0 then defaultPeriod else period
      let currentStep := now / period
      let first := currentStep - skewSteps
      (List.range' first (currentStep + skewSteps + 1 - first)).any
        (fun step => generateCode x secret step digits = expectedCode)

end Totp

namespace FlowStages

/-- Both lowercase functions, the parser of identifiers, and the parts of a second factor check. -/
structure Services where
  (lower toLowercase : String → String)
  parseUlid : String → Except String Ulid
  totp : Totp.Primitives

/-- The user whom the identification stage would find. -/
def findUser {ε : Type} [FromRepository ε] (x : Services) (uidField : String) :
    Repo ε (Option User) := do
  let user ← UserRepository.findByUsername x.lower x.toLowercase uidField
  if user.isSome then pure user
  else if uidField.toList.contains '@' then do
    let maybeEmail ← UserEmailRepository.findByEmail x.lower x.toLowercase uidField
    match maybeEmail with
    | some userEmail => UserRepository.lookup userEmail.userId
    | none => pure none
  else pure none

def totpPeriod (config : UserTotpConfig) : ℕ := if 0 ≤ config.period then config.period.toNat else 30

def totpDigits (config : UserTotpConfig) : ℕ := if 0 ≤ config.digits then config.digits.toNat else 6

/-- The code checks against a confirmed second factor of the user. -/
def passesTotp (x : Services) (db : Database) (now : ℕ) (userId : Ulid) (code : String) : Bool :=
  (db.totpConfig? userId).any (fun config => config.confirmedAt.isSome &&
    Totp.verify x.totp now config.secret code (totpPeriod config) (totpDigits config))

def isIssued (db : Database) (authenticationId : Ulid) (code : String) : Bool :=
  (db.emailAuthenticationCode? authenticationId code).isSome

def contextId (x : Services) (context : Json.Value) (key : String) : Option Ulid :=
  (FlowExecutor.text context key).bind (fun s => (x.parseUlid s).toOption)

end FlowStages

end Pasion
