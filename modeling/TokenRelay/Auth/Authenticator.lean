/-
# Authenticators

Supplies the identification of callers from the headers of their requests, in each of the three ways
that settings choose from.
-/

import TokenRelay.Auth.KeyRing
import TokenRelay.Auth.Settings
import TokenRelay.Auth.SignedToken
import TokenRelay.Http.Headers
import TokenRelay.Text.Blank

namespace TokenRelay

/-- Who a caller is. -/
structure Identity where
  userId : String
  username : String
  deriving DecidableEq, Repr

/-- Why a caller is not identified. -/
inductive AuthError where
  | noCredentials
  | unknownKey
  | invalidToken
  | noSubject
  deriving DecidableEq, Repr

/-- The text of the error. -/
def AuthError.message : AuthError → String
  | .noCredentials => "No Authorization header found"
  | .unknownKey => "Invalid API key"
  | .invalidToken => "Invalid or expired token"
  | .noSubject => "Token has no subject"

/-- A way to identify callers with what it needs. -/
inductive Authenticator where
  | noop
  | apiKey (ring : KeyRing)
  | jwt (secret : List UInt8)

namespace Authenticator

/-- The authenticator that settings describe. -/
def ofSettings (settings : AuthSettings) : Authenticator :=
  match settings.module with
  | .noop => .noop
  | .apiKey => .apiKey (.ofEntries settings.apiKeys)
  | .jwt => .jwt (settings.jwtSecret.getD "").toUTF8.toList

/-- The way of an authenticator. -/
def module : Authenticator → AuthModule
  | .noop => .noop
  | .apiKey _ => .apiKey
  | .jwt _ => .jwt

/-- Who a caller is that does not say who it is. -/
def anyone : Identity := ⟨"00000000-0000-0000-0000-000", "streamgate-user"⟩

/-- What a caller presents after the word `Bearer`, which is written with a large or a small first
letter and the others small. -/
def bearer? (headers : Http.Headers) : Option String :=
  match headers.text? "authorization" with
  | none => none
  | some value =>
    match value.toList with
    | first :: rest =>
      if (first = 'B' ∨ first = 'b') ∧ ['e', 'a', 'r', 'e', 'r', ' '].isPrefixOf rest then
        let presented := Text.trimChars (rest.drop 6)
        if presented.isEmpty then none else some (String.ofList presented)
      else none
    | [] => none

/-- Who the bearer of a token is. -/
def ofClaims (claims : Claims) : Except AuthError Identity :=
  match claims.subject.filter (· ≠ "") with
  | none => .error .noSubject
  | some subject => .ok ⟨subject, claims.username.getD subject⟩

/-- Identifies a caller at the given second; returns the authenticator for the next caller. -/
def identify (authenticator : Authenticator) (now : Nat) (headers : Http.Headers) :
    Except AuthError Identity × Authenticator :=
  match authenticator with
  | .noop =>
    match ((headers.text? "x-user-id").map Text.trim).filter (· ≠ "") with
    | some userId => (.ok ⟨userId, anyone.username⟩, .noop)
    | none => (.ok anyone, .noop)
  | .apiKey ring =>
    match bearer? headers with
    | none => (.error .noCredentials, .apiKey ring)
    | some key =>
      match ring.use key with
      | (none, ring) => (.error .unknownKey, .apiKey ring)
      | (some record, ring) => (.ok ⟨record.owner, record.owner⟩, .apiKey ring)
  | .jwt secret =>
    match bearer? headers with
    | none => (.error .noCredentials, .jwt secret)
    | some token =>
      match SignedToken.verify secret now token.toList with
      | none => (.error .invalidToken, .jwt secret)
      | some claims => (ofClaims claims, .jwt secret)

end Authenticator

end TokenRelay
