/-
# Settings of authentication

Supplies the ways to identify a caller and the settings that choose one.
-/

import TokenRelay.Text.Name

namespace TokenRelay

/-- How callers are identified. -/
inductive AuthModule where
  /-- Callers say who they are. -/
  | noop
  /-- Callers present a key. -/
  | apiKey
  /-- Callers present a signed token. -/
  | jwt
  deriving DecidableEq, Repr

namespace AuthModule

/-- The name of a way to identify callers. -/
def name : AuthModule → String
  | .noop => "noop"
  | .apiKey => "api_key"
  | .jwt => "jwt"

/-- Every way to identify callers under its name. -/
def names : List (String × AuthModule) :=
  [(name .noop, .noop), (name .apiKey, .apiKey), (name .jwt, .jwt)]

/-- The way to identify callers that a user names. -/
def ofText : String → Except UnknownName AuthModule :=
  readName "auth module" names

end AuthModule

/-- The settings of authentication. -/
structure AuthSettings where
  module : AuthModule := .noop
  /-- The entries for keys, as they are written. -/
  apiKeys : List String := []
  /-- What tokens are signed with. -/
  jwtSecret : Option String := none
  deriving DecidableEq, Repr

end TokenRelay
