/-
# Signed tokens

Supplies the reading of JSON Web Tokens that are signed with HMAC and SHA-256. A token has three
parts: a header that names the algorithm, claims, and a signature over the text of the other two.
Its claims must say when it expires, which must not be over by more than a minute. A token that is
meant for somebody by name is refused, since the server has no name to compare.
-/

import TokenRelay.Digest.Hmac
import TokenRelay.Json.Reader
import TokenRelay.Text.Base64Url
import TokenRelay.Text.Utf8

namespace TokenRelay

/-- What a token says about its bearer. -/
structure Claims where
  subject : Option String
  username : Option String
  deriving DecidableEq, Repr

namespace Claims

/-- The claims about the bearer as a record. -/
def record : Record Claims :=
  Record.pure Claims.mk
    |>.and (.optional "sub" .string)
    |>.and (.optional "preferred_username" .string)

end Claims

namespace SignedToken

/-- The parts of a token: header, claims, signature. -/
structure Parts where
  header : List Char
  claims : List Char
  signature : List Char

/-- Splits a text at its last dot. -/
def atLastDot? (text : List Char) : Option (List Char × List Char) :=
  match text.reverse.span (· ≠ '.') with
  | (_, []) => none
  | (after, _ :: before) => some (before.reverse, after.reverse)

/-- The parts of a token. -/
def Parts.ofText? (text : List Char) : Option Parts := do
  let (message, signature) ← atLastDot? text
  let (header, claims) ← atLastDot? message
  return ⟨header, claims, signature⟩

/-- The JSON document in a part of a token. -/
def document? (part : List Char) : Option Document :=
  (Text.Base64Url.decode? part).map fun bytes => Document.ofUnits (Text.Utf8.units bytes)

/-- Header fields that hold a text. -/
def textFields : List String :=
  ["typ", "cty", "jku", "kid", "x5u", "x5t", "x5t#S256", "enc", "zip", "url", "nonce"]

/-- Header fields that hold a list of texts. -/
def listFields : List String := ["x5c", "crit"]

/-- Whether a reader accepts a tree right inside the top value. -/
def fits {α : Type} (reader : Reader α) (tree : Tree) : Bool :=
  match reader (Reader.depthLimit - 1) tree with
  | .ok _ => true
  | .error _ => false

/-- Whether a member may stand in a header. The algorithm has to be the one that is expected;
registered fields may be `null`, and fields that are not registered hold texts. -/
def isHeaderMember : Option String × Tree → Bool
  | (none, _) => false
  | (some key, tree) =>
    if key = "alg" then fits (.choice [("HS256", ())]) tree
    else if key = "jwk" then fits (.option Reader.value) tree
    else if textFields.contains key then fits (.option .string) tree
    else if listFields.contains key then fits (.option (.list .string)) tree
    else fits .string tree

/-- Whether a key is one of the registered header fields. -/
def isRegistered (key : Option String) : Bool :=
  (key.map fun name =>
    (["alg", "jwk"] ++ textFields ++ listFields).contains name).getD false

/-- Whether a document is a header: it names the algorithm, and no registered field comes twice. -/
def isHeader (document : Document) : Bool :=
  match document.tree with
  | .object members .closed =>
    let keys := (members.map Prod.fst).filter isRegistered
    !document.trailing && members.all isHeaderMember && keys.contains (some "alg") &&
      decide keys.Nodup
  | _ => false

/-- Seconds for which a token is still accepted after it has expired. -/
def leeway : Nat := 60

/-- The second in which a token expires: a number, rounded to a whole one, that fits a word. -/
def expiry? : Tree → Option Nat
  | .number (some (.int value)) => if 0 ≤ value then some value.toNat else none
  | .number (some (.float value)) =>
    if 0 ≤ value ∧ value < 18446744073709551616.0 then some value.round.toUInt64.toNat else none
  | _ => none

/-- Whether a tree names somebody for whom a token is meant: a text or a list of texts. -/
def isAudience (tree : Tree) : Bool :=
  fits .string tree || fits (.list .string) tree

/-- The keys of the claims that decide whether a token is in force. -/
def forceKeys : List (Option String) :=
  [some "exp", some "nbf", some "iss", some "aud"]

/-- Whether claims are in force at the given second. -/
def inForce (now : Nat) (document : Document) : Bool :=
  match document.tree with
  | .object members _ =>
    let keys := (members.map Prod.fst).filter forceKeys.contains
    let expires := (Record.content? members "exp").bind expiry?
    decide keys.Nodup && expires.any (fun second => now ≤ second + leeway) &&
      !(Record.content? members "aud").any isAudience
  | _ => false

/-- The signature of a header and claims. -/
def sign (secret : List UInt8) (header claims : List Char) : List UInt8 :=
  Digest.hmacSha256 secret (Text.Utf8.encode (header ++ '.' :: claims))

/-- What a token says about its bearer, if it is valid at the given second. -/
def verify (secret : List UInt8) (now : Nat) (token : List Char) : Option Claims := do
  let parts ← Parts.ofText? token
  let header ← document? parts.header
  let signature ← Text.Base64Url.decode? parts.signature
  let claims ← document? parts.claims
  if isHeader header && signature == sign secret parts.header parts.claims &&
      inForce now claims then
    (((Claims.record.reader false).run claims).toOption)
  else none

end SignedToken

end TokenRelay
