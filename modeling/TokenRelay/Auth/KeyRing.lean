/-
# Key rings

Supplies the store of keys with their owners. A ring holds the digest of a key in place of the key.
It remembers of every key whether it has been used since it was put in.
-/

import TokenRelay.Auth.KeyEntry
import TokenRelay.Digest.Sha256
import TokenRelay.KeyMap
import TokenRelay.Text.Hex
import TokenRelay.Text.Utf8

namespace TokenRelay

/-- What a ring knows of a key. -/
structure KeyRecord where
  owner : String
  /-- The text of the digest of the key. -/
  digest : String
  /-- Whether the key has been used since it was put in. -/
  used : Bool
  deriving DecidableEq, Repr

/-- Keys, by the text of their digests. -/
structure KeyRing where
  records : KeyMap KeyRecord := .empty

namespace KeyRing

/-- The text of the digest of a key: two lower-case hexadecimal digits for every byte. -/
def digest (key : String) : String :=
  String.ofList (Text.Hex.encode (Digest.sha256 (Text.Utf8.encode key.toList)))

/-- Puts a key in, in place of the same key of another owner. It counts as unused. -/
def insert (ring : KeyRing) (owner key : String) : KeyRing :=
  ⟨ring.records.insert (digest key) ⟨owner, digest key, false⟩⟩

/-- The ring of a list of entries as they are written; what is no entry is left out, and of several
owners of one key the last one counts. -/
def ofEntries (entries : List String) : KeyRing :=
  (entries.filterMap KeyEntry.ofText?).foldl
    (fun ring entry => ring.insert entry.owner entry.key) {}

/-- What the ring knows of a key before this use of it, and the ring after it. -/
def use (ring : KeyRing) (key : String) : Option KeyRecord × KeyRing :=
  match ring.records.find? (digest key) with
  | none => (none, ring)
  | some record => (some record, ⟨ring.records.insert (digest key) { record with used := true }⟩)

end KeyRing

end TokenRelay
