/-
# Keys and their owners

Supplies whom the keys in accepted settings identify. What callers present is read from a header, so
a key reaches the key ring exactly if all of its characters may stand in the text of a header. There
it stands for the owner in the last of the entries with its digest. So an entry identifies its own
owner exactly if its key can be presented and no later entry gives that key to somebody else.
-/

import TokenRelay.Proofs.Server.Discretion
import TokenRelay.Proofs.Settings.Accepted
import TokenRelay.Proofs.Text.Trim
import TokenRelay.Proofs.Text.Utf8

namespace TokenRelay

namespace Http

/-- Whether a character may stand in the text of a header value. -/
def isVisible (character : Char) : Bool :=
  character = '\t' || (' ' ≤ character && character ≤ '~')

theorem isVisible_iff (character : Char) :
    isVisible character = true ↔
      character.toNat = 0x09 ∨ 0x20 ≤ character.toNat ∧ character.toNat ≤ 0x7E := by
  simp only [isVisible, Bool.or_eq_true, Bool.and_eq_true, decide_eq_true_eq]
  exact or_congr ⟨congrArg Char.toNat, fun same => Char.toNat_inj.1 same⟩ Iff.rfl

/-- Whether a byte may stand in it. -/
def isVisibleByte (byte : UInt8) : Bool :=
  byte = 0x09 || (0x20 ≤ byte && byte ≤ 0x7E)

theorem isVisibleByte_iff (byte : UInt8) :
    isVisibleByte byte = true ↔ byte.toNat = 0x09 ∨ 0x20 ≤ byte.toNat ∧ byte.toNat ≤ 0x7E := by
  simp only [isVisibleByte, Bool.or_eq_true, Bool.and_eq_true, decide_eq_true_eq]
  exact or_congr ⟨congrArg UInt8.toNat, fun same => UInt8.toNat_inj.1 same⟩ Iff.rfl

/-- The bytes of a character may stand in a header exactly if the character may. -/
theorem all_encodeChar (character : Char) :
    (String.utf8EncodeChar character).all isVisibleByte = isVisible character := by
  have code : character.val.toNat = character.toNat := rfl
  -- A character of several bytes starts with one beyond ASCII.
  have long {lead : Nat} (low : 0xC0 ≤ lead) (high : lead < 0x100) (rest : List UInt8)
      (beyond : 0x7F < character.toNat) :
      (UInt8.ofNat lead :: rest).all isVisibleByte = isVisible character := by
    have first : isVisibleByte (UInt8.ofNat lead) = false := by
      rw [Bool.eq_false_iff, Ne, isVisibleByte_iff, UInt8.toNat_ofNat', Nat.mod_eq_of_lt high]
      omega
    have none : isVisible character = false := by
      rw [Bool.eq_false_iff, Ne, isVisible_iff]
      omega
    rw [List.all_cons, first, none, Bool.false_and]
  unfold String.utf8EncodeChar
  simp only [code]
  split
  · next short =>
    rw [List.all_cons, List.all_nil, Bool.and_true, Bool.eq_iff_iff, isVisibleByte_iff,
      isVisible_iff, UInt8.toNat_ofNat', Nat.mod_eq_of_lt (by omega)]
  · next beyond =>
    have beyond := Nat.lt_of_not_le beyond
    split
    · exact long (by omega) (by omega) _ beyond
    · split
      · exact long (by omega) (by omega) _ beyond
      · exact long (by omega) (by omega) _ beyond

/-- Each visible character is one byte. -/
theorem encode_of_isVisible {characters : List Char}
    (visible : ∀ character ∈ characters, isVisible character = true) :
    Text.Utf8.encode characters =
      characters.map fun character => UInt8.ofNat character.toNat := by
  induction characters with
  | nil => rfl
  | cons character rest ih =>
      have bound := (isVisible_iff character).1 (visible character List.mem_cons_self)
      have short : character.val.toNat ≤ 0x7F := by
        have code : character.val.toNat = character.toNat := rfl
        omega
      have first : String.utf8EncodeChar character = [UInt8.ofNat character.toNat] := by
        unfold String.utf8EncodeChar
        exact if_pos short
      rw [Text.Utf8.encode_cons, first,
        ih fun other inside => visible other (List.mem_cons_of_mem _ inside)]
      rfl

/-- The text of an encoded header value is what was encoded, if all of it is visible. -/
theorem visibleText?_encode (characters : List Char) :
    visibleText? (Text.Utf8.encode characters) =
      if characters.all isVisible then some (String.ofList characters) else none := by
  have bytes : (Text.Utf8.encode characters).all isVisibleByte = characters.all isVisible := by
    rw [Text.Utf8.encode, List.all_flatMap]
    exact congrArg characters.all (funext all_encodeChar)
  have whole : visibleText? (Text.Utf8.encode characters) =
      if (Text.Utf8.encode characters).all isVisibleByte then
        some (String.ofList
          ((Text.Utf8.encode characters).map fun byte => Char.ofNat byte.toNat))
      else none := rfl
  rw [whole, bytes]
  split
  · next all =>
    have visible := List.all_eq_true.1 all
    have back : (Text.Utf8.encode characters).map (fun byte => Char.ofNat byte.toNat) =
        characters := by
      rw [encode_of_isVisible visible, List.map_map]
      refine (List.map_congr_left fun character inside => ?_).trans (List.map_id characters)
      have bound := (isVisible_iff character).1 (visible character inside)
      rw [Function.comp_apply, UInt8.toNat_ofNat', Nat.mod_eq_of_lt (by omega),
        Char.ofNat_toNat, id]
    rw [back]
  · rfl

end Http

namespace KeyEntry

/-- An entry has a key, and neither end of it is blank. -/
theorem key_of_ofText? {text : String} {entry : KeyEntry} (found : ofText? text = some entry) :
    entry.key.toList ≠ [] ∧ Text.IsTrimmed entry.key.toList := by
  unfold ofText? at found
  split at found
  · cases found
  · dsimp only at found
    split at found
    · cases found
    · next filled =>
      cases found
      rw [String.toList_ofList]
      refine ⟨?_, Text.isTrimmed_trimChars _⟩
      simp only [Bool.or_eq_true, List.isEmpty_iff, not_or] at filled
      exact filled.2

end KeyEntry

namespace KeyRing

/-- The owner whom entries give a key: of those with its digest the last one counts. -/
def lastOwner? (entries : List String) (key : String) : Option String :=
  ((entries.filterMap KeyEntry.ofText?).filter fun entry =>
    digest entry.key = digest key).getLast?.map KeyEntry.owner

/-- So a key ring knows the last owner. The induction takes the entries from the last one on. -/
theorem owner_use_ofEntries (entries : List String) (key : String) :
    ((ofEntries entries).use key).1.map KeyRecord.owner = lastOwner? entries key := by
  rw [fst_use, ofEntries, lastOwner?]
  generalize entries.filterMap KeyEntry.ofText? = all
  rw [← all.reverse_reverse]
  induction all.reverse with
  | nil => rfl
  | cons last earlier ih =>
      rw [List.reverse_cons, List.foldl_append, List.foldl_cons, List.foldl_nil,
        List.filter_append, List.getLast?_append, insert, KeyMap.find?_insert]
      by_cases same : digest key = digest last.key
      · simp [same]
      · rw [if_neg same, ih, List.filter_cons_of_neg (by simpa using Ne.symm same)]
        rfl

end KeyRing

namespace Authenticator

/-- The value of the header in which a key is presented. -/
def bearing (key : String) : List UInt8 :=
  Text.Utf8.encode ("Bearer ".toList ++ key.toList)

/-- A key that is presented is read if all of it is visible. Otherwise it is as if there were no
header. -/
theorem bearer?_bearing {headers : Http.Headers} {key : String}
    (presented : headers.find? "authorization" = some (bearing key)) (filled : key.toList ≠ [])
    (trimmed : Text.IsTrimmed key.toList) :
    bearer? headers = if key.toList.all Http.isVisible then some key else none := by
  have read : headers.text? "authorization" =
      if key.toList.all Http.isVisible then
        some (String.ofList ("Bearer ".toList ++ key.toList)) else none := by
    rw [Http.Headers.text?, presented, Option.bind_some, bearing, Http.visibleText?_encode,
      List.all_append]
    rfl
  rw [bearer?, read]
  by_cases readable : key.toList.all Http.isVisible = true
  · have label : "Bearer ".toList = 'B' :: ['e', 'a', 'r', 'e', 'r', ' '] := by decide
    simp [readable, label, trimmed.trimChars_eq, filled]
  · simp only [if_neg readable]

/-- The authenticator after callers have been identified at some seconds by their headers. -/
def after (authenticator : Authenticator) (callers : List (Nat × Http.Headers)) : Authenticator :=
  callers.foldl (fun authenticator caller => (authenticator.identify caller.1 caller.2).2)
    authenticator

/-- Who a caller is does not depend on all that have been identified before. -/
theorem identify_after (authenticator : Authenticator) (callers : List (Nat × Http.Headers))
    (now : Nat) (headers : Http.Headers) :
    ((authenticator.after callers).identify now headers).1 =
      (authenticator.identify now headers).1 := by
  induction callers generalizing authenticator with
  | nil => rfl
  | cons caller callers ih =>
      rw [after, List.foldl_cons, ← after, ih, identify_identify]

/-- Whom a configured key identifies, whoever has been identified before. A key that can be read
from a header stands for its last owner, and is never refused. Any other is not read at all, so its
bearer is refused. Therefore an entry identifies its own owner exactly if its key can be read from a
header and the last entry with the digest of that key has the same owner. -/
theorem entry_identifies_owner_iff {settings : Settings} (accepted : settings.Accepted)
    (chosen : settings.auth.module = .apiKey) {text : String}
    (inside : text ∈ settings.auth.apiKeys) :
    ∃ entry, KeyEntry.ofText? text = some entry ∧ ∀ callers now headers,
      Http.Headers.find? headers "authorization" = some (bearing entry.key) →
      let answer := (((ofSettings settings.auth).after callers).identify now headers).1
      let readable := entry.key.toList.all Http.isVisible = true
      let lastOwner := KeyRing.lastOwner? settings.auth.apiKeys entry.key
      ((∃ identity, answer = .ok identity ∧ identity.userId = entry.owner) ↔
        readable ∧ lastOwner = some entry.owner) ∧
      (readable → ∃ owner, lastOwner = some owner ∧ answer = .ok ⟨owner, owner⟩) ∧
      (¬ readable → answer = .error .noCredentials) := by
  obtain ⟨entry, found⟩ := accepted.exists_entry chosen inside
  refine ⟨entry, found, fun callers now headers presented => ?_⟩
  obtain ⟨filled, trimmed⟩ := KeyEntry.key_of_ofText? found
  have ring : ofSettings settings.auth = .apiKey (.ofEntries settings.auth.apiKeys) := by
    rw [ofSettings, chosen]
  -- The entry itself is one of those with the digest of its key.
  obtain ⟨owner, last⟩ : ∃ owner,
      KeyRing.lastOwner? settings.auth.apiKeys entry.key = some owner := by
    have among : entry ∈ (settings.auth.apiKeys.filterMap KeyEntry.ofText?).filter fun other =>
        KeyRing.digest other.key = KeyRing.digest entry.key :=
      List.mem_filter.2 ⟨List.mem_filterMap.2 ⟨text, inside, found⟩, by simp⟩
    have some := List.getLast?_eq_some_getLast (List.ne_nil_of_mem among)
    exact ⟨_, by rw [KeyRing.lastOwner?, some]; rfl⟩
  have answered : (((ofSettings settings.auth).after callers).identify now headers).1 =
      if entry.key.toList.all Http.isVisible then .ok ⟨owner, owner⟩
      else .error .noCredentials := by
    rw [identify_after, ring, identify_apiKey, bearer?_bearing presented filled trimmed]
    by_cases readable : entry.key.toList.all Http.isVisible = true
    · simp only [if_pos readable, KeyRing.owner_use_ofEntries, last]
    · simp only [if_neg readable]
  simp only [answered, last]
  by_cases readable : entry.key.toList.all Http.isVisible = true <;> simp [readable]

/-- The settings of a server whose callers present keys. -/
def keyed (apiKeys : List String) : Settings :=
  { auth := { module := .apiKey, apiKeys } }

/-- Alice is identified by her key, also after somebody else has been refused. -/
theorem alice_identified_by_key :
    (keyed ["bob:k2", "alice:k1"]).Accepted ∧
      (keyed ["bob:k2", "alice:k1"]).auth.module = .apiKey ∧
      "alice:k1" ∈ (keyed ["bob:k2", "alice:k1"]).auth.apiKeys ∧
      (((ofSettings (keyed ["bob:k2", "alice:k1"]).auth).after [(0, [])]).identify 1
        [("Authorization", bearing "k1")]).1 = .ok ⟨"alice", "alice"⟩ := by
  have accepted : (keyed ["bob:k2", "alice:k1"]).Accepted := by
    let pairs := [("STREAMGATE_AUTH_MODULE", "api_key"),
      ("STREAMGATE_API_KEYS", "bob:k2, alice:k1")]
    exact .inr ⟨(List.lookup · pairs), eq_ok_of_toOption (by decide +kernel)⟩
  have inside : "alice:k1" ∈ (keyed ["bob:k2", "alice:k1"]).auth.apiKeys := by decide
  obtain ⟨entry, found, identifies⟩ := entry_identifies_owner_iff accepted rfl inside
  obtain rfl : ⟨"alice", "k1"⟩ = entry := by
    have read : KeyEntry.ofText? "alice:k1" = some ⟨"alice", "k1"⟩ := by decide
    exact Option.some.inj (read.symm.trans found)
  obtain ⟨-, answered, -⟩ := identifies [(0, [])] 1 [("Authorization", bearing "k1")] (by decide)
  obtain ⟨owner, last, answer⟩ := answered (by decide)
  have alice : KeyRing.lastOwner? ["bob:k2", "alice:k1"] "k1" = some "alice" := by
    decide +kernel
  obtain rfl := Option.some.inj (alice.symm.trans last)
  exact ⟨accepted, rfl, inside, answer⟩

/-- Not every key in accepted settings identifies its owner. A key with a letter beyond ASCII is
refused, and of two owners of one key only the last one is ever identified by it. -/
theorem keys_without_their_owners :
    Settings.ofToml "[auth]\nmodule = \"api_key\"\napi_keys = [\"carol:clé\"]" =
        .ok (keyed ["carol:clé"]) ∧
      KeyEntry.ofText? "carol:clé" = some ⟨"carol", "clé"⟩ ∧
      ((ofSettings (keyed ["carol:clé"]).auth).identify 0
        [("authorization", bearing "clé")]).1 = .error .noCredentials ∧
      Settings.ofToml
          "[auth]\nmodule = \"api_key\"\napi_keys = [\"alice:k1\", \"bob:k1\"]" =
        .ok (keyed ["alice:k1", "bob:k1"]) ∧
      KeyEntry.ofText? "alice:k1" = some ⟨"alice", "k1"⟩ ∧
      ((ofSettings (keyed ["alice:k1", "bob:k1"]).auth).identify 0
        [("authorization", bearing "k1")]).1 = .ok ⟨"bob", "bob"⟩ := by
  refine ⟨eq_ok_of_toOption ?_, by decide, rfl, eq_ok_of_toOption ?_, by decide,
    eq_ok_of_toOption ?_⟩ <;> decide +kernel

end Authenticator

end TokenRelay
