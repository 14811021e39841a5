/-
# What a pseudonym depends on

Supplies that the pseudonym of a user depends on the normal form of the identifier and the secret
alone: blanks around an identifier and the case of its ASCII letters make no difference, and the
normal form has the pseudonym of the identifier itself. Where the digest does not collide, different
normal forms have different pseudonyms.
-/

import TokenRelay.Proofs.Digest
import TokenRelay.Proofs.Text.LowerCase
import TokenRelay.Proofs.Text.Utf8
import TokenRelay.Transcript.Store

namespace TokenRelay

namespace Text

theorem toList_trim (text : String) : (trim text).toList = trimChars text.toList :=
  String.toList_ofList

/-- Blanks around a text are trimmed away. -/
theorem trim_surrounded {before after : String} (blank : isBlankText before = true)
    (blank' : isBlankText after = true) (text : String) :
    trim (before ++ text ++ after) = trim text := by
  rw [trim, trim, String.toList_append, String.toList_append, trimChars_surrounded blank blank']

/-- In lower case a trimmed text is trimmed. -/
theorem trim_lower_trim (text : String) : trim (lower (trim text)) = lower (trim text) := by
  have trimmed := LowerCase.isTrimmed_forms (isTrimmed_trimChars text.toList) []
  rw [← LowerCase.ofChars_eq, ← toList_trim] at trimmed
  rw [lower, trim, String.toList_ofList, trimmed.trimChars_eq]

/-- Texts that differ in the case of ASCII letters only are the same when they have been trimmed and
brought to lower case. -/
theorem lower_trim_of_asciiLower {first second : String}
    (same : asciiLower first = asciiLower second) :
    lower (trim first) = lower (trim second) := by
  have folded (text : String) : LowerCase.ofChars (trim text).toList =
      LowerCase.ofChars (trimChars (text.toList.map Char.toLower)) := by
    rw [trimChars_map fun character => (LowerCase.alike_toLower character).blank.symm,
      LowerCase.ofChars_eq, LowerCase.ofChars_eq, toList_trim]
    exact (LowerCase.forms_map [] _).symm
  rw [lower, lower, folded, folded, String.ofList_injective same]

theorem Utf8.encode_injective : Function.Injective Utf8.encode :=
  Function.LeftInverse.injective Utf8.decodeLossy_encode

end Text

namespace TranscriptStore

/-- What the pseudonym of a user is the digest of: the secret and the normal form. -/
def message (store : TranscriptStore) (userId : String) : List UInt8 :=
  Text.Utf8.encode ((store.pepper.getD "").toList ++ (normalUser userId).toList)

theorem pseudonym_eq (store : TranscriptStore) (userId : String) :
    store.pseudonym userId =
      String.ofList (Text.Hex.encode (Digest.sha256 (store.message userId))) := rfl

/-- Messages tell the normal forms. -/
theorem message_eq_iff {store : TranscriptStore} {first second : String} :
    store.message first = store.message second ↔ normalUser first = normalUser second := by
  refine ⟨fun same => ?_, fun same => by rw [message, message, same]⟩
  exact String.toList_inj.1 (List.append_cancel_left (Text.Utf8.encode_injective same))

theorem pseudonym_of_normalUser {store : TranscriptStore} {first second : String}
    (same : normalUser first = normalUser second) :
    store.pseudonym first = store.pseudonym second := by
  rw [pseudonym_eq, pseudonym_eq, message_eq_iff.2 same]

theorem normalUser_normalUser (userId : String) :
    normalUser (normalUser userId) = normalUser userId := by
  rw [normalUser, normalUser, Text.trim_lower_trim, Text.lower_lower]

/-- The digest does not collide on the messages of two users. -/
def TellsApart (store : TranscriptStore) (first second : String) : Prop :=
  Digest.sha256 (store.message first) = Digest.sha256 (store.message second) →
    store.message first = store.message second

instance (store : TranscriptStore) (first second : String) :
    Decidable (store.TellsApart first second) :=
  inferInstanceAs (Decidable (_ → _))

/-- A pseudonym depends neither on blanks around the identifier nor on the case of ASCII letters,
and the normal form of an identifier has the same pseudonym; whatever the secret. And where the
digest does not collide, two users share a pseudonym only if their identifiers have the same normal
form. -/
theorem pseudonym_follows_normal_form (store : TranscriptStore) :
    (∀ before userId after, Text.isBlankText before = true → Text.isBlankText after = true →
      store.pseudonym (before ++ userId ++ after) = store.pseudonym userId) ∧
    (∀ first second, Text.asciiLower first = Text.asciiLower second →
      store.pseudonym first = store.pseudonym second) ∧
    (∀ userId, store.pseudonym (normalUser userId) = store.pseudonym userId) ∧
    ∀ first second, store.TellsApart first second →
      (store.pseudonym first = store.pseudonym second ↔ normalUser first = normalUser second) := by
  refine ⟨fun before userId after blank blank' => ?_, fun first second same => ?_,
    fun userId => pseudonym_of_normalUser (normalUser_normalUser userId),
    fun first second apart => ⟨fun same => ?_, pseudonym_of_normalUser⟩⟩
  · exact pseudonym_of_normalUser (congrArg Text.lower (Text.trim_surrounded blank blank' userId))
  · exact pseudonym_of_normalUser (Text.lower_trim_of_asciiLower same)
  · rw [pseudonym_eq, pseudonym_eq] at same
    exact message_eq_iff.1 (apart (Text.Hex.encode_injective (String.ofList_injective same)))

/-- A name in capital letters and between blanks has the pseudonym of the same name in small
letters; another user has another pseudonym. -/
theorem pseudonym_of_shouted_name :
    let store : TranscriptStore := { root := "t", pepper := some "salt" }
    Text.isBlankText "\u2003\t" = true ∧ Text.isBlankText "\n" = true ∧
      Text.asciiLower "ÄNNE K" = Text.asciiLower "Änne k" ∧ store.TellsApart "ÄNNE K" "bob" ∧
      store.pseudonym ("\u2003\t" ++ "ÄNNE K" ++ "\n") = store.pseudonym "Änne k" ∧
      store.pseudonym (normalUser "ÄNNE K") ≠ store.pseudonym "bob" := by
  intro store
  have blank : Text.isBlankText "\u2003\t" = true := by decide
  have blank' : Text.isBlankText "\n" = true := by decide
  have same : Text.asciiLower "ÄNNE K" = Text.asciiLower "Änne k" := by decide
  have form : normalUser "ÄNNE K" ≠ normalUser "bob" := by decide +kernel
  have apart : store.TellsApart "ÄNNE K" "bob" := by decide +kernel
  obtain ⟨surrounded, ascii, normal, tells⟩ := pseudonym_follows_normal_form store
  refine ⟨blank, blank', same, apart, ?_, ?_⟩
  · rw [surrounded _ _ _ blank blank', ascii _ _ same]
  · rw [normal, Ne, tells _ _ apart]
    exact form

end TranscriptStore

end TokenRelay
