/-
# Accepted settings

Supplies what is known about settings that a server can be given. They are what some document or
some environment denotes, and whichever it is, they have been checked.
-/

import TokenRelay.Settings.Document
import TokenRelay.Settings.Environment

namespace TokenRelay.Settings

/-- The settings are what a document or an environment denotes. -/
def Accepted (settings : Settings) : Prop :=
  (∃ text, ofToml text = .ok settings) ∨ ∃ environment, ofEnvironment environment = .ok settings

variable {settings : Settings}

/-- Accepted settings fulfil the conditions. -/
theorem Accepted.validate_eq (accepted : settings.Accepted) : settings.validate = .ok () := by
  rcases accepted with ⟨text, read⟩ | ⟨environment, read⟩
  · unfold ofToml at read
    split at read
    · cases read
    · split at read
      · cases read
      · next valid =>
        cases read
        exact valid
  · unfold ofEnvironment at read
    split at read
    · cases read
    · split at read
      · cases read
      · next valid =>
        cases read
        exact valid

/-- One of the conditions is that a channel has room. -/
theorem Accepted.channelCapacity_pos (accepted : settings.Accepted) :
    1 ≤ settings.channelCapacity.toNat := by
  have valid := accepted.validate_eq
  unfold validate at valid
  split at valid
  · cases valid
  · next roomy =>
    have ne_zero : settings.channelCapacity.toNat ≠ 0 := fun none => roomy (UInt64.toNat.inj none)
    omega

/-- If callers present keys, every entry for a key is in its form. -/
theorem Accepted.exists_entry (accepted : settings.Accepted)
    (chosen : settings.auth.module = .apiKey) {text : String}
    (inside : text ∈ settings.auth.apiKeys) : ∃ entry, KeyEntry.ofText? text = some entry := by
  have valid := accepted.validate_eq
  simp only [validate, validateAuth, chosen] at valid
  split at valid
  · cases valid
  · split at valid
    · cases valid
    · split at valid
      · cases valid
      · next none =>
        have some := List.find?_eq_none.1 none text inside
        simpa [Option.ne_none_iff_exists'] using some

end TokenRelay.Settings
