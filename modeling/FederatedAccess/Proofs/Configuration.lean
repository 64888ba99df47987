import FederatedAccess.Configuration
import FederatedAccess.Proofs.Duration.Reading
import FederatedAccess.Proofs.Json.Draft

/-!
# Settings in transport

The settings for proofs and those for tokens are one duration each, which is written as a text of
terms. Both come through a JSON text as they are (`Authenticator.ofDraft?_ofJson`,
`Validator.ofDraft?_ofJson`), since the terms add up to the duration and no sum on the way exceeds it.
-/

namespace FederatedAccess

open Json.Draft

namespace Json.Draft

/-- An object with one member makes up the record that declares this member alone. -/
theorem record?_single {name : String} {value : Json.Draft} {room : Nat} (hroom : 0 < room) :
    (object [(some name, value)]).record? [name] true room = some [some value] := by
  rw [record?, if_neg (Nat.ne_of_gt hroom)]
  simp [declared?]

end Json.Draft

theorem Duration.ofDraft?_text (d : Duration) : ofDraft? (.string d.text) = some d := by
  rw [ofDraft?, text?, Option.bind_eq_bind, Option.bind_some, ofText?_text]

theorem Authenticator.ofDraft?_ofJson {room : Nat} (hroom : 0 < room) (a : Authenticator) :
    ofDraft? room (ofJson a.toJson) = some a := by
  rw [toJson, ofJson, ofMembers, ofMembers, ofJson, ofDraft?, record?_single hroom]
  simp [defaulted, Duration.ofDraft?_text]

theorem Validator.ofDraft?_ofJson {room : Nat} (hroom : 0 < room) (v : Validator) :
    ofDraft? room (ofJson v.toJson) = some v := by
  rw [toJson, ofJson, ofMembers, ofMembers, ofJson, ofDraft?, record?_single hroom]
  simp [defaulted, Duration.ofDraft?_text]

namespace Duration

/-- **Configured durations.** Whatever duration is set for proofs or for tokens, it is read back from
the JSON text that is written for it. This text is a sum of terms, which the reader adds one by one;
each total on the way is the exact sum of the terms so far, and no longer than the duration. -/
theorem configured_durations_survive (d : Duration) :
    (readText (Authenticator.toJson { freshness := d }).text).bind
        (Authenticator.ofDraft? deepest) = some { freshness := d } ∧
    (readText (Validator.toJson { leeway := d }).text).bind
        (Validator.ofDraft? deepest) = some { leeway := d } ∧
    d.text = joined d.terms ∧ ofText? d.text = addAll? zero d.terms ∧
    ∀ count, ∃ total, addAll? zero (d.terms.take count) = some total ∧
      total.inNanos = ((d.terms.take count).map Term.nanos).sum ∧ total ≤ d := by
  refine ⟨?_, ?_, text_eq d, ?_, addAll?_take_terms d⟩
  · rw [readText, read_text rfl, Option.bind_some]
    exact Authenticator.ofDraft?_ofJson (by decide) _
  · rw [readText, read_text rfl, Option.bind_some]
    exact Validator.ofDraft?_ofJson (by decide) _
  · rw [text_eq]
    exact ofText?_joined (terms_ne_nil d) fun t => number_lt_of_mem_terms

end Duration

end FederatedAccess
