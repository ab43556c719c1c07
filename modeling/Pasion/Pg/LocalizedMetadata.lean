import Pasion.Pg.OAuth2Client

/-! The localized metadata of a client comes back from its rows as it was stored. -/
namespace Pasion

open Relational Txn Table

variable {field : LocalizableField}

theorem LocalizableField.parse_eq_some {value : String} :
    parse value = some field ↔ value = field.asStr := by
  constructor
  · intro h
    have hname := List.find?_some h
    exact (of_decide_eq_true hname).symm
  · rintro rfl
    cases field <;> decide

theorem LocalizableField.asStr_injective : Function.Injective asStr := by
  intro field field' h
  have hparse := parse_eq_some.mpr h
  rw [parse_eq_some.mpr rfl] at hparse
  exact Option.some.inj hparse

namespace LocalizedClientMetadata

variable {parseUrl : String → Option Url} {m m' : LocalizedClientMetadata}
variable {field : LocalizableField} {locale value : String} {r : LocalizedMetadataRow}
  {clientId : Ulid}

def uris (m : LocalizedClientMetadata) : LocalizableField → Table String Url
  | .clientName => .empty
  | .logoUri => m.logoUri
  | .clientUri => m.clientUri
  | .policyUri => m.policyUri
  | .tosUri => m.tosUri

/-- The text that is stored for a field in a language. -/
def text (m : LocalizedClientMetadata) (field : LocalizableField) (locale : String) : Option String :=
  if field = .clientName then m.clientName.get? locale
  else ((m.uris field).get? locale).map Url.serialization

/-- Its addresses are read back from their texts. -/
def Reads (parseUrl : String → Option Url) (m : LocalizedClientMetadata) : Prop :=
  ∀ field locale url, (m.uris field).get? locale = some url → parseUrl url.serialization = some url

/-- The text is one that `set` does not drop. -/
def Accepts (parseUrl : String → Option Url) (field : LocalizableField) (value : String) : Prop :=
  field ≠ .clientName → ∃ url, parseUrl value = some url ∧ url.serialization = value

end LocalizedClientMetadata

end Pasion
