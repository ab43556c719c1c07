import Pasion.Data.Basic

/-! What an upstream provider is configured to import from its claims. -/
namespace Pasion

inductive ResponseMode where
  | query
  | formPost
  deriving DecidableEq

inductive ImportAction where
  | ignore
  | suggest
  | force
  | require
  deriving DecidableEq

/-- What to do with a username that is taken already. -/
inductive OnConflict where
  | fail
  | add
  | replace
  | set
  deriving DecidableEq

structure SubjectPreference where
  template : Option String
  deriving DecidableEq

structure ImportPreference where
  action : ImportAction
  template : Option String
  deriving DecidableEq

structure LocalpartPreference where
  action : ImportAction
  template : Option String
  onConflict : OnConflict
  deriving DecidableEq

structure ClaimsImports where
  subject : SubjectPreference
  skipConfirmation : Bool
  localpart : LocalpartPreference
  (displayname email avatar : ImportPreference)
  accountName : SubjectPreference
  deriving DecidableEq

def ClaimsImports.default : ClaimsImports :=
  ⟨⟨none⟩, false, ⟨.ignore, none, .fail⟩, ⟨.ignore, none⟩, ⟨.ignore, none⟩, ⟨.ignore, none⟩, ⟨none⟩⟩

end Pasion
