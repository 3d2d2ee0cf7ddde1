import InstallPlan.Specification.Packages

/-!
# Specification — System

The identity of a new system: its clock, locale, keyboard and name, and the
password of its administrator. Without a password, or with an empty one, the
password is asked for during the installation.
-/

namespace InstallPlan

/-- The identity of a system. -/
structure System where
  timezone : String
  locale : String
  charset : String
  keymap : String
  hostname : String
  rootPassword : Option String := none
  deriving DecidableEq, Repr, Inhabited

namespace System

/-- The administrator's password. -/
def password (system : System) : Option String := present system.rootPassword

/-- How a system is written in a document. -/
def shape : Shape System where
  title := "SystemSpec"
  blank := ⟨"", "", "", "", "", none⟩
  fields := [
    .mandatory "timezone" Document.asText fun value system => { system with timezone := value },
    .mandatory "locale" Document.asText fun value system => { system with locale := value },
    .mandatory "charset" Document.asText fun value system => { system with charset := value },
    .mandatory "keymap" Document.asText fun value system => { system with keymap := value },
    .mandatory "hostname" Document.asText fun value system => { system with hostname := value },
    .optional "root_password" Document.asTextOrNull fun value system =>
      { system with rootPassword := value }]

end System

end InstallPlan
