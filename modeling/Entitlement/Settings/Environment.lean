/-
This file takes settings from the environment of the program: a file that a variable names, or
the default, and on top of it the variables for single settings.
-/

import Entitlement.Disk
import Entitlement.Settings.Json

namespace Entitlement

namespace Settings

/-- The settings in a file. -/
def ofFile (disk : Disk) (path : String) : Except SettingsError Settings :=
  match disk.read path with
  | .error reason => .error (.unreadableFile path reason.message)
  | .ok text => ofText text

/-- The names between commas, without blanks around them and without empty ones. -/
def splitNames (list : String) : List String :=
  ((Text.split ',' list).map Text.trim).filter fun name => !name.isEmpty

/-- A whole number of 64 bits, perhaps after a plus sign and with zeros in front. -/
def seconds? (text : String) : Option Nat :=
  let digits := match text.toList with
    | '+' :: rest => rest
    | characters => characters
  let value := Nat.ofDigitChars 10 digits 0
  if !digits.isEmpty && digits.all Char.isDigit && value < Nat.pow 2 64 then some value
  else none

/-- The settings that the variables and the files give. -/
def ofEnvironment (lookUp : String → Option String) (disk : Disk) :
    Except SettingsError Settings := do
  let settings ← match lookUp "WARDEN_CONFIG" with
    | some path => ofFile disk path
    | none => .ok default
  let settings := match lookUp "WARDEN_ADMIN_GROUPS" with
    | some groups => { settings with adminGroups := splitNames groups }
    | none => settings
  let settings ← match lookUp "WARDEN_STORE_TIMEOUT_SECS" with
    | some timeout =>
      match seconds? timeout with
      | some seconds => .ok { settings with timeoutSeconds := seconds }
      | none =>
        .error (.invalidValue "WARDEN_STORE_TIMEOUT_SECS" ("not a number: " ++ timeout))
    | none => .ok settings
  return match lookUp "WARDEN_STORE_PATH" with
    | some path => { settings with storePath := some path }
    | none => settings

end Settings

end Entitlement
