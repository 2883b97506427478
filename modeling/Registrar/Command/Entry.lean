import Registrar.Json.Reader
import Registrar.Json.Basic

/-!
# Facts on a command line

A fact is given as a name and a value with an equals sign between them.  The value is JSON if it
can be read as that, and a text otherwise.
-/

namespace Registrar

/-- Why an argument is no fact. -/
inductive EntryError where
  /-- There is no equals sign. -/
  | noSeparator (entry : String)
  /-- There is no name in front of the equals sign. -/
  | emptyName (entry : String)
  deriving DecidableEq

/-- What the caller is told. -/
def EntryError.message : EntryError → String
  | noSeparator entry => "metadata '" ++ entry ++ "' must look like key=value"
  | emptyName entry => "metadata '" ++ entry ++ "' has an empty key"

/-- The value that a trimmed text stands for. -/
def Json.ofWord (raw : String) : Json :=
  match read? raw with
  | some v => v.canonical
  | none => .string raw

/-- The name and the value of the fact that an argument gives. -/
def readEntry (entry : String) : Except EntryError (String × Json) :=
  match Text.cutFirst? (· = '=') entry.toList with
  | none => .error (.noSeparator entry)
  | some (name, value) =>
    let name := Text.trimChars name
    if name = [] then .error (.emptyName entry)
    else .ok (.ofList name, Json.ofWord (.ofList (Text.trimChars value)))

end Registrar
