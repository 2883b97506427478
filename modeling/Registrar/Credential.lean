import Registrar.Text.Basic

/-!
# Credentials

A subject shows a token, either bare or behind the word `Bearer`.  `Credential.read?` gives the
token itself, or nothing when there is none or it holds a blank or a control character.
-/

namespace Registrar.Credential

/-- The word that may stand before a token. -/
def scheme : String := "bearer"

/-- The characters are the word that may stand before a token, in any letter case. -/
def isScheme (cs : List Char) : Bool := Text.sameWord (.ofList cs) scheme

/-- What is shown, without the word before it; the bare word shows nothing. -/
def shown (trimmed : List Char) : List Char :=
  match Text.cutFirst? Text.isBlank trimmed with
  | some (word, rest) => if isScheme word then Text.trimChars rest else trimmed
  | none => if isScheme trimmed then [] else trimmed

/-- The token that a text shows. -/
def read? (raw : String) : Option String :=
  let token := shown (Text.trimChars raw.toList)
  if token = [] ∨ token.any (fun c => Text.isBlank c || Text.isControl c) then none
  else some (.ofList token)

end Registrar.Credential
