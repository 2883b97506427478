import Registrar.Text.Basic
import Registrar.Text.Lowercase

/-!
# Modalities

How a course is held.  Three modalities have names of their own; any other text is kept, in
lower case, so that a seat limit can still be set for it.  `Modality.read` reads every text and
`Modality.key` is the name under which the seat limits are kept.
-/

namespace Registrar

/-- How a course is held. -/
inductive Modality where
  /-- On campus. -/
  | presencial
  /-- Partly on campus. -/
  | hibrido
  /-- Remotely. -/
  | virtual
  /-- In some other way, named by a trimmed text in lower case. -/
  | other (name : String)
  deriving DecidableEq

namespace Modality

/-- The modality that a text in lower case without blanks at its ends names. -/
def ofWord (word : String) : Modality :=
  if word = "presencial" then .presencial
  else if word = "hibrido" ∨ word = "híbrido" ∨ word = "hybrid" then .hibrido
  else if word = "virtual" then .virtual
  else .other word

/-- The modality that a text names, in any letter case and with blanks around it. -/
def read (raw : String) : Modality := ofWord (Text.lowercase (Text.trim raw))

/-- The name under which the seat limit of a modality is kept. -/
def key : Modality → String
  | .presencial => "presencial"
  | .hibrido => "hibrido"
  | .virtual => "virtual"
  | .other name => name

end Modality

end Registrar
