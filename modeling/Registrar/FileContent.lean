/-!
# Files and variables

What the library is told about its surroundings: what stands at the path of a file, and which
variables the environment of the process holds.
-/

namespace Registrar

/-- What stands at the path of a file. -/
inductive FileContent where
  /-- Nothing. -/
  | absent
  /-- Something from which no text can be read, such as a folder or a file that is no text. -/
  | unreadable
  /-- A file with this text. -/
  | text (content : String)
  deriving DecidableEq

/-- The variables of a process with their values, in the order in which they are listed. -/
abbrev Environment := List (String × String)

/-- The value of a variable, when it is set. -/
def Environment.get? (env : Environment) (name : String) : Option String :=
  (env.find? (·.1 = name)).map (·.2)

end Registrar
