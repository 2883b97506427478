import Registrar.FileContent
import Registrar.Yaml.Markup

/-!
# Configuration

The configuration says where the policy files and the directory file are and how much is logged.
It comes from a file, and two variables of the environment take precedence over it.

* `Configuration.read?`: the configuration in a text.
* `Configuration.override`: the configuration in an environment.
-/

namespace Registrar

/-- Where files are, and how much is logged. -/
structure Configuration where
  /-- The policy files, in the order in which they are applied. -/
  policyPaths : List String
  /-- The directory file. -/
  directoryPath : Option String
  /-- How much is logged. -/
  logLevel : Option String
  deriving DecidableEq

namespace Configuration

/-- The configuration that names nothing. -/
def blank : Configuration := ⟨[], none, none⟩

open Markup in
/-- What a file says.  Every field may be missing and no others may be there. -/
def ofMarkup? {δ : Type} [Markup δ] (d : δ) : Option Configuration := do
  let fields ← record? ["policy_paths", "directory_path", "log_level"] d
  return {
    policyPaths := ← fieldOr fields "policy_paths" (listOf? text?) []
    directoryPath := ← fieldOpt fields "directory_path" text?
    logLevel := ← fieldOpt fields "log_level" text? }

/-- The configuration in a text; a blank text names nothing. -/
def read? (text : String) : Option Configuration :=
  if Text.blank text then some blank else Yaml.Document.decode? ofMarkup? text

/-- The path that a variable holds, trimmed; a blank variable is as good as none. -/
def pathVariable? (env : Environment) (name : String) : Option String :=
  ((env.get? name).map Text.trim).filter (· ≠ "")

/-- The configuration with the paths that the environment names in the place of its own. -/
def override (c : Configuration) (env : Environment) : Configuration :=
  { c with
    policyPaths := match pathVariable? env "COURSEGATE_POLICY_PATH" with
      | some path => [path]
      | none => c.policyPaths
    directoryPath := pathVariable? env "COURSEGATE_DIRECTORY" <|> c.directoryPath }

end Configuration

end Registrar
