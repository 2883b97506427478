import Registrar.Json.Markup
import Registrar.Policy.Builtin
import Registrar.Policy.Overlay
import Registrar.Policy.Setting
import Registrar.Yaml.Markup

/-!
# Loading the policy tables

`Tables.load` starts from the built-in tables and changes them by the policy files in order,
then by the settings of the environment, and last by the policy in a variable.  A later change
replaces an earlier one, and the first thing that is wrong stops the loading.
-/

namespace Registrar

/-- The variable that holds a policy as JSON. -/
def policyVariable : String := "COURSEGATE_POLICY_OVERRIDE_JSON"

/-- The changes that a policy file asks for.  A file that is missing or blank asks for none. -/
def fileChanges : FileContent → Except LoadError (List Change)
  | .absent => .ok []
  | .unreadable => .error .unreadable
  | .text content =>
    if Text.blank content then .ok []
    else match Yaml.Document.decode? Overlay.read? content with
      | some overlay => overlay.changes
      | none => .error .malformed

/-- The changes that the policy in a variable asks for.  A variable that is not set or blank asks
for none. -/
def variableChanges (env : Environment) : Except LoadError (List Change) :=
  match env.get? policyVariable with
  | none => .ok []
  | some raw =>
    if Text.blank raw then .ok []
    else match (Json.read? raw).bind Overlay.read? with
      | some overlay => overlay.changes
      | none => .error .malformed

/-- The changes that the environment asks for, the settings before the policy. -/
def environmentChanges (env : Environment) : Except LoadError (List Change) := do
  let settings ← (Setting.list env).mapM Setting.change
  return settings ++ (← variableChanges env)

/-- The tables in force under policy files and, unless it is left out, an environment. -/
def Tables.load (files : List FileContent) (env : Option Environment) :
    Except LoadError Tables := do
  let fromFiles ← files.mapM fileChanges
  let fromEnvironment ← match env with
    | some env => environmentChanges env
    | none => .ok []
  return (Tables.initial.applyAll .file fromFiles.flatten).applyAll .env fromEnvironment

end Registrar
