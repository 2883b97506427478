import Registrar.Configuration
import Registrar.Form.Case

/-!
# The JSON form of the configuration

The configuration is written as a record; a path or level that it does not name is null.
-/

namespace Registrar.Configuration

/-- A configuration is written as a record. -/
def toJson (c : Configuration) : Json :=
  .object [("directory_path", Json.ofText? c.directoryPath),
    ("log_level", Json.ofText? c.logLevel), ("policy_paths", .strings c.policyPaths)]

end Registrar.Configuration
