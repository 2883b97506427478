import Registrar.Command.Invocation
import Registrar.Form.Case
import Registrar.Form.Tables
import Registrar.Json.Writer

/-!
# Reports

What the commands print: a decision or a policy, for people or as JSON.  A report ends with the
end of a line.
-/

namespace Registrar

/-- The text with spaces behind it up to a width. -/
def Text.padded (width : Nat) (s : String) : String :=
  s ++ .ofList (List.replicate (width - s.length) ' ')

/-- The lines as a text, each with its end. -/
def Text.lines (ls : List String) : String := String.join (ls.map (· ++ "\n"))

/-- A value as people read it: a text without its quotes, and everything else as JSON. -/
def Json.shown : Json → String
  | .string s => s
  | v => v.compact

namespace Decision

/-- The lines that say what was decided. -/
def headline (pipeline : PipelineKind) (d : Decision) : List String :=
  if d.approved then ["APPROVED [" ++ pipeline.name ++ "] request " ++ d.requestId]
  else
    ("REJECTED [" ++ pipeline.name ++ "] request " ++ d.requestId ++ " (status " ++
      Text.numeral d.status ++ ")") ::
      match d.code, d.message with
      | some code, some message => ["  " ++ code ++ ": " ++ message]
      | _, _ => []

/-- The decision for people. -/
def report (pipeline : PipelineKind) (d : Decision) : String :=
  Text.lines (d.headline pipeline ++
    d.metadata.entries.map fun (name, value) => "  " ++ name ++ " = " ++ value.shown)

/-- The decision as JSON. -/
def jsonReport (d : Decision) : String := d.toJson.pretty ++ "\n"

end Decision

/-- What happens to enrollments in courses that cannot be found, as a heading. -/
def UnresolvedCourse.heading : UnresolvedCourse → String
  | allow => "Allow"
  | reject => "Reject"

namespace Tables

/-- A line with a name in front. -/
def entryLine (name value : String) : String := "  " ++ Text.padded 18 name ++ " " ++ value

/-- The lines that tell which entries are not built in. -/
def overrideLines (t : Tables) : List String :=
  match t.provenance.values.filter (·.source ≠ .builtin) with
  | [] => []
  | notes => "Overrides" :: notes.map fun p => "  " ++ Text.padded 30 p.path ++ " " ++ p.source.name

/-- The policy for people. -/
def report (t : Tables) : String :=
  Text.lines (["Policy Revision: " ++ Text.numeral t.revision.toNat, "", "Resource → roles"] ++
    t.resourceRoles.entries.map (fun (name, roles) =>
      entryLine name (", ".intercalate (roles.toList.map Role.name))) ++
    ["Role → permissions"] ++
    t.rolePermissions.entries.map (fun (role, permissions) =>
      entryLine role.name (", ".intercalate (TextSet.toList permissions))) ++
    ["Action → permission"] ++
    t.actionPermissions.entries.map (fun (action, permission) => entryLine action permission) ++
    ["Capacity → default=" ++ Text.numeral t.capacity.defaultLimit.toNat ++
      ", unresolved_course=" ++ t.capacity.unresolvedCourse.heading] ++
    t.capacity.limits.entries.map (fun (modality, limit) =>
      entryLine modality (Text.numeral limit.toNat)) ++
    t.overrideLines)

/-- The policy as JSON, with the files that it was loaded from. -/
def jsonReport (sources : List String) (t : Tables) : String :=
  (Json.object [("policy", t.toJson), ("sources", .strings sources)]).pretty ++ "\n"

end Tables

end Registrar
