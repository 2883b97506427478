import Registrar.Decision
import Registrar.Form.Basic
import Registrar.Service

/-!
# JSON forms of cases and decisions

A case is written with what is decided about it, as a truth value and the reason for a refusal, and
without the token of the subject.  A decision has two forms: in one a missing code or message is
null, and in the other it is left out.
-/

namespace Registrar

/-- A text that may be missing, as a text or null. -/
def Json.ofText? : Option String → Json
  | some s => .string s
  | none => .null

/-- A case is written as a record. -/
def Case.toJson (c : Case) : Json :=
  .object [("action", .string c.request.action),
    ("approved", .bool c.isApproved),
    ("error_reason", match c.rejection? with
      | some reason => reason.toJson
      | none => .null),
    ("metadata", .ofTable c.request.metadata),
    ("request_id", .string c.request.id),
    ("resource", .string c.request.resource),
    ("subject_role", Json.ofText? (c.request.role.map Role.name))]

namespace Decision

/-- A decision with all its fields; a missing one is null. -/
def toJson (d : Decision) : Json :=
  .object [("approved", .bool d.approved), ("code", Json.ofText? d.code),
    ("message", Json.ofText? d.message), ("metadata", .ofTable d.metadata),
    ("request_id", .string d.requestId), ("status", .int d.status)]

/-- A decision without the fields that are missing. -/
def toShortJson (d : Decision) : Json :=
  .object ([("approved", .bool d.approved)] ++
    (d.code.map fun s => ("code", .string s)).toList ++
    (d.message.map fun s => ("message", .string s)).toList ++
    [("metadata", .ofTable d.metadata), ("request_id", .string d.requestId),
      ("status", .int d.status)])

end Decision

namespace PipelineKind

/-- A pipeline is written as its name. -/
def toJson (k : PipelineKind) : Json := .string k.name

/-- The pipeline with the given name. -/
def ofJson? (v : Json) : Option PipelineKind := v.choice?.bind named?

end PipelineKind

end Registrar
