import Registrar.Request

/-!
# Decisions

What callers are told about a request that was judged, and the labels under which the event is
counted.

* `Decision.ofCase`: the summary of a case.  A request that was not refused has the status 200 and
  neither a code nor a message.
* `Decision.exitCode`: the code with which a command answers.
* `Case.labels`: the labels of a case.
-/

namespace Registrar

/-- The summary of a case for a caller. -/
structure Decision where
  /-- The name of the request. -/
  requestId : String
  /-- The request is granted. -/
  approved : Bool
  /-- The status that an HTTP service would answer with. -/
  status : Nat
  /-- The kind of the refusal. -/
  code : Option String
  /-- The explanation of the refusal. -/
  message : Option String
  /-- What is known about the request. -/
  metadata : Metadata

namespace Decision

/-- The summary of a case. -/
def ofCase (c : Case) : Decision where
  requestId := c.request.id
  approved := c.isApproved
  status := match c.rejection? with
    | some reason => reason.kind.status
    | none => 200
  code := c.rejection?.map (·.kind.label)
  message := c.rejection?.map (·.message)
  metadata := c.request.metadata

/-- The code with which a command ends: zero when the request is granted and two when it is
not. -/
def exitCode (d : Decision) : UInt32 := if d.approved then 0 else 2

end Decision

/-- The code under which a case is counted: the kind of a refusal, or that it was granted. -/
def Case.labelCode? (c : Case) : Option String :=
  match c.rejection? with
  | some reason => some reason.kind.label
  | none => if c.isApproved then some "approved" else none

/-- The labels under which a case is counted. -/
def Case.labels (pipeline : String) (c : Case) : Table String String :=
  .ofList ([("pipeline", pipeline), ("resource", c.request.resource),
    ("action", c.request.action)] ++
    (c.request.role.map fun role => ("role", role.name)).toList ++
    (c.labelCode?.map ("code", ·)).toList)

end Registrar
