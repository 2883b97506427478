import Registrar.Records
import Registrar.Request

/-!
# Stages

A request is judged in stages.  A stage may look things up, may note facts on the request, and
says whether the request goes on, is granted at once, or is refused.  It sees the request alone
and not the verdict, so that only a pipeline gives verdicts.
-/

namespace Registrar

/-- What a stage says about a request. -/
inductive Outcome where
  /-- The request goes on to the next stage. -/
  | proceed
  /-- The request is granted, and no later stage is asked. -/
  | approve
  /-- The request is refused. -/
  | reject (reason : Rejection)
  deriving DecidableEq

/-- What a stage gives back. -/
structure Reply where
  /-- The request with the facts that the stage noted. -/
  request : Request
  /-- What the stage says about it. -/
  outcome : Outcome

/-- One step of judging a request. -/
structure Stage where
  /-- The name of the stage. -/
  name : String
  /-- What the stage makes of a request. -/
  handle : Request → Consult Interruption Reply

namespace Reply

/-- The request goes on. -/
def proceed (r : Request) : Reply := ⟨r, .proceed⟩

/-- The request is granted. -/
def approve (r : Request) : Reply := ⟨r, .approve⟩

/-- The request is refused. -/
def reject (r : Request) (kind : RejectionKind) (message : String) : Reply :=
  ⟨r, .reject ⟨kind, message⟩⟩

end Reply

namespace Stage

/-- A stage that asks the records nothing. -/
def ofReply (name : String) (reply : Request → Reply) : Stage := ⟨name, fun r => pure (reply r)⟩

/-- A stage that does the same to every request: it claims a role, notes facts, and says what it
was told to say. -/
def fixed (name : String) (role : Option Role) (facts : List (String × Json))
    (outcome : Outcome) : Stage :=
  .ofReply name fun r =>
    let claimed := match role with
      | some role => r.claimRole role
      | none => r
    ⟨facts.foldl (fun r f => r.set f.1 f.2) claimed, outcome⟩

/-- A stage that is always interrupted. -/
def failing (name : String) (outage : Outage) : Stage :=
  ⟨name, fun _ => .fail ⟨name, outage⟩⟩

end Stage

end Registrar
