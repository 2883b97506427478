import Registrar.Stage.Basic
import Registrar.Text.Quoted

/-!
# Pipelines

A pipeline judges a request by stages, one after the other, until one of them grants or refuses
it; a request that passes them all is granted.  A request on which there is a verdict already is
not judged again.

* `Pipeline.build`, `Pipeline.append`: pipelines are put together from stages, from the last one
  on; `Pipeline.stages_build`: the stages are found in the order in which they were named.
* `Pipeline.judge`, `Pipeline.run`: a request, and a case, is judged.
-/

namespace Registrar

/-- Why a case is not judged. -/
inductive RunError where
  /-- There is a verdict on the request with this name. -/
  | alreadyDecided (id : String)
  /-- The records were out of order. -/
  | interrupted (cause : Interruption)
  deriving DecidableEq

namespace RunError

/-- What the caller is told. -/
def message : RunError → String
  | alreadyDecided id => "request " ++ id ++ " already carries a decision"
  | interrupted cause => cause.message

/-- The same may go well another time. -/
def retryable : RunError → Bool
  | alreadyDecided _ => false
  | interrupted _ => true

end RunError

/-- Stages in a fixed order, at least one. -/
structure Pipeline where
  /-- The name of the pipeline. -/
  name : String
  /-- The first stage. -/
  first : Stage
  /-- The stages after it. -/
  others : List Stage

namespace Pipeline

/-- All the stages, in order. -/
def stages (p : Pipeline) : List Stage := p.first :: p.others

/-- The names of the stages, in order. -/
def stageNames (p : Pipeline) : List String := p.stages.map (·.name)

/-- A row of stages, linked up from its end: each stage is put before those that come after it. -/
def link (ss : List Stage) : List Stage := ss.reverse.foldl (fun next s => s :: next) []

/-- The pipeline that is put together from these stages.  The first one is its entry, and the
others are linked up behind it. -/
def build (name : String) (first : Stage) (others : List Stage) : Pipeline :=
  ⟨name, first, link others⟩

/-- The pipeline that is put together from the stages of two, one behind the other. -/
def append (p q : Pipeline) : Pipeline := build p.name p.first (p.others ++ q.stages)

/-- The pipeline in one line for people: its name and the names of its stages. -/
def description (p : Pipeline) : String :=
  "Pipeline \x7b name: " ++ Text.quoted p.name ++ ", stages: [" ++
    ", ".intercalate (p.stageNames.map Text.quoted) ++ "] \x7d"

theorem link_cons (s : Stage) (ss : List Stage) : link (s :: ss) = s :: link ss := by
  rw [link, List.reverse_cons, List.foldl_append]
  rfl

/-- Linking keeps the order. -/
theorem link_eq (ss : List Stage) : link ss = ss := by
  induction ss with
  | nil => rfl
  | cons s ss ih => rw [link_cons, ih]

@[simp] theorem others_build (name : String) (first : Stage) (others : List Stage) :
    (build name first others).others = others :=
  link_eq others

@[simp] theorem stages_build (name : String) (first : Stage) (others : List Stage) :
    (build name first others).stages = first :: others :=
  congrArg (first :: ·) (link_eq others)

@[simp] theorem stages_append (p q : Pipeline) : (p.append q).stages = p.stages ++ q.stages :=
  stages_build p.name p.first (p.others ++ q.stages)

/-- The verdict that stages come to, and the request with what they noted. -/
def judge : List Stage → Request → Consult Interruption (Request × Verdict)
  | [], r => pure (r, .approved)
  | s :: ss, r => do
    let reply ← s.handle r
    match reply.outcome with
    | .proceed => judge ss reply.request
    | .approve => return (reply.request, .approved)
    | .reject reason => return (reply.request, .rejected reason)

/-- The case with the verdict of the pipeline. -/
def run (p : Pipeline) (c : Case) : Consult RunError Case :=
  if c.isDecided then .fail (.alreadyDecided c.request.id)
  else do
    let (r, v) ← (judge p.stages c.request).mapError .interrupted
    return (c.modify fun _ => r).close v

end Pipeline

end Registrar
