import Registrar.Pipeline
import Registrar.Stage.Access
import Registrar.Stage.Authoring
import Registrar.Stage.Enrollment
import Registrar.Stage.Identity
import Registrar.Stage.Listing

/-!
# The service

Three pipelines stand ready: one for requests in general, which also guards enrollment, one for
authoring courses and one for listing them.  `Service.evaluate` judges a case by one of them.
-/

namespace Registrar

/-- The pipelines that stand ready. -/
inductive PipelineKind where
  /-- For requests in general. -/
  | general
  /-- For creating and editing courses. -/
  | courseAuthoring
  /-- For listing courses. -/
  | courseListing
  deriving DecidableEq

namespace PipelineKind

/-- The pipelines, in the order in which they are listed. -/
def all : List PipelineKind := [general, courseAuthoring, courseListing]

/-- The name of a pipeline. -/
def name : PipelineKind → String
  | general => "general"
  | courseAuthoring => "courseAuthoring"
  | courseListing => "courseListing"

/-- The pipeline with exactly this name. -/
def named? (name : String) : Option PipelineKind := all.find? (·.name = name)

/-- The pipeline with this name, in any letter case, with blanks around it, and with hyphens and
underscores anywhere. -/
def read? (raw : String) : Option PipelineKind :=
  let word := Text.lowerAscii
    (.ofList ((Text.trimChars raw.toList).filter fun c => c ≠ '-' && c ≠ '_'))
  if word = "general" then some general
  else if word = "courseauthoring" then some courseAuthoring
  else if word = "courselisting" then some courseListing
  else none

/-- What the caller is told when no pipeline has a name. -/
def unknownMessage (raw : String) : String :=
  "unknown pipeline '" ++ raw ++ "' (expected general, courseAuthoring or courseListing)"

end PipelineKind

/-- What the pipelines judge by. -/
structure Service where
  /-- The policy. -/
  tables : Tables
  /-- The records of the campus. -/
  records : Records
  /-- The date of the day. -/
  today : Date

namespace Service

/-- The pipeline of a kind. -/
def pipeline (s : Service) : PipelineKind → Pipeline
  | .general => .build PipelineKind.general.name (.identity s.records)
      [.role s.tables, .permission s.tables, .schedule s.records s.today,
        .seatCapacity s.tables s.records]
  | .courseAuthoring => .build PipelineKind.courseAuthoring.name (.identity s.records)
      [.role s.tables, .permission s.tables, .academicPeriod s.today, .assignOwner]
  | .courseListing => .build PipelineKind.courseListing.name (.identity s.records)
      [.view .admin, .view .teacher, .view .student, .denyUnclaimed]

/-- The case with the verdict of a pipeline. -/
def evaluate (s : Service) (kind : PipelineKind) (c : Case) : Consult RunError Case :=
  (s.pipeline kind).run c

end Service

end Registrar
