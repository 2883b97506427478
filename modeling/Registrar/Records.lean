import Registrar.Subject

/-!
# Records of the campus

While a request is judged, the records of the campus are asked about subjects and courses.  An
answer may be that there is no such thing, and it may be that the records are out of order; the
two are never mixed up.

* `Records`: the answers to the four questions that are asked.
* `Lookup`: one question that was asked.
* `Consult`: a result together with the questions that were asked on the way, in order.  The
  first failure ends it.
-/

namespace Registrar

/-- Why the records give no answer. -/
inductive Outage where
  /-- They cannot be reached. -/
  | unavailable (detail : String)
  /-- They are broken. -/
  | backend (detail : String)
  deriving DecidableEq

/-- What the caller is told. -/
def Outage.message : Outage → String
  | unavailable detail => "collaborator unavailable: " ++ detail
  | backend detail => "collaborator backend error: " ++ detail

/-- A question that was asked. -/
inductive Lookup where
  /-- Whose token is this? -/
  | subject (token : String)
  /-- How is the course held? -/
  | modality (course : Int64)
  /-- How many seats of the course are taken? -/
  | enrollment (course : Int64)
  /-- In which period is the course held? -/
  | period (course : Int64)
  deriving DecidableEq

/-- The answers of the records. -/
structure Records where
  /-- The subject to whom a token belongs. -/
  subject : String → Except Outage (Option Subject)
  /-- The modality of a course, as it is written. -/
  modality : Int64 → Except Outage (Option String)
  /-- The number of seats of a course that are taken. -/
  enrollment : Int64 → Except Outage UInt32
  /-- The period of a course, as it is written. -/
  period : Int64 → Except Outage (Option String)

/-- The judging of a request was interrupted by an outage. -/
structure Interruption where
  /-- The stage that asked. -/
  stage : String
  /-- Why there was no answer. -/
  outage : Outage
  deriving DecidableEq

/-- What the caller is told. -/
def Interruption.message (i : Interruption) : String :=
  "stage " ++ i.stage ++ " failed: " ++ i.outage.message

/-! ### Results with the questions asked on the way -/

/-- A result, or why there is none, and the questions that were asked. -/
structure Consult (ε α : Type) where
  /-- The questions, in order. -/
  lookups : List Lookup
  /-- The result. -/
  result : Except ε α

namespace Consult

variable {ε α β : Type}

/-- A result for which nothing is asked. -/
def pure (a : α) : Consult ε α := ⟨[], .ok a⟩

/-- No result, and nothing is asked. -/
def fail (e : ε) : Consult ε α := ⟨[], .error e⟩

/-- The second step follows when the first has a result. -/
def bind (x : Consult ε α) (f : α → Consult ε β) : Consult ε β :=
  match x.result with
  | .ok a => ⟨x.lookups ++ (f a).lookups, (f a).result⟩
  | .error e => ⟨x.lookups, .error e⟩

instance : Monad (Consult ε) where
  pure := Consult.pure
  bind := Consult.bind

/-- The same with another word for the failure. -/
def mapError {ε' : Type} (f : ε → ε') (x : Consult ε α) : Consult ε' α :=
  ⟨x.lookups, x.result.mapError f⟩

/-- A question that a stage asks. -/
def ask (stage : String) (question : Lookup) (answer : Except Outage α) :
    Consult Interruption α :=
  ⟨[question], answer.mapError (⟨stage, ·⟩)⟩

end Consult

end Registrar
