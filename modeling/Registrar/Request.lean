import Registrar.Json.Basic
import Registrar.Rejection
import Registrar.Role

/-!
# Requests and the verdicts on them

A `Request` is what a subject asks for, with everything that is known about it: the facts that
the caller gave, and those that are found out while it is judged.  A `Case` is a request with what
has been decided about it: whether it is granted, and why it is refused.  Both are kept side by
side, and nothing but the guards of `Case.approve` and `Case.reject` keeps a request from being
granted and refused at once.

* `Fact` lists the facts that this library reads or writes.
* `Request.fact?`, `Request.note`: read and write a fact.  A fact that is null counts as unknown.
* `Request.courseId?`: the course that a request is about.
* `Case.approve`, `Case.reject`, `Case.close`: a verdict is given, unless there is one.
-/

namespace Registrar

/-- What is known about a request, by name. -/
abbrev Metadata := Table String Json

/-- A fact about a request that this library reads or writes. -/
inductive Fact where
  /-- The number of the subject. -/
  | subjectId
  /-- The name of the subject. -/
  | subjectName
  /-- The address of the subject. -/
  | subjectEmail
  /-- The number of the course. -/
  | courseId
  /-- The modality of the course. -/
  | courseType
  /-- The period in which the course is held. -/
  | coursePeriod
  /-- The number of seats of the course. -/
  | seatLimit
  /-- The number of seats that are taken. -/
  | enrollmentCount
  /-- The number of seats that are free. -/
  | seatsAvailable
  /-- The period for which a course is authored. -/
  | periodRequested
  /-- The same period, when it is open. -/
  | validatedPeriod
  /-- The year of that period. -/
  | periodYear
  /-- The term of that period. -/
  | periodTerm
  /-- The number of the teacher who is to own a course. -/
  | ownerIdRequested
  /-- The owner was not named but assigned. -/
  | autoAssigned
  /-- How much of the course list is shown. -/
  | viewFilter
  /-- The teacher whose courses are shown. -/
  | viewOwnerId
  /-- The student whose courses are shown. -/
  | viewStudentId
  deriving DecidableEq

/-- The name under which a fact is kept. -/
def Fact.name : Fact → String
  | subjectId => "subjectId"
  | subjectName => "subjectName"
  | subjectEmail => "subjectEmail"
  | courseId => "courseId"
  | courseType => "courseType"
  | coursePeriod => "coursePeriod"
  | seatLimit => "seatLimit"
  | enrollmentCount => "enrollmentCount"
  | seatsAvailable => "seatsAvailable"
  | periodRequested => "periodRequested"
  | validatedPeriod => "validatedPeriod"
  | periodYear => "periodYear"
  | periodTerm => "periodTerm"
  | ownerIdRequested => "ownerIdRequested"
  | autoAssigned => "autoAssigned"
  | viewFilter => "viewFilter"
  | viewOwnerId => "viewOwnerId"
  | viewStudentId => "viewStudentId"

/-- What a subject asks for, and what is known about it. -/
structure Request where
  /-- The name of the request. -/
  id : String
  /-- The token that the subject shows. -/
  token : String
  /-- The role in which the subject acts, when it is known. -/
  role : Option Role
  /-- What is to be used. -/
  resource : String
  /-- What is to be done with it. -/
  action : String
  /-- What else is known. -/
  metadata : Metadata

namespace Request

/-- A request about which nothing else is known. -/
def new (id token resource action : String) : Request :=
  ⟨id, token, none, resource, action, .empty⟩

/-! ### Facts -/

/-- The value under a name, unless it is null. -/
def value? (r : Request) (name : String) : Option Json :=
  (r.metadata.get? name).filter (!·.isNull)

/-- A fact, unless it is null. -/
def fact? (r : Request) (f : Fact) : Option Json := r.value? f.name

/-- The whole number that a fact stands for. -/
def int64? (r : Request) (f : Fact) : Option Int64 := (r.fact? f).bind Json.int64?

/-- The request with a value under a name. -/
def set (r : Request) (name : String) (v : Json) : Request :=
  { r with metadata := r.metadata.insert name v }

/-- The request with a fact. -/
def note (r : Request) (f : Fact) (v : Json) : Request := r.set f.name v

/-! ### Role and action -/

/-- The request in a role, whatever it was before. -/
def inRole (r : Request) (role : Role) : Request := { r with role := some role }

/-- The request in a role, unless it has one already. -/
def claimRole (r : Request) (role : Role) : Request :=
  { r with role := some (r.role.getD role) }

/-- The action is the given verb, in any letter case and with blanks around it. -/
def does (r : Request) (verb : String) : Bool := Text.sameWord (Text.trim r.action) verb

/-- The request authors a course: it creates or edits one. -/
def authors (r : Request) : Bool := r.does "create" || r.does "edit"

/-! ### The course -/

/-- The marks between the parts of a resource. -/
def isPartMark (c : Char) : Bool := c = '/' || c = '.' || c = ':'

/-- The number that a part of a resource is. -/
def partNumber? (part : List Char) : Option Int64 :=
  (Text.digits? part).bind fun n => Text.int64OfInt? n

/-- The course that a request is about: the one that the facts name, or, if they name none, the
first part of the resource that is a number.  A named course that is no number is no course. -/
def courseId? (r : Request) : Option Int64 :=
  match r.fact? .courseId with
  | some v => v.int64?
  | none => (Text.segments isPartMark r.resource.toList).findSome? partNumber?

end Request

/-! ### Verdicts -/

/-- What becomes of a request. -/
inductive Verdict where
  /-- It is granted. -/
  | approved
  /-- It is refused. -/
  | rejected (reason : Rejection)
  deriving DecidableEq

/-- Why a verdict refuses, if it does. -/
def Verdict.reason? : Verdict → Option Rejection
  | approved => none
  | rejected reason => some reason

/-! ### Cases -/

/-- A request, and what has been decided about it. -/
structure Case where
  /-- The request. -/
  request : Request
  /-- The request is granted. -/
  isApproved : Bool
  /-- Why the request is refused, when it is. -/
  rejection? : Option Rejection

namespace Case

/-- A request about which nothing is decided. -/
def ofRequest (r : Request) : Case := ⟨r, false, none⟩

/-- The request is granted or refused. -/
def isDecided (c : Case) : Bool := c.isApproved || c.rejection?.isSome

/-- The verdict on the request, when there is one and only one. -/
def verdict (c : Case) : Option Verdict :=
  match c.isApproved, c.rejection? with
  | true, none => some .approved
  | false, some reason => some (.rejected reason)
  | _, _ => none

/-- The request is changed; what is decided stays. -/
def modify (c : Case) (f : Request → Request) : Case := { c with request := f c.request }

/-- The request is granted, unless it is decided already. -/
def approve (c : Case) : Case := if c.isDecided then c else { c with isApproved := true }

/-- The request is refused, unless it is decided already. -/
def reject (c : Case) (reason : Rejection) : Case :=
  if c.isDecided then c else { c with rejection? := some reason }

/-- A verdict is given, unless the request is decided already. -/
def close (c : Case) : Verdict → Case
  | .approved => c.approve
  | .rejected reason => c.reject reason

variable {c : Case} {v : Verdict}

theorem isDecided_eq_false_iff :
    c.isDecided = false ↔ c.isApproved = false ∧ c.rejection? = none := by
  simp [isDecided]

@[simp] theorem isDecided_modify (f : Request → Request) : (c.modify f).isDecided = c.isDecided :=
  rfl

theorem verdict_eq_some_iff :
    c.verdict = some v ↔ c.isApproved = decide (v = .approved) ∧ c.rejection? = v.reason? := by
  obtain ⟨r, approved, reason⟩ := c
  cases approved <;> cases reason <;> cases v <;> simp [verdict, Verdict.reason?]

theorem exists_eq_ofRequest (h : c.isDecided = false) : ∃ r, c = ofRequest r := by
  obtain ⟨r, approved, reason⟩ := c
  obtain ⟨rfl, rfl⟩ := isDecided_eq_false_iff.1 h
  exact ⟨r, rfl⟩

theorem isApproved_of_verdict (h : c.verdict = some v) : c.isApproved = decide (v = .approved) :=
  (verdict_eq_some_iff.1 h).1

theorem rejection?_of_verdict (h : c.verdict = some v) : c.rejection? = v.reason? :=
  (verdict_eq_some_iff.1 h).2

theorem isDecided_of_verdict (h : c.verdict = some v) : c.isDecided = true := by
  rw [isDecided, isApproved_of_verdict h, rejection?_of_verdict h]
  cases v <;> rfl

theorem eq_approved_of_verdict (h : c.verdict = some v) (ha : c.isApproved = true) :
    v = .approved := by
  rw [isApproved_of_verdict h] at ha
  exact of_decide_eq_true ha

theorem close_of_decided (h : c.isDecided = true) (v : Verdict) : c.close v = c := by
  cases v with
  | approved => exact if_pos h
  | rejected reason => exact if_pos h

theorem close_of_undecided (h : c.isDecided = false) (v : Verdict) :
    c.close v = ⟨c.request, v = .approved, v.reason?⟩ := by
  obtain ⟨r, approved, reason⟩ := c
  obtain ⟨rfl, rfl⟩ := isDecided_eq_false_iff.1 h
  cases v <;> rfl

@[simp] theorem request_close (c : Case) (v : Verdict) : (c.close v).request = c.request := by
  cases h : c.isDecided with
  | true => rw [close_of_decided h]
  | false => rw [close_of_undecided h]

theorem verdict_close (h : c.isDecided = false) (v : Verdict) : (c.close v).verdict = some v := by
  rw [verdict_eq_some_iff, close_of_undecided h]
  exact ⟨rfl, rfl⟩

theorem close_ofRequest_of_verdict (h : c.verdict = some v) :
    (ofRequest c.request).close v = c := by
  obtain ⟨r, approved, reason⟩ := c
  obtain ⟨rfl, rfl⟩ := verdict_eq_some_iff.1 h
  exact close_of_undecided rfl v

theorem modify_close (f : Request → Request) (v : Verdict) :
    (c.close v).modify f = (c.modify f).close v := by
  cases h : c.isDecided with
  | true => rw [close_of_decided h, close_of_decided (c := c.modify f) h]
  | false => rw [close_of_undecided h, close_of_undecided (c := c.modify f) h, modify, modify]

end Case

end Registrar
