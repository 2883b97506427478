import Registrar.Calendar.Period
import Registrar.Policy.Tables
import Registrar.Stage.Basic

/-!
# Enrolling in a course

Two stages look at requests that enroll.  One refuses courses that are over; the other refuses
courses without a free seat and, if the policy says so, courses that cannot be found.  Requests
that do something else go on.
-/

namespace Registrar.Stage

/-- The request goes on unless the course, held in the period written as `raw`, is over.  A
period that cannot be read is as good as none. -/
def scheduleReply (today : Date) (course : Int64) (raw : Option String) (r : Request) : Reply :=
  match raw.map Period.read with
  | some (.ok period) =>
    let r := r.note .coursePeriod (.string period.label)
    if period.hasEnded today then
      .reject r .enrollmentClosed ("course " ++ Text.numeral course.toInt ++ " ran in " ++
        period.label ++ ", which has already ended")
    else .proceed r
  | _ => .proceed r

/-- Refuses courses that are over. -/
def schedule (records : Records) (today : Date) : Stage where
  name := "schedule"
  handle r :=
    if r.does "enroll" then
      match r.courseId? with
      | some course => do
        let raw ← Consult.ask "schedule" (.period course) (records.period course)
        return scheduleReply today course raw r
      | none => pure (.proceed r)
    else pure (.proceed r)

/-- What the policy says about a course that cannot be found. -/
def unresolvedReply (tables : Tables) (r : Request) (message : String) : Reply :=
  match tables.capacity.unresolvedCourse with
  | .allow => .proceed r
  | .reject => .reject r .courseNotFound message

/-- The request goes on if the course has a free seat. -/
def capacityReply (tables : Tables) (course : Int64) (modality : Modality) (enrolled : UInt32)
    (r : Request) : Reply :=
  let limit := tables.seatLimit modality
  let r := ((r.note .courseType (.string modality.key)).note .seatLimit (.int limit.toNat)).note
    .enrollmentCount (.int enrolled.toNat)
  if limit ≤ enrolled then
    .reject r .capacityExceeded ("course " ++ Text.numeral course.toInt ++ " (" ++ modality.key ++
      ") is full: " ++ Text.numeral enrolled.toNat ++ "/" ++ Text.numeral limit.toNat ++
      " seats taken")
  else .proceed (r.note .seatsAvailable (.int (limit - enrolled).toNat))

/-- Refuses courses without a free seat. -/
def seatCapacity (tables : Tables) (records : Records) : Stage where
  name := "seat_capacity"
  handle r :=
    if r.does "enroll" then
      match r.courseId? with
      | none =>
        pure (unresolvedReply tables r ("no course id in request for '" ++ r.resource ++ "'"))
      | some course => do
        match ← Consult.ask "seat_capacity" (.modality course) (records.modality course) with
        | none =>
          return unresolvedReply tables r ("course " ++ Text.numeral course.toInt ++ " not found")
        | some raw =>
          let enrolled ←
            Consult.ask "seat_capacity" (.enrollment course) (records.enrollment course)
          return capacityReply tables course (Modality.read raw) enrolled r
    else pure (.proceed r)

end Registrar.Stage
