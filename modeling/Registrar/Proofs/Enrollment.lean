import Registrar.Proofs.Access
import Registrar.Proofs.Outage

/-!
# Requests in general

The pipeline for requests in general holds the role against the resource and the action, and then
guards enrollment: the course must not be over, must be on the records if the policy says so, and
must have a free seat.

* `Service.NotOver`, `Service.Found`, `Service.HasSeat`: the three requirements on enrollments.
* `Service.generalRequirements`: all that the pipeline requires.
* `Service.evaluate_general_decidedBy`: **the pipeline decides by these requirements**, in this
  order.
-/

namespace Registrar

namespace Service

variable (s : Service) (r : Request)

/-- A request to enroll is not about a course that was held in a period that is over.  A course
whose period cannot be read counts as not over. -/
def NotOver : Prop :=
  r.verb = "enroll" → ∀ course raw period, r.courseId? = some course →
    s.records.period course = .ok (some raw) → Period.read raw = .ok period →
      period.hasEnded s.today = false

/-- A request to enroll is about a course on the records, or other courses are let through. -/
def Found : Prop :=
  r.verb = "enroll" →
    (∃ course raw, r.courseId? = some course ∧ s.records.modality course = .ok (some raw)) ∨
      s.tables.capacity.unresolvedCourse = .allow

/-- A request to enroll is not about a course on the records that is full. -/
def HasSeat : Prop :=
  r.verb = "enroll" → ∀ course raw enrolled, r.courseId? = some course →
    s.records.modality course = .ok (some raw) → s.records.enrollment course = .ok enrolled →
      enrolled < s.tables.seatLimit (Modality.read raw)

/-! The requirements look at the action and at the course alone, so they can be read off the
request before or after facts about the subject and the course were noted. -/

@[simp] theorem notOver_identify (subject : Subject) :
    s.NotOver (r.identify subject) ↔ s.NotOver r := by
  simp [NotOver]

@[simp] theorem found_identify (subject : Subject) :
    s.Found (r.identify subject) ↔ s.Found r := by
  simp [Found]

@[simp] theorem found_note_coursePeriod (v : Json) :
    s.Found (r.note .coursePeriod v) ↔ s.Found r := by
  simp [Found]

@[simp] theorem hasSeat_identify (subject : Subject) :
    s.HasSeat (r.identify subject) ↔ s.HasSeat r := by
  simp [HasSeat]

@[simp] theorem hasSeat_note_coursePeriod (v : Json) :
    s.HasSeat (r.note .coursePeriod v) ↔ s.HasSeat r := by
  simp [HasSeat]

end Service

namespace Stage

variable {s : Service} {r : Request} {course : Int64}

/-! ### The period of the course -/

theorem enforces_scheduleReply {raw : Option String} (hv : r.verb = "enroll")
    (hc : r.courseId? = some course) (hp : s.records.period course = .ok raw) :
    (scheduleReply s.today course raw r).Enforces [⟨.enrollmentClosed, s.NotOver r⟩]
      fun r₁ => r₁ = r ∨ ∃ p : Period, r₁ = r.note .coursePeriod (.string p.label) := by
  unfold scheduleReply
  split
  · next period hr =>
    obtain ⟨text, rfl, hread⟩ := Option.map_eq_some_iff.1 hr
    dsimp only
    split
    · next hended =>
      refine .reject (.head fun hnot => ?_)
      rw [hnot hv course text period hc hp hread] at hended
      cases hended
    · next hended =>
      refine Reply.Enforces.proceed ?_ (.inr ⟨period, rfl⟩)
      rw [List.forall_mem_singleton]
      intro _ course' text' period' hc' hp' hread'
      obtain rfl : course = course' := Option.some.inj (hc.symm.trans hc')
      obtain rfl : text = text' := by simpa using hp.symm.trans hp'
      obtain rfl : period = period' := by simpa using hread.symm.trans hread'
      simpa using hended
  · next hr =>
    refine Reply.Enforces.proceed ?_ (.inl rfl)
    rw [List.forall_mem_singleton]
    intro _ course' text' period' hc' hp' hread'
    obtain rfl : course = course' := Option.some.inj (hc.symm.trans hc')
    obtain rfl : raw = some text' := by simpa using hp.symm.trans hp'
    exact absurd (by rw [Option.map_some, hread']) (hr period')

theorem enforces_schedule :
    (schedule s.records s.today).Enforces r [⟨.enrollmentClosed, s.NotOver r⟩]
      fun r₁ => r₁ = r ∨ ∃ p : Period, r₁ = r.note .coursePeriod (.string p.label) := by
  intro reply h
  unfold schedule at h
  dsimp only at h
  split at h
  · next he =>
    split at h
    · next course hc =>
      obtain ⟨raw, ha, h⟩ := Consult.result_bind_eq_ok.1 h
      obtain rfl : scheduleReply s.today course raw r = reply := by simpa using h
      exact enforces_scheduleReply (Request.does_enroll_iff.1 he) hc
        (Consult.result_ask_eq_ok.1 ha)
    · next hc =>
      obtain rfl : Reply.proceed r = reply := by simpa using h
      exact Reply.Enforces.proceed (by simp [Service.NotOver, hc]) (.inl rfl)
  · next he =>
    obtain rfl : Reply.proceed r = reply := by simpa using h
    rw [Request.does_enroll_iff] at he
    exact Reply.Enforces.proceed (by simp [Service.NotOver, he]) (.inl rfl)

/-! ### The seats of the course -/

/-- A course that is not found has no seats that could be counted. -/
theorem enforces_unresolvedReply {message : String} (hv : r.verb = "enroll")
    (hn : ∀ course raw, r.courseId? = some course → s.records.modality course ≠ .ok (some raw)) :
    (unresolvedReply s.tables r message).Enforces
      [⟨.courseNotFound, s.Found r⟩, ⟨.capacityExceeded, s.HasSeat r⟩] fun _ => True := by
  have hseat : s.HasSeat r := fun _ course raw _ hc hm _ => absurd hm (hn course raw hc)
  unfold unresolvedReply
  split
  · next hallow =>
    exact Reply.Enforces.proceed (by simp [Service.Found, hallow, hseat]) trivial
  · next hreject =>
    refine .reject (.head fun hfound => ?_)
    rcases hfound hv with ⟨course, raw, hc, hm⟩ | hallow
    · exact hn course raw hc hm
    · rw [hreject] at hallow
      cases hallow

theorem enforces_capacityReply {raw : String} {enrolled : UInt32} (hv : r.verb = "enroll")
    (hc : r.courseId? = some course) (hm : s.records.modality course = .ok (some raw))
    (he : s.records.enrollment course = .ok enrolled) :
    (capacityReply s.tables course (Modality.read raw) enrolled r).Enforces
      [⟨.courseNotFound, s.Found r⟩, ⟨.capacityExceeded, s.HasSeat r⟩] fun _ => True := by
  have hfound : s.Found r := fun _ => .inl ⟨course, raw, hc, hm⟩
  unfold capacityReply
  dsimp only
  split
  · next hfull =>
    refine .reject (.tail hfound (.head fun hseat => ?_))
    exact UInt32.not_lt.2 hfull (hseat hv course raw enrolled hc hm he)
  · next hfree =>
    refine Reply.Enforces.proceed ?_ trivial
    rw [List.forall_mem_cons, List.forall_mem_singleton]
    refine ⟨hfound, fun _ course' raw' enrolled' hc' hm' he' => ?_⟩
    obtain rfl : course = course' := Option.some.inj (hc.symm.trans hc')
    obtain rfl : raw = raw' := by simpa using hm.symm.trans hm'
    obtain rfl : enrolled = enrolled' := by simpa using he.symm.trans he'
    exact UInt32.not_le.1 hfree

theorem enforces_seatCapacity :
    (seatCapacity s.tables s.records).Enforces r
      [⟨.courseNotFound, s.Found r⟩, ⟨.capacityExceeded, s.HasSeat r⟩] fun _ => True := by
  intro reply h
  unfold seatCapacity at h
  dsimp only at h
  split at h
  · next he =>
    rw [Request.does_enroll_iff] at he
    split at h
    · next hc =>
      obtain rfl : unresolvedReply s.tables r _ = reply := by simpa using h
      exact enforces_unresolvedReply he (by simp [hc])
    · next course hc =>
      obtain ⟨answer, ha, h⟩ := Consult.result_bind_eq_ok.1 h
      rw [Consult.result_ask_eq_ok] at ha
      split at h
      · obtain rfl : unresolvedReply s.tables r _ = reply := by simpa using h
        refine enforces_unresolvedReply he fun course' raw hc' => ?_
        obtain rfl : course = course' := Option.some.inj (hc.symm.trans hc')
        simp [ha]
      · next raw =>
        obtain ⟨enrolled, hen, h⟩ := Consult.result_bind_eq_ok.1 h
        obtain rfl : capacityReply s.tables course (Modality.read raw) enrolled r = reply := by
          simpa using h
        exact enforces_capacityReply he hc ha (Consult.result_ask_eq_ok.1 hen)
  · next he =>
    obtain rfl : Reply.proceed r = reply := by simpa using h
    rw [Request.does_enroll_iff] at he
    exact Reply.Enforces.proceed (by simp [Service.Found, Service.HasSeat, he]) trivial

end Stage

/-! ### The whole pipeline -/

namespace Service

/-- What the pipeline for requests in general requires, in order. -/
def generalRequirements (s : Service) (r : Request) : List Requirement :=
  s.accessRequirements r ++
    [⟨.enrollmentClosed, s.NotOver r⟩, ⟨.courseNotFound, s.Found r⟩,
      ⟨.capacityExceeded, s.HasSeat r⟩]

theorem settles_enrollment {s : Service} {r r' : Request} {v : Verdict}
    (h : Judgement [.schedule s.records s.today, .seatCapacity s.tables s.records] r r' v) :
    v.Settles [⟨.enrollmentClosed, s.NotOver r⟩, ⟨.courseNotFound, s.Found r⟩,
      ⟨.capacityExceeded, s.HasSeat r⟩] := by
  refine h.settles_cons Stage.enforces_schedule fun r₁ hr h => ?_
  have hseat := h.settles_cons Stage.enforces_seatCapacity fun _ _ h => h.settles_nil
  rcases hr with rfl | ⟨p, rfl⟩
  · exact hseat
  · simpa using hseat

theorem settles_general {s : Service} {r r' : Request} {v : Verdict}
    (h : Judgement (s.pipeline .general).stages r r' v) : v.Settles (s.generalRequirements r) := by
  refine h.settles_access fun subject _ h => ?_
  simpa using settles_enrollment h

/-- **The pipeline for requests in general decides by its requirements**: while every question
that is asked is answered, it brings each case without a verdict to one, grants it exactly when
all requirements are met, and otherwise refuses it with the kind of the first that is not. -/
theorem evaluate_general_decidedBy (s : Service) (c : Case) (hc : c.isDecided = false)
    (ha : ∀ q ∈ (s.evaluate .general c).lookups, s.records.outage? q = none) :
    ∃ done, (s.evaluate .general c).result = .ok done ∧
      done.DecidedBy (s.generalRequirements c.request) :=
  (s.pipeline .general).decidedBy_of_settles (s.candid .general) (fun _ _ => settles_general) hc ha

/-- The student of the small campus enrolls in its course. -/
def smallEnrollment : Case :=
  .ofRequest ((Request.new "r1" "Bearer student" "course.enroll" "Enroll").note .courseId (.int 12))

/-- The course of the small campus has no free seat. -/
theorem evaluate_general_small :
    smallEnrollment.isDecided = false ∧
      (∀ q ∈ (small.evaluate .general smallEnrollment).lookups, small.records.outage? q = none) ∧
      ∃ done, (small.evaluate .general smallEnrollment).result = .ok done ∧
        done.DecidedBy (small.generalRequirements smallEnrollment.request) ∧
        done.rejection?.map (·.kind) = some .capacityExceeded := by
  have ha : ∀ q ∈ (small.evaluate .general smallEnrollment).lookups,
      small.records.outage? q = none :=
    fun q _ => Roster.small.outage?_records q
  obtain ⟨done, hd, hby⟩ := evaluate_general_decidedBy small smallEnrollment rfl ha
  have hk : ((small.evaluate .general smallEnrollment).result.toOption.bind (·.rejection?)).map
      (·.kind) = some .capacityExceeded := by
    decide +kernel
  rw [hd] at hk
  exact ⟨rfl, ha, done, hd, hby, hk⟩

end Service

end Registrar
