import Registrar.Proofs.Enrollment

/-!
# Which questions are asked

The records of the campus are asked as little as possible: whose token it is, and then, for a
request that enrolls and whose subject may do so, about the course.  This file says exactly which
questions are asked while a case is judged, and in which order.

* `Request.questions`: the questions that can be asked about a request, in order.
* `Service.CallsFor`: when a question is called for.
* `Service.asks_evaluate`: **a pipeline asks the questions that are called for and no others**,
  in this order and each of them once.
-/

namespace Registrar

/-- The request enrolls in the course. -/
structure Request.EnrollsIn (r : Request) (course : Int64) : Prop where
  /-- The action is to enroll. -/
  verb : r.verb = "enroll"
  /-- It is about the course. -/
  course : r.courseId? = some course

theorem Request.enrollsIn_congr {r r₁ : Request} {course : Int64} (hv : r₁.verb = r.verb)
    (hc : r₁.courseId? = r.courseId?) : r₁.EnrollsIn course ↔ r.EnrollsIn course :=
  ⟨fun h => ⟨hv.symm.trans h.verb, hc.symm.trans h.course⟩,
    fun h => ⟨hv.trans h.verb, hc.trans h.course⟩⟩

theorem Request.enrollsIn_identify (r : Request) (subject : Subject) (course : Int64) :
    (r.identify subject).EnrollsIn course ↔ r.EnrollsIn course :=
  enrollsIn_congr (r.verb_identify subject) (r.courseId?_identify subject)

/-! ### What the stages ask -/

/-- What is asked about the seats of a course: how many are taken only if it is on the records. -/
def Records.seatQuestions (records : Records) (course : Int64) : List Lookup :=
  match records.modality course with
  | .ok (some _) => [.modality course, .enrollment course]
  | _ => [.modality course]

theorem Records.mem_seatQuestions {records : Records} {course : Int64} {q : Lookup} :
    q ∈ records.seatQuestions course ↔ q = .modality course ∨
      q = .enrollment course ∧ ∃ raw, records.modality course = .ok (some raw) := by
  unfold seatQuestions
  split
  · next raw h => simp [h]
  · next h => simpa using fun _ raw hraw => absurd hraw (h raw)

theorem Records.seatQuestions_isPrefix (records : Records) (course : Int64) :
    records.seatQuestions course <+: [.modality course, .enrollment course] := by
  unfold seatQuestions
  split
  · exact List.prefix_rfl
  · exact ⟨[.enrollment course], rfl⟩

namespace Stage

variable {s : Service} {records : Records} {tables : Tables} {today : Date} {r r₁ : Request}
  {course : Int64} {q : Lookup}

theorem lookups_identity :
    ((identity records).handle r).lookups = (Credential.read? r.token).toList.map .subject := by
  unfold identity
  dsimp only
  split
  · next h => simp [h]
  · next token h =>
    rw [Consult.lookups_bind_of_silent fun answer => by cases answer <;> rfl]
    simp [h]

theorem lookups_schedule (h : r.EnrollsIn course) :
    ((schedule records today).handle r).lookups = [.period course] := by
  simp only [schedule, Request.does_enroll_iff.2 h.verb, h.course, if_true]
  exact Consult.lookups_bind_of_silent fun _ => rfl

theorem lookups_schedule_of_not (h : ∀ course, ¬ r.EnrollsIn course) :
    ((schedule records today).handle r).lookups = [] := by
  unfold schedule
  dsimp only
  split
  · next he =>
    split
    · next course hc => exact absurd ⟨Request.does_enroll_iff.1 he, hc⟩ (h course)
    · rfl
  · rfl

theorem lookups_seatCapacity (h : r.EnrollsIn course) :
    ((seatCapacity tables records).handle r).lookups = records.seatQuestions course := by
  simp only [seatCapacity, Request.does_enroll_iff.2 h.verb, h.course, if_true,
    Records.seatQuestions]
  cases hm : records.modality course with
  | error outage =>
    rw [Consult.bind_of_error (e := ⟨"seat_capacity", outage⟩) _ rfl]
    rfl
  | ok answer =>
    rw [Consult.bind_of_ok (a := answer) _ rfl]
    cases answer with
    | none => rfl
    | some raw =>
      simp only [Consult.lookups_ask]
      rw [Consult.lookups_bind_of_silent fun _ => rfl]
      rfl

theorem lookups_seatCapacity_of_not (h : ∀ course, ¬ r.EnrollsIn course) :
    ((seatCapacity tables records).handle r).lookups = [] := by
  unfold seatCapacity
  dsimp only
  split
  · next he =>
    split
    · rfl
    · next course hc => exact absurd ⟨Request.does_enroll_iff.1 he, hc⟩ (h course)
  · rfl

/-! ### When the stages let a request go on -/

theorem identity_proceeds_iff :
    ((identity records).handle r).result = .ok ⟨r₁, .proceed⟩ ↔
      ∃ subject, records.Know r subject ∧ r₁ = r.identify subject := by
  constructor
  · intro h
    exact (enforces_identity _ h).goesOn_request
  · rintro ⟨subject, ⟨token, ht, hs⟩, rfl⟩
    simp only [identity, ht]
    exact Consult.result_bind_eq_ok.2 ⟨some subject, Consult.result_ask_eq_ok.2 hs, rfl⟩

theorem ofReply_proceeds_iff {name : String} {reply : Request → Reply} {kind : RejectionKind}
    {met : Prop} (h : (ofReply name reply).Enforces r [⟨kind, met⟩] (· = r)) :
    ((ofReply name reply).handle r).result = .ok ⟨r₁, .proceed⟩ ↔ met ∧ r₁ = r := by
  constructor
  · intro hr
    exact ⟨by simpa using (h _ hr).met, (h _ hr).goesOn_request⟩
  · rintro ⟨hmet, rfl⟩
    obtain ⟨_, hreply, rfl⟩ := (h (reply r₁) rfl).exists_proceed (by simpa using hmet)
    exact congrArg Except.ok hreply

theorem schedule_proceeds_iff (h : r.EnrollsIn course) :
    (∃ r₁, ((schedule s.records s.today).handle r).result = .ok ⟨r₁, .proceed⟩) ↔
      (∃ raw, s.records.period course = .ok raw) ∧ s.NotOver r := by
  have hresult : ∀ reply, ((schedule s.records s.today).handle r).result = .ok reply ↔
      ∃ raw, s.records.period course = .ok raw ∧ scheduleReply s.today course raw r = reply := by
    intro reply
    simp only [schedule, Request.does_enroll_iff.2 h.verb, h.course, if_true,
      Consult.result_bind_eq_ok, Consult.result_ask_eq_ok]
    simp
  constructor
  · rintro ⟨r₁, hr⟩
    obtain ⟨raw, hraw, -⟩ := (hresult _).1 hr
    exact ⟨⟨raw, hraw⟩, by simpa using (enforces_schedule _ hr).met⟩
  · rintro ⟨⟨raw, hraw⟩, hnot⟩
    have hr := (hresult _).2 ⟨raw, hraw, rfl⟩
    obtain ⟨r₁, hreply, -⟩ := (enforces_schedule _ hr).exists_proceed (by simpa using hnot)
    exact ⟨r₁, hreply ▸ hr⟩

theorem enrollsIn_iff_of_schedule
    (h : ((schedule s.records s.today).handle r).result = .ok ⟨r₁, .proceed⟩) :
    r₁.EnrollsIn course ↔ r.EnrollsIn course := by
  rcases (enforces_schedule _ h).goesOn_request with rfl | ⟨p, rfl⟩
  · exact Iff.rfl
  · exact Request.enrollsIn_congr rfl (r.courseId?_note (by decide) _)

end Stage

/-! ### What the rows of stages ask -/

/-- The question is about the course in which the request enrolls: either the one about the period,
or, if that was answered and the course is not over, one about the seats. -/
def Service.AsksCourse (s : Service) (r : Request) (q : Lookup) : Prop :=
  ∃ course, r.EnrollsIn course ∧ (q = .period course ∨
    (∃ raw, s.records.period course = .ok raw) ∧ s.NotOver r ∧ q ∈ s.records.seatQuestions course)

theorem Service.asksCourse_identify {s : Service} {r : Request} {subject : Subject} {q : Lookup} :
    s.AsksCourse (r.identify subject) q ↔ s.AsksCourse r q := by
  simp only [AsksCourse, r.enrollsIn_identify, notOver_identify]

namespace Pipeline

open Stage

variable {s : Service} {records : Records} {ss : List Stage} {r : Request} {course : Int64}
  {q : Lookup}

theorem mem_lookups_identity_cons :
    q ∈ (judge (.identity records :: ss) r).lookups ↔
      (∃ token, Credential.read? r.token = some token ∧ q = .subject token) ∨
        ∃ subject, records.Know r subject ∧ q ∈ (judge ss (r.identify subject)).lookups := by
  rw [mem_lookups_judge_cons, lookups_identity]
  refine or_congr (by simp [eq_comm]) ?_
  simp only [identity_proceeds_iff]
  constructor
  · rintro ⟨_, ⟨subject, hk, rfl⟩, hq⟩
    exact ⟨subject, hk, hq⟩
  · rintro ⟨subject, hk, hq⟩
    exact ⟨_, ⟨subject, hk, rfl⟩, hq⟩

theorem lookups_identity_cons_isPrefix {token : String} {l : List Lookup}
    (ht : Credential.read? r.token = some token)
    (h : ∀ subject, records.Know r subject → (judge ss (r.identify subject)).lookups <+: l) :
    (judge (.identity records :: ss) r).lookups <+: .subject token :: l := by
  have hl : ((identity records).handle r).lookups = [.subject token] := by
    simp [lookups_identity, ht]
  refine lookups_judge_cons_isPrefix (l := [.subject token]) (hl ▸ List.prefix_rfl) ?_
  intro r₁ hr
  obtain ⟨subject, hk, rfl⟩ := identity_proceeds_iff.1 hr
  exact ⟨hl, h subject hk⟩

theorem mem_lookups_ofReply_cons {name : String} {reply : Request → Reply} {kind : RejectionKind}
    {met : Prop} (h : (ofReply name reply).Enforces r [⟨kind, met⟩] (· = r)) :
    q ∈ (judge (.ofReply name reply :: ss) r).lookups ↔ met ∧ q ∈ (judge ss r).lookups := by
  have hsilent : ((ofReply name reply).handle r).lookups = [] := rfl
  rw [mem_lookups_judge_cons, hsilent]
  constructor
  · rintro (hq | ⟨r₁, hr, hq⟩)
    · cases hq
    · obtain ⟨hmet, rfl⟩ := (ofReply_proceeds_iff h).1 hr
      exact ⟨hmet, hq⟩
  · rintro ⟨hmet, hq⟩
    exact .inr ⟨r, (ofReply_proceeds_iff h).2 ⟨hmet, rfl⟩, hq⟩

theorem lookups_ofReply_cons_isPrefix {name : String} {reply : Request → Reply}
    {kind : RejectionKind} {met : Prop} {l : List Lookup}
    (h : (ofReply name reply).Enforces r [⟨kind, met⟩] (· = r))
    (hss : (judge ss r).lookups <+: l) : (judge (.ofReply name reply :: ss) r).lookups <+: l := by
  refine lookups_judge_cons_isPrefix (l := []) List.prefix_rfl ?_
  intro r₁ hr
  obtain ⟨-, rfl⟩ := (ofReply_proceeds_iff h).1 hr
  exact ⟨rfl, hss⟩

theorem lookups_enrollment_of_not (h : ∀ course, ¬ r.EnrollsIn course) :
    (judge [.schedule s.records s.today, .seatCapacity s.tables s.records] r).lookups = [] := by
  rw [List.eq_nil_iff_forall_not_mem]
  intro q hq
  rw [mem_lookups_judge_cons, lookups_schedule_of_not h] at hq
  rcases hq with hq | ⟨r₁, hr, hq⟩
  · cases hq
  · rw [lookups_judge_singleton, lookups_seatCapacity_of_not] at hq
    · cases hq
    · exact fun course h₁ => h course ((enrollsIn_iff_of_schedule hr).1 h₁)

theorem lookups_seatCapacity_of_schedule {r₁ : Request} (h : r.EnrollsIn course)
    (hr : ((schedule s.records s.today).handle r).result = .ok ⟨r₁, .proceed⟩) :
    (judge [.seatCapacity s.tables s.records] r₁).lookups = s.records.seatQuestions course := by
  rw [lookups_judge_singleton, lookups_seatCapacity ((enrollsIn_iff_of_schedule hr).2 h)]

/-- The seats of a course are looked at when its period was, and it is not over. -/
theorem mem_lookups_enrollment (h : r.EnrollsIn course) :
    q ∈ (judge [.schedule s.records s.today, .seatCapacity s.tables s.records] r).lookups ↔
      q = .period course ∨ (∃ raw, s.records.period course = .ok raw) ∧ s.NotOver r ∧
        q ∈ s.records.seatQuestions course := by
  rw [mem_lookups_judge_cons, lookups_schedule h, List.mem_singleton, ← and_assoc,
    ← schedule_proceeds_iff h]
  refine or_congr_right ⟨?_, ?_⟩
  · rintro ⟨r₁, hr, hq⟩
    exact ⟨⟨r₁, hr⟩, lookups_seatCapacity_of_schedule h hr ▸ hq⟩
  · rintro ⟨⟨r₁, hr⟩, hq⟩
    exact ⟨r₁, hr, lookups_seatCapacity_of_schedule h hr ▸ hq⟩

theorem mem_lookups_enrollment_iff :
    q ∈ (judge [.schedule s.records s.today, .seatCapacity s.tables s.records] r).lookups ↔
      s.AsksCourse r q := by
  constructor
  · intro hq
    by_cases h : ∃ course, r.EnrollsIn course
    · obtain ⟨course, h⟩ := h
      exact ⟨course, h, (mem_lookups_enrollment h).1 hq⟩
    · rw [lookups_enrollment_of_not (not_exists.1 h)] at hq
      cases hq
  · rintro ⟨course, h, hq⟩
    exact (mem_lookups_enrollment h).2 hq

theorem lookups_enrollment_isPrefix (h : r.EnrollsIn course) :
    (judge [.schedule s.records s.today, .seatCapacity s.tables s.records] r).lookups <+:
      [.period course, .modality course, .enrollment course] := by
  have hl : ((Stage.schedule s.records s.today).handle r).lookups = [.period course] :=
    lookups_schedule h
  refine lookups_judge_cons_isPrefix (l := [.period course]) (hl ▸ List.prefix_rfl) ?_
  intro r₁ hr
  refine ⟨hl, ?_⟩
  rw [lookups_seatCapacity_of_schedule h hr]
  exact s.records.seatQuestions_isPrefix course

end Pipeline

/-! ### The questions that are called for -/

/-- The questions that can be asked about the course that a request names, in order. -/
def Request.courseQuestions (r : Request) : List Lookup :=
  match r.courseId? with
  | none => []
  | some course => [.period course, .modality course, .enrollment course]

/-- The questions that can be asked about a request, in order: whose token it is, if that is well
formed, and then about the course. -/
def Request.questions (r : Request) : List Lookup :=
  match Credential.read? r.token with
  | none => []
  | some token => .subject token :: r.courseQuestions

theorem Request.nodup_questions (r : Request) : r.questions.Nodup := by
  unfold questions courseQuestions
  split
  · exact .nil
  · split <;> simp

namespace Service

variable (s : Service) (kind : PipelineKind) (r : Request)

/-- The token belongs to a subject who, in the role in which the subject acts, may use the resource
and has the permission for the action. -/
def MayAct : Prop :=
  ∃ subject, s.records.Know r subject ∧ s.tables.OpenTo r.resource (r.roleOf subject) ∧
    s.tables.Permit r.action (r.roleOf subject)

/-- The question is called for when the request is judged.  The token is looked up if it is well
formed.  Questions about a course are asked by the pipeline for requests in general alone, when the
request enrolls in the course and its subject may do so: first in which period the course is held;
then, if there was an answer and the course is not over, how it is held; then, if it is on the
records, how many seats are taken. -/
def CallsFor : Lookup → Prop
  | .subject token => Credential.read? r.token = some token
  | .period course => kind = .general ∧ s.MayAct r ∧ r.EnrollsIn course
  | .modality course => kind = .general ∧ s.MayAct r ∧ r.EnrollsIn course ∧
      (∃ raw, s.records.period course = .ok raw) ∧ s.NotOver r
  | .enrollment course => kind = .general ∧ s.MayAct r ∧ r.EnrollsIn course ∧
      (∃ raw, s.records.period course = .ok raw) ∧ s.NotOver r ∧
        ∃ raw, s.records.modality course = .ok (some raw)

/-- These are the questions that are asked when the request is judged. -/
structure Asks (asked : List Lookup) : Prop where
  /-- They are the first ones of those that can be asked. -/
  inOrder : asked <+: r.questions
  /-- None of them is asked twice. -/
  once : asked.Nodup
  /-- They are exactly the questions that are called for. -/
  mem_iff : ∀ q, q ∈ asked ↔ s.CallsFor kind r q

variable {s kind r} {q : Lookup}

theorem mayAct_iff_of_know {subject : Subject} (hk : s.records.Know r subject) :
    s.MayAct r ↔ s.tables.OpenTo r.resource (r.roleOf subject) ∧
      s.tables.Permit r.action (r.roleOf subject) := by
  constructor
  · rintro ⟨subject', hk', h⟩
    rwa [hk.unique hk']
  · intro h
    exact ⟨subject, hk, h⟩

/-- The pipelines for authoring and for listing ask whose token it is and nothing else. -/
theorem silent_others (h : kind ≠ .general) :
    ∀ stage ∈ (s.pipeline kind).others, ∀ r, (stage.handle r).lookups = [] := by
  intro stage hs r
  cases kind with
  | general => exact absurd rfl h
  | courseAuthoring =>
    simp only [pipeline, Pipeline.others_build, List.mem_cons, List.not_mem_nil, or_false] at hs
    rcases hs with rfl | rfl | rfl | rfl <;> rfl
  | courseListing =>
    simp only [pipeline, Pipeline.others_build, List.mem_cons, List.not_mem_nil, or_false] at hs
    rcases hs with rfl | rfl | rfl | rfl <;> rfl

theorem mem_lookups_others {subject : Subject} (hk : s.records.Know r subject) :
    q ∈ (Pipeline.judge (s.pipeline kind).others (r.identify subject)).lookups ↔
      kind = .general ∧ s.MayAct r ∧ s.AsksCourse r q := by
  by_cases hg : kind = .general
  · subst hg
    have hr := r.role_identify subject
    -- Neither of the two checks asks anything; they decide whether those behind them may.
    refine (Pipeline.mem_lookups_ofReply_cons (Stage.enforces_role hr)).trans ?_
    rw [mayAct_iff_of_know hk, eq_self, true_and, and_assoc]
    refine and_congr_right fun _ => ?_
    refine (Pipeline.mem_lookups_ofReply_cons (Stage.enforces_permission hr)).trans ?_
    exact and_congr_right fun _ => Pipeline.mem_lookups_enrollment_iff.trans asksCourse_identify
  · rw [Pipeline.lookups_judge_of_silent (silent_others hg)]
    simp [hg]

theorem lookups_others_isPrefix (subject : Subject) :
    (Pipeline.judge (s.pipeline kind).others (r.identify subject)).lookups <+:
      r.courseQuestions := by
  by_cases hg : kind = .general
  · subst hg
    have hr := r.role_identify subject
    refine Pipeline.lookups_ofReply_cons_isPrefix (Stage.enforces_role hr) ?_
    refine Pipeline.lookups_ofReply_cons_isPrefix (Stage.enforces_permission hr) ?_
    by_cases h : ∃ course, (r.identify subject).EnrollsIn course
    · obtain ⟨course, h⟩ := h
      rw [Request.courseQuestions, ((r.enrollsIn_identify subject course).1 h).course]
      exact Pipeline.lookups_enrollment_isPrefix h
    · rw [Pipeline.lookups_enrollment_of_not (not_exists.1 h)]
      exact List.nil_prefix
  · rw [Pipeline.lookups_judge_of_silent (silent_others hg)]
    exact List.nil_prefix

theorem callsFor_iff :
    s.CallsFor kind r q ↔ (∃ token, Credential.read? r.token = some token ∧ q = .subject token) ∨
      kind = .general ∧ s.MayAct r ∧ s.AsksCourse r q := by
  simp only [AsksCourse, Records.mem_seatQuestions]
  cases q with
  | subject token => simp [CallsFor]
  | period course => simp [CallsFor]
  | modality course => grind [CallsFor]
  | enrollment course => grind [CallsFor]

theorem mem_lookups_stages :
    q ∈ (Pipeline.judge (s.pipeline kind).stages r).lookups ↔ s.CallsFor kind r q := by
  rw [stages_eq, Pipeline.mem_lookups_identity_cons, callsFor_iff]
  refine or_congr_right ⟨?_, ?_⟩
  · rintro ⟨subject, hk, hq⟩
    exact (mem_lookups_others hk).1 hq
  · rintro ⟨hg, ⟨subject, hk, hmay⟩, hq⟩
    exact ⟨subject, hk, (mem_lookups_others hk).2 ⟨hg, ⟨subject, hk, hmay⟩, hq⟩⟩

theorem lookups_stages_isPrefix :
    (Pipeline.judge (s.pipeline kind).stages r).lookups <+: r.questions := by
  rw [stages_eq, Request.questions]
  cases ht : Credential.read? r.token with
  | none =>
    rw [List.prefix_nil, List.eq_nil_iff_forall_not_mem]
    intro q hq
    rw [Pipeline.mem_lookups_identity_cons] at hq
    rcases hq with ⟨token, ht', -⟩ | ⟨subject, ⟨token, ht', -⟩, -⟩
    · rw [ht] at ht'
      cases ht'
    · rw [ht] at ht'
      cases ht'
  | some token =>
    exact Pipeline.lookups_identity_cons_isPrefix ht fun subject _ =>
      lookups_others_isPrefix subject

/-- **A pipeline asks the questions that are called for and no others**, in their order and each of
them once. -/
theorem asks_evaluate (s : Service) (kind : PipelineKind) (c : Case) (hc : c.isDecided = false) :
    s.Asks kind c.request (s.evaluate kind c).lookups := by
  rw [evaluate, Pipeline.lookups_run _ hc]
  have horder : (Pipeline.judge (s.pipeline kind).stages c.request).lookups <+:
      c.request.questions :=
    lookups_stages_isPrefix
  exact ⟨horder, c.request.nodup_questions.sublist horder.sublist, fun _ => mem_lookups_stages⟩

/-- A student of the small campus enrolls in a course that is named by the resource. -/
def smallPath : Case := .ofRequest (.new "r1" " BEARER student" "campus/course:12/seats" " Enroll ")

/-- All four questions are asked. -/
theorem asks_smallPath :
    smallPath.isDecided = false ∧
      small.Asks .general smallPath.request (small.evaluate .general smallPath).lookups ∧
      (small.evaluate .general smallPath).lookups =
        [.subject "student", .period 12, .modality 12, .enrollment 12] :=
  ⟨rfl, asks_evaluate small .general smallPath rfl, by decide +kernel⟩

end Service

end Registrar
