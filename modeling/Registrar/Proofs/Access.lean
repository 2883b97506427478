import Registrar.Proofs.Facts
import Registrar.Proofs.Requirement
import Registrar.Service

/-!
# Who may do what

The pipelines for requests in general and for authoring begin alike: the subject is found, then
the role is held against the resource and against the action.  This file says what these three
stages require.

* `Service.forall_others`: what holds of each stage holds of those of every pipeline.
* `Records.Know`, `Request.roleOf`: the subject to whom the token belongs, and the role in which
  the subject acts.
* `Tables.OpenTo`, `Tables.Permit`: what the tables say about a role, read off their entries.
* `Service.accessRequirements`, `Judgement.settles_access`: the three requirements, and that a
  pipeline that begins with the three stages enforces them before its others.
* `Service.small`: a campus small enough to look at.
-/

namespace Registrar

/-! ### The stages of the pipelines -/

namespace Service

variable (s : Service) (kind : PipelineKind)

theorem stages_eq : (s.pipeline kind).stages = .identity s.records :: (s.pipeline kind).others := by
  cases kind <;> rfl

/-- What holds of each stage holds of all those behind the first one of a pipeline.  The stages that
look at enrollments stand in the pipeline for requests in general alone. -/
theorem forall_others_of_kind {P : Stage → Prop} (hrole : P (.role s.tables))
    (hpermission : P (.permission s.tables))
    (hschedule : kind = .general → P (.schedule s.records s.today))
    (hcapacity : kind = .general → P (.seatCapacity s.tables s.records))
    (hperiod : P (.academicPeriod s.today)) (howner : P .assignOwner)
    (hview : ∀ role, P (.view role)) (hdeny : P .denyUnclaimed) :
    ∀ stage ∈ (s.pipeline kind).others, P stage := by
  cases kind <;> simp [pipeline, *]

theorem forall_others {P : Stage → Prop} (hrole : P (.role s.tables))
    (hpermission : P (.permission s.tables)) (hschedule : P (.schedule s.records s.today))
    (hcapacity : P (.seatCapacity s.tables s.records)) (hperiod : P (.academicPeriod s.today))
    (howner : P .assignOwner) (hview : ∀ role, P (.view role)) (hdeny : P .denyUnclaimed) :
    ∀ stage ∈ (s.pipeline kind).others, P stage :=
  s.forall_others_of_kind kind hrole hpermission (fun _ => hschedule) (fun _ => hcapacity) hperiod
    howner hview hdeny

end Service

/-! ### The subject and the role -/

/-- The token of the request is well formed and belongs to the subject. -/
def Records.Know (records : Records) (r : Request) (subject : Subject) : Prop :=
  ∃ token, Credential.read? r.token = some token ∧ records.subject token = .ok (some subject)

/-- The role in which a subject acts: the one that the request has, or else the subject's own. -/
def Request.roleOf (r : Request) (subject : Subject) : Role := r.role.getD subject.role

namespace Records.Know

variable {records : Records} {r : Request} {subject : Subject}

theorem unique {subject' : Subject} (h : records.Know r subject) (h' : records.Know r subject') :
    subject = subject' := by
  obtain ⟨token, ht, hs⟩ := h
  obtain ⟨token', ht', hs'⟩ := h'
  obtain rfl : token = token' := Option.some.inj (ht.symm.trans ht')
  simpa using hs.symm.trans hs'

theorem forall_iff (h : records.Know r subject) {P : Subject → Prop} :
    (∀ subject', records.Know r subject' → P subject') ↔ P subject := by
  constructor
  · intro hall
    exact hall subject h
  · intro hP subject' h'
    rwa [← h.unique h']

end Records.Know

/-! ### What the tables say -/

namespace Tables

variable (t : Tables)

/-- The resource, apart from blanks around it, has no entry, or the role is in its set. -/
def OpenTo (resource : String) (role : Role) : Prop :=
  ∀ allowed, t.resourceRoles.get? (Text.trim resource) = some allowed →
    allowed.contains role = true

/-- The permission is in the set of the role. -/
def Holds (role : Role) (permission : String) : Prop :=
  ∃ held, t.rolePermissions.get? role = some held ∧ held.contains permission = true

/-- The role holds every permission, or the action, in lower case and apart from blanks around
it, has no entry, or the role holds the permission that it needs. -/
def Permit (action : String) (role : Role) : Prop :=
  t.Holds role "all" ∨
    ∀ permission, t.actionPermissions.get? (Text.lowerAscii (Text.trim action)) = some permission →
      t.Holds role permission

variable {t}

theorem hasPermission_iff {role : Role} {permission : String} :
    t.hasPermission role permission = true ↔ t.Holds role permission := by
  rw [hasPermission, Option.any_eq_true]
  rfl

end Tables

/-! ### The first three stages -/

namespace Stage

variable {records : Records} {tables : Tables} {r : Request}

/-- The first stage either knows the subject and notes who it is, or refuses the request and leaves
it as it is. -/
theorem result_identity {reply : Reply} (h : ((identity records).handle r).result = .ok reply) :
    (∃ subject, records.Know r subject ∧ reply = .proceed (r.identify subject)) ∨
      (∀ subject, ¬ records.Know r subject) ∧
        ∃ message, reply = .reject r .invalidToken message := by
  simp only [identity] at h
  split at h
  · next ht =>
    obtain rfl := by simpa using h
    refine .inr ⟨?_, _, rfl⟩
    rintro subject ⟨token, ht', -⟩
    rw [ht] at ht'
    cases ht'
  · next token ht =>
    obtain ⟨answer, ha, h⟩ := Consult.result_bind_eq_ok.1 h
    rw [Consult.result_ask_eq_ok] at ha
    split at h
    · next subject =>
      obtain rfl := by simpa using h
      exact .inl ⟨subject, ⟨token, ht, ha⟩, rfl⟩
    · obtain rfl := by simpa using h
      refine .inr ⟨?_, _, rfl⟩
      rintro subject ⟨token', ht', hs⟩
      obtain rfl : token = token' := Option.some.inj (ht.symm.trans ht')
      rw [ha] at hs
      simp at hs

theorem enforces_identity :
    (identity records).Enforces r [⟨.invalidToken, ∃ subject, records.Know r subject⟩]
      fun r₁ => ∃ subject, records.Know r subject ∧ r₁ = r.identify subject := by
  intro reply h
  rcases result_identity h with ⟨subject, hk, rfl⟩ | ⟨hunknown, message, rfl⟩
  · exact Reply.Enforces.proceed (by simpa using ⟨subject, hk⟩) ⟨subject, hk, rfl⟩
  · exact .reject (.head (not_exists.2 hunknown))

theorem enforces_role {role : Role} (hr : r.role = some role) :
    (Stage.role tables).Enforces r [⟨.roleNotAuthorized, tables.OpenTo r.resource role⟩]
      (· = r) := by
  refine enforces_ofReply ?_
  unfold roleReply
  split
  · next ha =>
    rw [Tables.allowedRoles] at ha
    exact Reply.Enforces.proceed (by simp [Tables.OpenTo, ha]) rfl
  · next allowed ha =>
    rw [Tables.allowedRoles] at ha
    simp only [hr]
    split
    · next hc => exact Reply.Enforces.proceed (by simp [Tables.OpenTo, ha, hc]) rfl
    · next hc => exact .reject (.head fun hopen => hc (hopen allowed ha))

theorem enforces_permission {role : Role} (hr : r.role = some role) :
    (permission tables).Enforces r [⟨.permissionDenied, tables.Permit r.action role⟩]
      (· = r) := by
  refine enforces_ofReply ?_
  unfold permissionReply
  simp only [hr]
  split
  · next hall =>
    exact Reply.Enforces.proceed (by simpa using .inl (Tables.hasPermission_iff.1 hall)) rfl
  · next hall =>
    rw [Tables.hasAllPermissions, allPermissions, Tables.hasPermission_iff] at hall
    split
    · next hreq =>
      rw [Tables.requiredPermission, actionKey] at hreq
      exact Reply.Enforces.proceed (by simp [Tables.Permit, hreq]) rfl
    · next required hreq =>
      rw [Tables.requiredPermission, actionKey] at hreq
      split
      · next hhas =>
        rw [Tables.hasPermission_iff] at hhas
        exact Reply.Enforces.proceed (by simp [Tables.Permit, hreq, hhas]) rfl
      · next hhas =>
        rw [Tables.hasPermission_iff] at hhas
        refine .reject (.head ?_)
        rintro (h | h)
        · exact hall h
        · exact hhas (h required hreq)

end Stage

/-- A pipeline that begins with the first stage leaves a request whose subject nobody knows as it
is, and has the other stages judge every other request, with the subject identified. -/
theorem Judgement.identity_cons {records : Records} {ss : List Stage} {r r' : Request} {v : Verdict}
    (h : Judgement (.identity records :: ss) r r' v) :
    (∃ subject, records.Know r subject ∧ Judgement ss (r.identify subject) r' v) ∨
      (∀ subject, ¬ records.Know r subject) ∧ r' = r ∧
        ∃ message, v = .rejected ⟨.invalidToken, message⟩ := by
  cases h with
  | proceed hs hss =>
    rcases Stage.result_identity hs with ⟨subject, hk, hreply⟩ | ⟨-, message, hreply⟩
    · obtain rfl := congrArg Reply.request hreply
      exact .inl ⟨subject, hk, hss⟩
    · cases hreply
  | approve hs =>
    rcases Stage.result_identity hs with ⟨subject, -, hreply⟩ | ⟨-, message, hreply⟩
    · cases hreply
    · cases hreply
  | reject hs =>
    rcases Stage.result_identity hs with ⟨subject, -, hreply⟩ | ⟨hunknown, message, hreply⟩
    · cases hreply
    · cases hreply
      exact .inr ⟨hunknown, rfl, message, rfl⟩

/-- What the first three stages require of a request: a subject, a resource that is open to the
role, and a permission for the action. -/
def Service.accessRequirements (s : Service) (r : Request) : List Requirement :=
  [⟨.invalidToken, ∃ subject, s.records.Know r subject⟩,
    ⟨.roleNotAuthorized, ∀ subject, s.records.Know r subject →
      s.tables.OpenTo r.resource (r.roleOf subject)⟩,
    ⟨.permissionDenied, ∀ subject, s.records.Know r subject →
      s.tables.Permit r.action (r.roleOf subject)⟩]

namespace Judgement

variable {s : Service} {ss : List Stage} {r r' : Request}

/-- **A pipeline that begins with the three stages** enforces their requirements and then those of
its other stages, which see the request with the subject identified. -/
theorem settles_access {v : Verdict} {rest : List Requirement}
    (h : Judgement (.identity s.records :: .role s.tables :: .permission s.tables :: ss) r r' v)
    (hss : ∀ subject, s.records.Know r subject → Judgement ss (r.identify subject) r' v →
      v.Settles rest) :
    v.Settles (s.accessRequirements r ++ rest) := by
  change v.Settles ([_] ++ ([_] ++ ([_] ++ rest)))
  refine h.settles_cons Stage.enforces_identity ?_
  rintro _ ⟨subject, hk, rfl⟩ h
  -- The token belongs to one subject only, so what is required of all is required of that one.
  simp only [hk.forall_iff]
  refine h.settles_cons (Stage.enforces_role (Request.role_identify r subject)) ?_
  rintro _ rfl h
  refine h.settles_cons (Stage.enforces_permission (Request.role_identify r subject)) ?_
  rintro _ rfl h
  exact hss subject hk h

/-- A request that was granted by such a pipeline was granted by its other stages, with the
subject identified. -/
theorem approved_access
    (h : Judgement (.identity s.records :: .role s.tables :: .permission s.tables :: ss) r r'
      .approved) :
    ∃ subject, s.records.Know r subject ∧ Judgement ss (r.identify subject) r' .approved := by
  obtain ⟨_, ⟨subject, hk, rfl⟩, -, h⟩ := h.approved_cons Stage.enforces_identity
  have hr := Request.role_identify r subject
  obtain ⟨_, rfl, -, h⟩ := h.approved_cons (Stage.enforces_role hr)
  obtain ⟨_, rfl, -, h⟩ := h.approved_cons (Stage.enforces_permission hr)
  exact ⟨subject, hk, h⟩

end Judgement

/-! ### A small campus -/

/-- Students enroll, teachers create courses, and every course has one seat. -/
def Tables.small : Tables :=
  { Tables.empty with
    resourceRoles := .ofList [("course.create", .ofList [.teacher]),
      ("course.enroll", .ofList [.student])]
    rolePermissions := ⟨some (.ofList ["enroll"]), some (.ofList ["create_course"]), none⟩
    actionPermissions := .ofList [("create", "create_course"), ("enroll", "enroll")]
    capacity := ⟨.empty, 1, .reject⟩ }

/-- A teacher, a student, and one course, whose seat is taken. -/
def Roster.small : Roster :=
  ((Roster.empty.putSubject "teacher" ⟨7, "Ada", "ada@campus.example", .teacher⟩).putSubject
    "student" ⟨8, "Sam", "sam@campus.example", .student⟩).putCourse
    12 ⟨"Virtual", 1, some "August-December 2025"⟩

/-- The small campus on a day in September. -/
def Service.small : Service where
  tables := .small
  records := Roster.small.records
  today := ⟨2025, 9, 1, by decide, by decide⟩

end Registrar
