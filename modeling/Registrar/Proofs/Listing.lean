import Mathlib.Data.List.Forall2
import Registrar.Proofs.Outage

/-!
# How much of the course list is shown

The pipeline for listing courses has a stage for each role and, at its end, one that refuses what
none of them claimed.  A request whose subject is known is in some role when it comes to them, so
that it is granted and the last stage is never asked.  What it is shown is noted over anything that
the caller wrote.

* `Request.listed`: the request with the scope of a role.
* `Pipeline.judge_views`: among stages for the roles, the one for the role of the request grants it.
* `Pipeline.run_listing_append`: behind the stages for all roles, the others change nothing.
* `Service.evaluate_listing_reword`: the policy, the date, the courses, the resource and the action
  do not matter.
* `Service.lists_evaluate`: **who is known is shown the list in the scope of the role**, and nobody
  else is shown anything.
-/

namespace Registrar

namespace Request

/-! ### The scope of a role -/

/-- The request with the scope of a role and, if that depends on the subject, with the subject. -/
def listed (r : Request) (role : Role) (subject : Int64) : Request :=
  let filtered := r.note .viewFilter (.string role.scope.name)
  match role.scope.holder? with
  | some holder => filtered.note holder (.int subject.toInt)
  | none => filtered

/-- The request, in the role, has the scope of that role. -/
structure Shows (r : Request) (role : Role) (subject : Int64) : Prop where
  /-- It is in the role. -/
  inRole : r.role = some role
  /-- An admin is shown all courses. -/
  admin : role = .admin → r.metadata.get? "viewFilter" = some (.string "ALL")
  /-- A teacher is shown the courses that the teacher gives. -/
  teacher : role = .teacher → r.metadata.get? "viewFilter" = some (.string "BY_TEACHER") ∧
    r.metadata.get? "viewOwnerId" = some (.int subject.toInt)
  /-- A student is shown the courses that the student takes. -/
  student : role = .student → r.metadata.get? "viewFilter" = some (.string "BY_STUDENT") ∧
    r.metadata.get? "viewStudentId" = some (.int subject.toInt)

/-- The request with other words for the resource and the action. -/
def reword (r : Request) (resource action : String) : Request := { r with resource, action }

variable {r : Request} {role : Role} {subject : Int64}

theorem shows_listed (hr : r.role = some role) : (r.listed role subject).Shows role subject := by
  -- Noting whose courses are shown leaves the scope as it was noted.
  have kept (scope : ViewScope) {holder : Fact} (hne : Fact.viewFilter ≠ holder) :
      ((r.note .viewFilter (.string scope.name)).note holder (.int subject.toInt)).metadata.get?
        Fact.viewFilter.name = some (.string scope.name) := by
    rw [get?_metadata_note_of_ne _ hne, get?_metadata_note_self]
  cases role with
  | admin => exact ⟨hr, fun _ => get?_metadata_note_self .., nofun, nofun⟩
  | teacher =>
    have hscope := kept .byTeacher (show Fact.viewFilter ≠ .viewOwnerId by decide)
    exact ⟨hr, nofun, fun _ => ⟨hscope, get?_metadata_note_self ..⟩, nofun⟩
  | student =>
    have hscope := kept .byStudent (show Fact.viewFilter ≠ .viewStudentId by decide)
    exact ⟨hr, nofun, nofun, fun _ => ⟨hscope, get?_metadata_note_self ..⟩⟩

end Request

/-! ### The stages -/

namespace Stage

variable {records : Records} {r : Request} {role : Role} {subject : Int64}

theorem handle_view_self (hr : r.role = some role)
    (hs : r.fact? .subjectId = some (.int subject.toInt)) :
    (view role).handle r = pure (.approve (r.listed role subject)) := by
  have hid : (r.note .viewFilter (.string role.scope.name)).fact? .subjectId =
      some (.int subject.toInt) := by
    rw [Request.fact?_note_of_ne _ (by decide), hs]
  unfold view ofReply viewReply Request.listed
  dsimp only
  rw [if_pos hr, hid]
  cases role.scope.holder? <;> rfl

theorem handle_view_of_ne (h : r.role ≠ some role) : (view role).handle r = pure (.proceed r) := by
  unfold view ofReply viewReply
  dsimp only
  rw [if_neg h]

/-- The second stage makes of a request in other words what the first one makes of it. -/
def SameInOtherWords (s s' : Stage) : Prop :=
  ∀ (r : Request) (resource action : String), s'.handle (r.reword resource action) =
    (fun reply => ⟨reply.request.reword resource action, reply.outcome⟩) <$> s.handle r

theorem sameInOtherWords_identity {records' : Records} (hs : records'.subject = records.subject) :
    SameInOtherWords (identity records) (identity records') := by
  intro r resource action
  unfold identity Request.reword
  dsimp only
  cases Credential.read? r.token with
  | none => rfl
  | some token =>
    dsimp only
    rw [hs]
    cases records.subject token with
    | error outage => rfl
    | ok answer => cases answer <;> rfl

theorem sameInOtherWords_ofReply {name : String} {reply : Request → Reply}
    (h : ∀ (r : Request) (resource action : String), reply (r.reword resource action) =
      ⟨(reply r).request.reword resource action, (reply r).outcome⟩) :
    SameInOtherWords (ofReply name reply) (ofReply name reply) :=
  fun r resource action => congrArg pure (h r resource action)

theorem sameInOtherWords_view (role : Role) : SameInOtherWords (view role) (view role) := by
  refine sameInOtherWords_ofReply fun r resource action => ?_
  have hfact (f : Fact) : ((r.reword resource action).note .viewFilter
      (.string role.scope.name)).fact? f = (r.note .viewFilter (.string role.scope.name)).fact? f :=
    rfl
  unfold viewReply
  dsimp only
  rw [hfact]
  by_cases hr : r.role = some role
  · rw [if_pos hr, if_pos (show (r.reword resource action).role = some role from hr)]
    split <;> rfl
  · rw [if_neg hr, if_neg (show (r.reword resource action).role ≠ some role from hr)]
    rfl

theorem sameInOtherWords_denyUnclaimed : SameInOtherWords denyUnclaimed denyUnclaimed := by
  refine sameInOtherWords_ofReply ?_
  rintro ⟨id, token, role, _, _, metadata⟩ resource action
  cases role <;> rfl

end Stage

namespace Pipeline

variable {records records' : Records} {r : Request} {role : Role} {roles : List Role}

/-- **Among stages for the roles, the one for the role of the request grants it**, and the stages
behind it are not asked. -/
theorem judge_views {subject : Int64} (hmem : role ∈ roles) (hr : r.role = some role)
    (hs : r.fact? .subjectId = some (.int subject.toInt)) (rest : List Stage) :
    judge (roles.map .view ++ rest) r = pure (r.listed role subject, .approved) := by
  -- The stages for other roles let the request go on as it is.
  induction roles with
  | nil => cases hmem
  | cons role' roles ih =>
    by_cases heq : role' = role
    · subst heq
      rw [List.map_cons, List.cons_append, judge, Stage.handle_view_self hr hs]
      rfl
    · have hne : r.role ≠ some role' := by
        rw [hr]
        exact fun h => heq (Option.some.inj h).symm
      rw [List.map_cons, List.cons_append, judge, Stage.handle_view_of_ne hne]
      exact ih ((List.mem_cons.1 hmem).resolve_left (Ne.symm heq))

theorem judge_views_identify (hroles : ∀ role, role ∈ roles) (r : Request) (subject : Subject)
    (rest : List Stage) : judge (roles.map .view ++ rest) (r.identify subject) =
      pure ((r.identify subject).listed (r.roleOf subject) subject.id, .approved) :=
  judge_views (hroles _) (r.role_identify subject) (r.fact?_subjectId_identify subject) rest

/-- What a row of stages comes to depends on the later stages only through the requests that the
first one lets go on. -/
theorem judge_cons_congr {s : Stage} {ss ss' : List Stage}
    (h : ∀ r₁, (s.handle r).result = .ok ⟨r₁, .proceed⟩ → judge ss r₁ = judge ss' r₁) :
    judge (s :: ss) r = judge (s :: ss') r := by
  rw [judge, judge]
  cases hr : (s.handle r).result with
  | error e => rw [Consult.bind_of_error _ hr, Consult.bind_of_error _ hr]
  | ok reply =>
    rw [Consult.bind_of_ok _ hr, Consult.bind_of_ok _ hr]
    obtain ⟨r₁, outcome⟩ := reply
    cases outcome with
    | proceed =>
      dsimp only
      rw [h r₁ hr]
    | approve => rfl
    | reject reason => rfl

/-- **Behind stages for all the roles, no stage is asked.** -/
theorem judge_listing_append (hroles : ∀ role, role ∈ roles) (rest rest' : List Stage) :
    judge (.identity records :: (roles.map .view ++ rest)) r =
      judge (.identity records :: (roles.map .view ++ rest')) r := by
  refine judge_cons_congr fun r₁ h => ?_
  obtain ⟨subject, -, rfl⟩ := (Stage.enforces_identity _ h).goesOn_request
  rw [judge_views_identify hroles, judge_views_identify hroles]

/-- **A row of stages that ignore the words** for the resource and the action ignores them. -/
theorem judge_reword {ss ss' : List Stage} (h : List.Forall₂ Stage.SameInOtherWords ss ss')
    (r : Request) (resource action : String) :
    judge ss' (r.reword resource action) =
      (fun j => (j.1.reword resource action, j.2)) <$> judge ss r := by
  induction h generalizing r with
  | nil => rfl
  | cons hs _ ih =>
    rw [judge, judge, hs, map_bind, bind_map_left]
    congr 1
    funext reply
    obtain ⟨r₁, outcome⟩ := reply
    cases outcome with
    | proceed => exact ih r₁
    | approve => rfl
    | reject reason => rfl

theorem run_reword {p p' : Pipeline} (h : List.Forall₂ Stage.SameInOtherWords p.stages p'.stages)
    (c : Case) (resource action : String) :
    p'.run (c.modify (·.reword resource action)) =
      (·.modify (·.reword resource action)) <$> p.run c := by
  cases hc : c.isDecided with
  | true =>
    rw [run_of_decided p hc, run_of_decided p' (c := c.modify _) hc]
    rfl
  | false =>
    rw [run_of_undecided p hc, run_of_undecided p' (c := c.modify _) hc, map_bind]
    have hrequest : (c.modify (·.reword resource action)).request =
        c.request.reword resource action := rfl
    rw [hrequest, judge_reword h, Consult.mapError_map, bind_map_left]
    congr 1
    funext j
    rw [map_pure, Case.modify_close]
    rfl

theorem run_listing_append {p p' : Pipeline} (hroles : ∀ role, role ∈ roles)
    (hp : p.first = .identity records) (hp' : p'.first = .identity records)
    (h : roles.map .view <+: p.others) (h' : roles.map .view <+: p'.others) (c : Case) :
    p'.run c = p.run c := by
  obtain ⟨rest, hrest⟩ := h
  obtain ⟨rest', hrest'⟩ := h'
  have hjudge : judge p'.stages c.request = judge p.stages c.request := by
    rw [stages, stages, hp, hp', ← hrest, ← hrest']
    exact judge_listing_append hroles rest' rest
  rw [run, run, hjudge]

end Pipeline

namespace Judgement

variable {records : Records} {r r' : Request} {v : Verdict} {roles : List Role} {rest : List Stage}
  {subject : Subject}

theorem views_identify (h : Judgement (roles.map .view ++ rest) (r.identify subject) r' v)
    (hroles : ∀ role, role ∈ roles) :
    r' = (r.identify subject).listed (r.roleOf subject) subject.id ∧ v = .approved := by
  have hj := judgement_iff.1 h
  rw [Pipeline.judge_views_identify hroles] at hj
  obtain ⟨hr, hv⟩ := Prod.mk.inj (Except.ok.inj hj)
  exact ⟨hr.symm, hv.symm⟩

/-- That the subject is known is all that is required. -/
theorem settles_listing (h : Judgement (.identity records :: (roles.map .view ++ rest)) r r' v)
    (hroles : ∀ role, role ∈ roles) :
    v.Settles [⟨.invalidToken, ∃ subject, records.Know r subject⟩] := by
  change v.Settles ([_] ++ [])
  refine h.settles_cons Stage.enforces_identity ?_
  rintro _ ⟨subject, -, rfl⟩ h
  obtain ⟨-, rfl⟩ := h.views_identify hroles
  exact List.forall_mem_nil _

theorem listing_of_know (h : Judgement (.identity records :: (roles.map .view ++ rest)) r r' v)
    (hroles : ∀ role, role ∈ roles) (hk : records.Know r subject) :
    r' = (r.identify subject).listed (r.roleOf subject) subject.id := by
  rcases h.identity_cons with ⟨subject', hk', h⟩ | ⟨hunknown, -⟩
  · obtain rfl := hk.unique hk'
    exact (h.views_identify hroles).1
  · exact absurd hk (hunknown subject)

end Judgement

/-! ### The whole pipeline -/

/-- The case, about the request, ended as one about the course list does. -/
structure Records.Lists (records : Records) (r : Request) (done : Case) : Prop where
  /-- It is granted if the subject is known, and otherwise refused for its token. -/
  decided : done.DecidedBy [⟨.invalidToken, ∃ subject, records.Know r subject⟩]
  /-- It is not refused for any other reason. -/
  refused : ∀ reason, done.rejection? = some reason → reason.kind = .invalidToken
  /-- It has the scope of the role in which the subject acts. -/
  shows : ∀ subject, records.Know r subject →
    done.request.Shows (r.roleOf subject) subject.id

namespace Service

variable (s : Service)

theorem stages_courseListing : (s.pipeline .courseListing).stages =
    .identity s.records :: ([.admin, .teacher, .student].map .view ++ [.denyUnclaimed]) :=
  rfl

theorem mem_courseListing (role : Role) : role ∈ [Role.admin, .teacher, .student] := by
  cases role <;> decide

variable {s}

/-- **The policy, the date, the courses, the resource and the action do not matter** when the course
list is asked for: the same questions are asked and the same comes of it. -/
theorem evaluate_listing_reword {s' : Service} (hs : s'.records.subject = s.records.subject)
    (c : Case) (resource action : String) :
    s'.evaluate .courseListing (c.modify (·.reword resource action)) =
      (·.modify (·.reword resource action)) <$> s.evaluate .courseListing c := by
  refine Pipeline.run_reword ?_ c resource action
  exact .cons (Stage.sameInOtherWords_identity hs) (.cons (Stage.sameInOtherWords_view _)
    (.cons (Stage.sameInOtherWords_view _) (.cons (Stage.sameInOtherWords_view _)
      (.cons Stage.sameInOtherWords_denyUnclaimed .nil))))

/-- **Who is known is shown the course list in the scope of the role**, whatever the caller wrote
about the scope or the subject, and nobody else is shown anything.  Neither the policy, the date,
the courses, the resource and the action nor what stands behind the stages for the roles matters. -/
theorem lists_evaluate (s : Service) (c : Case) (hc : c.isDecided = false)
    (ha : ∀ q ∈ (s.evaluate .courseListing c).lookups, s.records.outage? q = none) :
    (∃ done, (s.evaluate .courseListing c).result = .ok done ∧ s.records.Lists c.request done) ∧
    (∀ (s' : Service) (resource action : String), s'.records.subject = s.records.subject →
      s'.evaluate .courseListing (c.modify (·.reword resource action)) =
        (·.modify (·.reword resource action)) <$> s.evaluate .courseListing c) ∧
    ∀ p : Pipeline, p.first = .identity s.records →
      [.view .admin, .view .teacher, .view .student] <+: p.others →
        p.run c = s.evaluate .courseListing c := by
  refine ⟨?_, fun s' resource action hs => evaluate_listing_reword hs c resource action,
    fun p hp hviews => ?_⟩
  · obtain ⟨done, hd⟩ := (s.pipeline .courseListing).exists_result_run (s.candid _) hc ha
    obtain ⟨-, v, hj, hv⟩ := Pipeline.result_run_eq_ok _ |>.1 hd
    rw [stages_courseListing] at hj
    have hby := (hj.settles_listing mem_courseListing).decidedBy hv
    refine ⟨done, hd, hby, fun reason hreason => ?_, fun subject hk => ?_⟩
    · obtain ⟨q, hq, -, hkind⟩ :=
        ((hby.kind_iff reason.kind).1 (by rw [hreason]; rfl)).exists_not_met
      obtain rfl := List.mem_singleton.1 hq
      exact hkind.symm
    · rw [hj.listing_of_know mem_courseListing hk]
      exact Request.shows_listed (c.request.role_identify subject)
  · exact Pipeline.run_listing_append mem_courseListing rfl hp ⟨[.denyUnclaimed], rfl⟩ hviews c

/-- The student of the small campus asks for the whole list, under the number of somebody else. -/
def smallListing : Case :=
  .ofRequest (((((Request.new "r1" "student" "course.list" "list").note .viewFilter
    (.string "ALL")).note .subjectId (.int 99)).note .viewStudentId (.int 99)).note .viewOwnerId
    (.int 7))

/-- The student is shown the courses that the student takes, and would be on a day on which nobody
can count seats, too. -/
theorem lists_small :
    smallListing.isDecided = false ∧
      (∀ q ∈ (small.evaluate .courseListing smallListing).lookups,
        small.records.outage? q = none) ∧
      (∃ done, (small.evaluate .courseListing smallListing).result = .ok done ∧
        small.records.Lists smallListing.request done ∧ done.request.Shows .student 8) ∧
      smallOutage.records.subject = small.records.subject ∧
      smallOutage.evaluate .courseListing (smallListing.modify (·.reword "course/12" "see")) =
        (·.modify (·.reword "course/12" "see")) <$> small.evaluate .courseListing smallListing := by
  have ha : ∀ q ∈ (small.evaluate .courseListing smallListing).lookups,
      small.records.outage? q = none :=
    fun q _ => Roster.small.outage?_records q
  obtain ⟨⟨done, hd, hl⟩, hsame, -⟩ := lists_evaluate small smallListing rfl ha
  have hk : small.records.Know smallListing.request ⟨8, "Sam", "sam@campus.example", .student⟩ :=
    ⟨"student", by decide +kernel, rfl⟩
  exact ⟨rfl, ha, ⟨done, hd, hl, hl.shows _ hk⟩, rfl, hsame smallOutage _ _ rfl⟩

end Service

end Registrar
