import Mathlib.Data.List.Forall2
import Registrar.Proofs.Enrollment
import Registrar.Proofs.Indifference

/-!
# What is noted on a request

While a request is judged, facts are noted on it.  Each stage notes a few, always the same ones for
the same outcome, and everything else stays as the caller gave it.

* `Request.Notes`: a request became another one by noting facts.
* `Footprint`: what a stage can note, by how the request leaves it; `Stage.Leaves` says that a stage
  has a footprint.
* `Footprint.endings`: the footprints of a row of stages, put together.
* `Judgement.exists_ending`: a row of stages notes what its footprints say.
* `PipelineKind.facts`, `RejectionKind.trails`: what a pipeline can note, and what had been noted
  when a request was refused.
* `Service.framed_evaluate`: **a judging changes nothing but what its pipeline notes**, and a
  refusal comes before anything is noted on behalf of later stages.
-/

namespace Registrar

/-! ### Noting facts in a row -/

namespace Metadata

variable {m : Metadata} {notes : List (Fact × Json)} {name : String}

theorem get?_noteAll_of_forall_ne (h : ∀ note ∈ notes, note.1.name ≠ name) :
    (m.noteAll notes).get? name = m.get? name := by
  induction notes generalizing m with
  | nil => rfl
  | cons note notes ih =>
    rw [List.forall_mem_cons] at h
    have hnotes := ih (m := m.insert note.1.name note.2) h.2
    rw [Table.get?_insert, if_neg (Ne.symm h.1)] at hnotes
    exact hnotes

theorem isSome_get?_noteAll (h : (m.get? name).isSome = true) :
    ((m.noteAll notes).get? name).isSome = true := by
  induction notes generalizing m with
  | nil => exact h
  | cons note notes ih =>
    refine ih (m := m.insert note.1.name note.2) ?_
    rw [Table.get?_insert]
    split
    · rfl
    · exact h

end Metadata

namespace Request

/-- The request with facts noted, in order. -/
def noteAll (r : Request) (notes : List (Fact × Json)) : Request :=
  { r with metadata := r.metadata.noteAll notes }

/-- The second request is the first one with these facts noted on it, in order, with some values. -/
def Notes (r : Request) (facts : List Fact) (r' : Request) : Prop :=
  ∃ notes, notes.map Prod.fst = facts ∧ r' = r.noteAll notes

namespace Notes

variable {r r' r'' : Request} {facts facts' : List Fact}

theorem nothing (r : Request) : r.Notes [] r := ⟨[], rfl, rfl⟩

theorem trans (h : r.Notes facts r') (h' : r'.Notes facts' r'') :
    r.Notes (facts ++ facts') r'' := by
  obtain ⟨notes, rfl, rfl⟩ := h
  obtain ⟨notes', rfl, rfl⟩ := h'
  refine ⟨notes ++ notes', List.map_append, ?_⟩
  rw [noteAll, noteAll, noteAll, Metadata.noteAll, Metadata.noteAll, Metadata.noteAll,
    List.foldl_append]

theorem note (h : r.Notes facts r') (f : Fact) (v : Json) :
    r.Notes (facts ++ [f]) (r'.note f v) :=
  h.trans ⟨[(f, v)], rfl, rfl⟩

end Notes

end Request

/-! ### Footprints -/

/-- How the judging of a request ends, apart from the explanation. -/
inductive Ending where
  /-- It is granted. -/
  | granted
  /-- It is refused for this kind of reason. -/
  | refused (kind : RejectionKind)
  deriving DecidableEq

/-- How a verdict ends the judging. -/
def Verdict.ending : Verdict → Ending
  | approved => .granted
  | rejected reason => .refused reason.kind

/-- What a stage can note on a request. -/
structure Footprint where
  /-- The facts on a request that goes on. -/
  passes : List (List Fact)
  /-- The facts on a request that does not, and how its judging ends. -/
  ends : List (Ending × List Fact)

/-- The reply is within the footprint. -/
inductive Reply.Leaves (r : Request) (f : Footprint) : Reply → Prop
  /-- The request goes on. -/
  | proceed {facts : List Fact} {r₁ : Request} : facts ∈ f.passes → r.Notes facts r₁ →
      Leaves r f ⟨r₁, .proceed⟩
  /-- It is granted. -/
  | approve {facts : List Fact} {r₁ : Request} : (.granted, facts) ∈ f.ends → r.Notes facts r₁ →
      Leaves r f ⟨r₁, .approve⟩
  /-- It is refused. -/
  | reject {facts : List Fact} {r₁ : Request} {reason : Rejection} :
      (.refused reason.kind, facts) ∈ f.ends → r.Notes facts r₁ → Leaves r f ⟨r₁, .reject reason⟩

/-- The replies of the stage are within the footprint. -/
def Stage.Leaves (s : Stage) (f : Footprint) : Prop :=
  ∀ r reply, (s.handle r).result = .ok reply → reply.Leaves r f

/-- How a row of stages with these footprints can end a judging, and the facts that are noted by
then. -/
def Footprint.endings : List Footprint → List (Ending × List Fact)
  | [] => [(.granted, [])]
  | f :: fs => f.ends ++
      f.passes.flatMap fun facts => (endings fs).map fun e => (e.1, facts ++ e.2)

/-- **A row of stages notes what its footprints say.** -/
theorem Judgement.exists_ending {ss : List Stage} {fs : List Footprint} {r r' : Request}
    {v : Verdict} (h : Judgement ss r r' v) (hss : List.Forall₂ Stage.Leaves ss fs) :
    ∃ facts, (v.ending, facts) ∈ Footprint.endings fs ∧ r.Notes facts r' := by
  induction h generalizing fs with
  | passed r =>
    cases hss
    exact ⟨[], List.mem_singleton_self _, .nothing r⟩
  | proceed hs _ ih =>
    obtain _ | ⟨hleaves, hss⟩ := hss
    cases hleaves _ _ hs with
    | proceed hmem hnotes =>
      -- What the later stages note comes after what this one has noted.
      obtain ⟨facts, hfacts, hnotes'⟩ := ih hss
      exact ⟨_, List.mem_append_right _ (List.mem_flatMap.2 ⟨_, hmem, List.mem_map_of_mem hfacts⟩),
        hnotes.trans hnotes'⟩
  | approve hs =>
    obtain _ | ⟨hleaves, hss⟩ := hss
    cases hleaves _ _ hs with
    | approve hmem hnotes => exact ⟨_, List.mem_append_left _ hmem, hnotes⟩
  | reject hs =>
    obtain _ | ⟨hleaves, hss⟩ := hss
    cases hleaves _ _ hs with
    | reject hmem hnotes => exact ⟨_, List.mem_append_left _ hmem, hnotes⟩

/-! ### The footprints of the stages -/

namespace Fact

/-- Who the subject is. -/
def ofSubject : List Fact := [subjectId, subjectName, subjectEmail]

/-- How many seats a course has and how many of them are taken. -/
def ofSeats : List Fact := [courseType, seatLimit, enrollmentCount]

/-- The period for which a course is authored. -/
def ofPeriod : List Fact := [validatedPeriod, periodYear, periodTerm]

/-- Who will own a course. -/
def ofOwner : List Fact := [ownerIdRequested, autoAssigned]

end Fact

namespace Footprint

/-- Nothing is noted, and requests are refused for a reason of this kind alone. -/
def guard (kind : RejectionKind) : Footprint := ⟨[[]], [(.refused kind, [])]⟩

/-- The period of a course is noted even if the course is over. -/
def schedule : Footprint :=
  ⟨[[], [.coursePeriod]], [(.refused .enrollmentClosed, [.coursePeriod])]⟩

/-- The seats of a course are noted even if none is free. -/
def seatCapacity : Footprint :=
  ⟨[[], Fact.ofSeats ++ [.seatsAvailable]],
    [(.refused .courseNotFound, []), (.refused .capacityExceeded, Fact.ofSeats)]⟩

/-- A period is noted only if it is open. -/
def academicPeriod : Footprint :=
  ⟨[[], Fact.ofPeriod], PeriodIssue.all.map fun issue => (.refused (.invalidPeriod issue), [])⟩

/-- An owner is noted only if it is settled. -/
def assignOwner : Footprint :=
  ⟨[[], Fact.ofOwner], [(.refused .notAuthorizedToAuthorCourses, []), (.refused .ownerRequired, []),
    (.refused .cannotAssignOtherTeacher, []), (.refused .invalidOwnerId, [])]⟩

/-- The scope of one role is noted. -/
def view (role : Role) : Footprint :=
  ⟨[[]], (.granted, [.viewFilter]) ::
    role.scope.holder?.toList.map fun holder => (.granted, [.viewFilter, holder])⟩

/-- Nothing is noted and nothing goes on. -/
def denyUnclaimed : Footprint := ⟨[], [(.refused .roleNotAuthorized, [])]⟩

end Footprint

/-- A refusal is within a footprint that has its kind and what was noted by then. -/
theorem Reply.Leaves.refused {r r₁ : Request} {f : Footprint} {kind : RejectionKind}
    {facts : List Fact} (h : (.refused kind, facts) ∈ f.ends) (hnotes : r.Notes facts r₁)
    (message : String) : (Reply.reject r₁ kind message).Leaves r f :=
  .reject h hnotes

namespace Stage

variable {tables : Tables} {records : Records} {today : Date}

theorem leaves_ofReply {name : String} {reply : Request → Reply} {f : Footprint}
    (h : ∀ r, (reply r).Leaves r f) : (ofReply name reply).Leaves f := by
  intro r reply' hr
  obtain rfl : reply r = reply' := by simpa [ofReply] using hr
  exact h r

theorem leaves_role : (role tables).Leaves (.guard .roleNotAuthorized) := by
  refine leaves_ofReply fun r => ?_
  unfold roleReply
  split
  · exact .proceed (by decide) (.nothing r)
  · split
    · exact .refused (by decide) (.nothing r) _
    · split
      · exact .proceed (by decide) (.nothing r)
      · exact .refused (by decide) (.nothing r) _

theorem leaves_permission : (permission tables).Leaves (.guard .permissionDenied) := by
  refine leaves_ofReply fun r => ?_
  unfold permissionReply
  split
  · exact .refused (by decide) (.nothing r) _
  · split
    · exact .proceed (by decide) (.nothing r)
    · split
      · exact .proceed (by decide) (.nothing r)
      · split
        · exact .proceed (by decide) (.nothing r)
        · exact .refused (by decide) (.nothing r) _

theorem leaves_scheduleReply (course : Int64) (raw : Option String) (r : Request) :
    (scheduleReply today course raw r).Leaves r .schedule := by
  unfold scheduleReply
  split
  · have hnotes (p : Period) := (Request.Notes.nothing r).note .coursePeriod (.string p.label)
    dsimp only
    split
    · exact .refused (by decide) (hnotes _) _
    · exact .proceed (by decide) (hnotes _)
  · exact .proceed (by decide) (.nothing r)

theorem leaves_schedule : (schedule records today).Leaves .schedule := by
  intro r reply h
  unfold schedule at h
  dsimp only at h
  split at h
  · split at h
    · obtain ⟨raw, -, h⟩ := Consult.result_bind_eq_ok.1 h
      obtain rfl := Except.ok.inj h
      exact leaves_scheduleReply ..
    · obtain rfl := Except.ok.inj h
      exact .proceed (by decide) (.nothing r)
  · obtain rfl := Except.ok.inj h
    exact .proceed (by decide) (.nothing r)

theorem leaves_unresolvedReply (r : Request) (message : String) :
    (unresolvedReply tables r message).Leaves r .seatCapacity := by
  unfold unresolvedReply
  split
  · exact .proceed (by decide) (.nothing r)
  · exact .refused (by decide) (.nothing r) _

theorem leaves_capacityReply (course : Int64) (modality : Modality) (enrolled : UInt32)
    (r : Request) : (capacityReply tables course modality enrolled r).Leaves r .seatCapacity := by
  have hseats := (((Request.Notes.nothing r).note .courseType (.string modality.key)).note
    .seatLimit (.int (tables.seatLimit modality).toNat)).note .enrollmentCount
    (.int enrolled.toNat)
  unfold capacityReply
  dsimp only
  split
  · exact .refused (by decide) hseats _
  · exact .proceed (by decide) (hseats.note _ _)

theorem leaves_seatCapacity : (seatCapacity tables records).Leaves .seatCapacity := by
  intro r reply h
  unfold seatCapacity at h
  dsimp only at h
  split at h
  · split at h
    · obtain rfl := Except.ok.inj h
      exact leaves_unresolvedReply ..
    · obtain ⟨answer, -, h⟩ := Consult.result_bind_eq_ok.1 h
      split at h
      · obtain rfl := Except.ok.inj h
        exact leaves_unresolvedReply ..
      · obtain ⟨enrolled, -, h⟩ := Consult.result_bind_eq_ok.1 h
        obtain rfl := Except.ok.inj h
        exact leaves_capacityReply ..
  · obtain rfl := Except.ok.inj h
    exact .proceed (by decide) (.nothing r)

theorem leaves_openPeriodReply (p : Period) (r : Request) :
    (openPeriodReply today p r).Leaves r .academicPeriod := by
  unfold openPeriodReply
  split
  · next issue _ => exact .refused (by cases issue <;> decide) (.nothing r) _
  · exact .proceed (by decide) ((((Request.Notes.nothing r).note ..).note ..).note ..)

theorem leaves_academicPeriod : (academicPeriod today).Leaves .academicPeriod := by
  refine leaves_ofReply fun r => ?_
  unfold periodReply
  split
  · split
    · split
      · exact .proceed (by decide) (.nothing r)
      · exact .refused (by decide) (.nothing r) _
    · split
      · exact leaves_openPeriodReply ..
      · exact .refused (by decide) (.nothing r) _
    · exact .refused (by decide) (.nothing r) _
  · exact .proceed (by decide) (.nothing r)

theorem leaves_ownedBy (r : Request) (owner : Int64) (assigned : Bool) :
    (ownedBy r owner assigned).Leaves r .assignOwner :=
  .proceed (by decide) (((Request.Notes.nothing r).note ..).note ..)

theorem leaves_teacherReply (r : Request) : (teacherReply r).Leaves r .assignOwner := by
  unfold teacherReply
  split
  · exact .refused (by decide) (.nothing r) _
  · split
    · exact leaves_ownedBy ..
    · split
      · exact leaves_ownedBy ..
      · exact .refused (by decide) (.nothing r) _
    · exact .refused (by decide) (.nothing r) _

theorem leaves_adminReply (r : Request) : (adminReply r).Leaves r .assignOwner := by
  unfold adminReply
  split
  · exact .refused (by decide) (.nothing r) _
  · split
    · exact leaves_ownedBy ..
    · exact .refused (by decide) (.nothing r) _
  · exact .refused (by decide) (.nothing r) _

theorem leaves_assignOwner : assignOwner.Leaves .assignOwner := by
  refine leaves_ofReply fun r => ?_
  unfold ownerReply
  split
  · split
    · exact .refused (by decide) (.nothing r) _
    · exact .refused (by decide) (.nothing r) _
    · exact leaves_teacherReply r
    · exact leaves_adminReply r
  · exact .proceed (by decide) (.nothing r)

theorem leaves_view (role : Role) : (view role).Leaves (.view role) := by
  refine leaves_ofReply fun r => ?_
  have hfiltered := (Request.Notes.nothing r).note .viewFilter (.string role.scope.name)
  unfold viewReply
  split
  · dsimp only
    split
    · next holder id hholder _ =>
      have hmem : (.granted, [.viewFilter, holder]) ∈ (Footprint.view role).ends := by
        simp [Footprint.view, hholder]
      exact .approve hmem (hfiltered.note holder id)
    · exact .approve List.mem_cons_self hfiltered
  · exact .proceed (List.mem_singleton_self _) (.nothing r)

theorem leaves_denyUnclaimed : denyUnclaimed.Leaves .denyUnclaimed := by
  refine leaves_ofReply fun r => ?_
  unfold unclaimedReply
  split
  · exact .refused (by decide) (.nothing r) _
  · exact .refused (by decide) (.nothing r) _

end Stage

/-! ### The footprints of the pipelines -/

namespace PipelineKind

/-- The footprints of the stages behind the first one. -/
def footprints : PipelineKind → List Footprint
  | general => [.guard .roleNotAuthorized, .guard .permissionDenied, .schedule, .seatCapacity]
  | courseAuthoring =>
    [.guard .roleNotAuthorized, .guard .permissionDenied, .academicPeriod, .assignOwner]
  | courseListing => [.view .admin, .view .teacher, .view .student, .denyUnclaimed]

/-- The facts that a pipeline can note. -/
def facts : PipelineKind → List Fact
  | general => Fact.ofSubject ++ [.coursePeriod] ++ Fact.ofSeats ++ [.seatsAvailable]
  | courseAuthoring => Fact.ofSubject ++ Fact.ofPeriod ++ Fact.ofOwner
  | courseListing => Fact.ofSubject ++ [.viewFilter, .viewOwnerId, .viewStudentId]

/-- What may have been noted when a request was granted. -/
def grants : PipelineKind → List (List Fact)
  | general => [Fact.ofSubject, Fact.ofSubject ++ [.coursePeriod],
      Fact.ofSubject ++ Fact.ofSeats ++ [.seatsAvailable],
      Fact.ofSubject ++ [.coursePeriod] ++ Fact.ofSeats ++ [.seatsAvailable]]
  | courseAuthoring => [Fact.ofSubject, Fact.ofSubject ++ Fact.ofPeriod,
      Fact.ofSubject ++ Fact.ofOwner, Fact.ofSubject ++ Fact.ofPeriod ++ Fact.ofOwner]
  | courseListing => [Fact.ofSubject ++ [.viewFilter],
      Fact.ofSubject ++ [.viewFilter, .viewOwnerId],
      Fact.ofSubject ++ [.viewFilter, .viewStudentId]]

end PipelineKind

/-- What may have been noted when a request was refused: nothing on behalf of the stages behind the
one that refused it. -/
def RejectionKind.trails : RejectionKind → List (List Fact)
  | invalidToken => [[]]
  | roleNotAuthorized | permissionDenied | invalidPeriod _ => [Fact.ofSubject]
  | enrollmentClosed => [Fact.ofSubject ++ [.coursePeriod]]
  | courseNotFound => [Fact.ofSubject, Fact.ofSubject ++ [.coursePeriod]]
  | capacityExceeded =>
    [Fact.ofSubject ++ Fact.ofSeats, Fact.ofSubject ++ [.coursePeriod] ++ Fact.ofSeats]
  | cannotAssignOtherTeacher | ownerRequired | invalidOwnerId | notAuthorizedToAuthorCourses =>
    [Fact.ofSubject, Fact.ofSubject ++ Fact.ofPeriod]

/-- What may have been noted when the judging ended. -/
def PipelineKind.trails (kind : PipelineKind) : Ending → List (List Fact)
  | .granted => kind.grants
  | .refused reason => reason.trails

namespace PipelineKind

variable (kind : PipelineKind)

theorem trail_of_mem_endings :
    ∀ e ∈ Footprint.endings kind.footprints, Fact.ofSubject ++ e.2 ∈ kind.trails e.1 := by
  cases kind <;> decide

theorem mem_facts_of_mem_endings :
    ∀ e ∈ Footprint.endings kind.footprints, ∀ f ∈ Fact.ofSubject ++ e.2, f ∈ kind.facts := by
  cases kind <;> decide

theorem ending_ne_of_mem_endings :
    ∀ e ∈ Footprint.endings kind.footprints, e.1 ≠ .refused .invalidToken := by
  cases kind <;> decide

/-- Courses are shown as those of one person alone. -/
theorem holder_of_mem_endings : ∀ e ∈ Footprint.endings kind.footprints,
    Fact.viewOwnerId ∉ Fact.ofSubject ++ e.2 ∨ Fact.viewStudentId ∉ Fact.ofSubject ++ e.2 := by
  cases kind <;> decide

end PipelineKind

theorem Request.notes_identify (r : Request) (subject : Subject) :
    (r.claimRole subject.role).Notes Fact.ofSubject (r.identify subject) :=
  (((Notes.nothing _).note ..).note ..).note ..

namespace Service

variable {s : Service} {kind : PipelineKind}

theorem leaves_others (s : Service) (kind : PipelineKind) :
    List.Forall₂ Stage.Leaves (s.pipeline kind).others kind.footprints := by
  cases kind with
  | general =>
    exact .cons Stage.leaves_role (.cons Stage.leaves_permission
      (.cons Stage.leaves_schedule (.cons Stage.leaves_seatCapacity .nil)))
  | courseAuthoring =>
    exact .cons Stage.leaves_role (.cons Stage.leaves_permission
      (.cons Stage.leaves_academicPeriod (.cons Stage.leaves_assignOwner .nil)))
  | courseListing =>
    exact .cons (Stage.leaves_view _) (.cons (Stage.leaves_view _)
      (.cons (Stage.leaves_view _) (.cons Stage.leaves_denyUnclaimed .nil)))

/-- The case, about the request, was judged by the pipeline, and nothing else was changed than what
this pipeline notes. -/
structure Framed (s : Service) (kind : PipelineKind) (r : Request) (done : Case) : Prop where
  /-- It has the same name. -/
  id : done.request.id = r.id
  /-- It shows the same token. -/
  token : done.request.token = r.token
  /-- It is for the same resource. -/
  resource : done.request.resource = r.resource
  /-- It asks for the same action. -/
  action : done.request.action = r.action
  /-- It keeps the role that it had. -/
  presetRole : ∀ role, r.role = some role → done.request.role = some role
  /-- If it had none, it gets that of the subject, when the subject is known. -/
  ownRole : r.role = none → ∀ role, done.request.role = some role ↔
    ∃ subject, s.records.Know r subject ∧ subject.role = role
  /-- Nothing that was known is forgotten. -/
  kept : ∀ name, (r.metadata.get? name).isSome = true →
    (done.request.metadata.get? name).isSome = true
  /-- What is not among the facts that the pipeline notes is as it was. -/
  outside : ∀ name, name ∉ kind.facts.map Fact.name →
    done.request.metadata.get? name = r.metadata.get? name
  /-- Courses are not shown as those of a teacher and as those of a student. -/
  holder : done.request.metadata.get? "viewOwnerId" = r.metadata.get? "viewOwnerId" ∨
    done.request.metadata.get? "viewStudentId" = r.metadata.get? "viewStudentId"
  /-- A request whose subject nobody knows is left as it was. -/
  unknown : done.rejection?.map (·.kind) = some .invalidToken → done.request = r
  /-- What was noted, in order, is what belongs to the end to which the judging came. -/
  noted : ∃ v notes, done.verdict = some v ∧ notes.map Prod.fst ∈ kind.trails v.ending ∧
    done.request.metadata = r.metadata.noteAll notes

namespace Framed

variable {r : Request}

theorem of_unknown (h : ∀ subject, ¬ s.records.Know r subject) (message : String) :
    s.Framed kind r ⟨r, false, some ⟨.invalidToken, message⟩⟩ where
  id := rfl
  token := rfl
  resource := rfl
  action := rfl
  presetRole _ hr := hr
  ownRole hr role := by
    rw [hr]
    constructor
    · nofun
    · rintro ⟨subject, hk, -⟩
      exact absurd hk (h subject)
  kept _ h := h
  outside _ _ := rfl
  holder := .inl rfl
  unknown _ := rfl
  noted := ⟨.rejected ⟨.invalidToken, message⟩, [], rfl, List.mem_singleton_self _, rfl⟩

/-- A request whose subject is known is left with the subject noted, and then what the stages
noted. -/
theorem of_notes {r' : Request} {v : Verdict} {subject : Subject} {facts : List Fact}
    (hk : s.records.Know r subject) (hmem : (v.ending, facts) ∈ Footprint.endings kind.footprints)
    (hnotes : (r.claimRole subject.role).Notes (Fact.ofSubject ++ facts) r') :
    s.Framed kind r ⟨r', v = .approved, v.reason?⟩ := by
  obtain ⟨notes, hfacts, rfl⟩ := hnotes
  have untouched {name : String} (h : ∀ f ∈ Fact.ofSubject ++ facts, f.name ≠ name) :
      (r.metadata.noteAll notes).get? name = r.metadata.get? name := by
    refine Metadata.get?_noteAll_of_forall_ne fun note hnote => h note.1 ?_
    rw [← hfacts]
    exact List.mem_map_of_mem hnote
  have untouched_of_not_mem {f : Fact} (h : f ∉ Fact.ofSubject ++ facts) :
      (r.metadata.noteAll notes).get? f.name = r.metadata.get? f.name :=
    untouched fun g hg hn => h (Fact.name_injective hn ▸ hg)
  exact
    { id := rfl
      token := rfl
      resource := rfl
      action := rfl
      presetRole := fun role hr => by rw [Request.noteAll, Request.claimRole, hr]; rfl
      ownRole := fun hr role => by
        rw [Request.noteAll, Request.claimRole, hr]
        constructor
        · intro hrole
          exact ⟨subject, hk, Option.some.inj hrole⟩
        · rintro ⟨subject', hk', rfl⟩
          rw [hk'.unique hk]
          rfl
      kept := fun name h => Metadata.isSome_get?_noteAll h
      outside := fun name hname => untouched fun f hf hn =>
        hname (List.mem_map.2 ⟨f, kind.mem_facts_of_mem_endings _ hmem f hf, hn⟩)
      holder := (kind.holder_of_mem_endings _ hmem).imp untouched_of_not_mem untouched_of_not_mem
      unknown := fun hkind => by
        cases v with
        | approved => cases hkind
        | rejected reason =>
          have hending : (Verdict.rejected reason).ending = .refused .invalidToken :=
            congrArg Ending.refused (Option.some.inj hkind)
          exact absurd hending (kind.ending_ne_of_mem_endings _ hmem)
      noted := ⟨v, notes, Case.verdict_eq_some_iff.2 ⟨rfl, rfl⟩,
        hfacts ▸ kind.trail_of_mem_endings _ hmem, rfl⟩ }

end Framed

/-- **A judging changes nothing but what its pipeline notes.**  The request keeps its name, its
token, its resource, its action and its role, if it has one, and everything that is known about it
under other names.  A refusal comes before anything is noted on behalf of later stages. -/
theorem framed_evaluate {c done : Case} (hd : (s.evaluate kind c).result = .ok done) :
    s.Framed kind c.request done := by
  obtain ⟨-, v, hj, hv⟩ := (Pipeline.result_run_eq_ok _).1 hd
  obtain ⟨r', approved, reason⟩ := done
  obtain ⟨rfl, rfl⟩ := Case.verdict_eq_some_iff.1 hv
  rw [stages_eq] at hj
  rcases hj.identity_cons with ⟨subject, hk, hj⟩ | ⟨hunknown, hr, message, rfl⟩
  · obtain ⟨facts, hmem, hnotes⟩ := hj.exists_ending (s.leaves_others kind)
    exact .of_notes hk hmem ((c.request.notes_identify subject).trans hnotes)
  · obtain rfl : r' = c.request := hr
    exact .of_unknown hunknown message

/-- A student of the small campus enrolls in its course and claims that seats are free. -/
def smallClaim : Case := smallEnrollment.modify (·.note .seatsAvailable (.int 9))

/-- As the course is full, the student is refused before free seats are noted, and the claim stays
as the student wrote it. -/
theorem framed_small :
    ∃ done, (small.evaluate .general smallClaim).result = .ok done ∧
      small.Framed .general smallClaim.request done ∧
      done.rejection?.map (·.kind) = some .capacityExceeded ∧
      done.request.role = some .student ∧
      done.request.int64? .seatLimit = some 1 ∧ done.request.int64? .seatsAvailable = some 9 := by
  have hk : (small.evaluate .general smallClaim).result.toOption.map (fun done =>
      (done.rejection?.map (·.kind), done.request.role, done.request.int64? .seatLimit,
        done.request.int64? .seatsAvailable)) =
      some (some .capacityExceeded, some .student, some 1, some 9) := by
    decide +kernel
  cases hd : (small.evaluate .general smallClaim).result with
  | error e =>
    rw [hd] at hk
    cases hk
  | ok done =>
    rw [hd] at hk
    simp only [Except.toOption, Option.map_some, Option.some.injEq, Prod.mk.injEq] at hk
    exact ⟨done, rfl, framed_evaluate hd, hk⟩

end Service

end Registrar
