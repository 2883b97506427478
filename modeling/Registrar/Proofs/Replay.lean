import Registrar.Proofs.Authoring
import Registrar.Proofs.Frame
import Registrar.Proofs.Listing
import Registrar.Proofs.Questions

/-!
# Asking again

A request that was granted can be made again, with all that was known about it in the end.  Each
stage then finds what it noted the first time, says the same, and notes it anew.  Only an owner who
was assigned to a course does not count as assigned any more, for now the request names the owner.

* `Request.reminded`: a request with other facts in place of its own.
* `Stage.Repeats`: a stage that says the same to a request that knows what the stage notes.
* `Stage.Regrants`: a row of stages that grants again what it has granted; `Stage.Regrants.cons`
  puts a stage that repeats itself in front.
* `PipelineKind.again`: what a pipeline changes when it judges for the second time.
* `Service.evaluate_reminded`: **what was granted is granted again**, and nothing else changes.
-/

namespace Registrar

/-! ### Facts that are known already -/

namespace Metadata

variable {m n : Metadata} {notes : List (Fact × Json)}

/-- Both know the same about these facts. -/
def AgreesAt (facts : List Fact) (m n : Metadata) : Prop :=
  ∀ f ∈ facts, m.get? f.name = n.get? f.name

theorem get?_noteAll_of_mem {f : Fact} (h : f ∈ notes.map Prod.fst) :
    (m.noteAll notes).get? f.name = (n.noteAll notes).get? f.name := by
  induction notes generalizing m n with
  | nil => cases h
  | cons note notes ih =>
    by_cases hf : f ∈ notes.map Prod.fst
    · exact ih hf
    · -- The first note is the last word on its fact.
      obtain rfl : f = note.1 := (List.mem_cons.1 h).resolve_right hf
      have hne : ∀ note' ∈ notes, note'.1.name ≠ note.1.name := by
        intro note' hmem hname
        exact hf (Fact.name_injective hname ▸ List.mem_map_of_mem hmem)
      have hword (l : Metadata) : (l.noteAll (note :: notes)).get? note.1.name = some note.2 := by
        change (noteAll (l.insert note.1.name note.2) notes).get? _ = _
        rw [get?_noteAll_of_forall_ne hne, Table.get?_insert, if_pos rfl]
      rw [hword, hword]

theorem noteAll_eq_self (h : m.AgreesAt (notes.map Prod.fst) (n.noteAll notes)) :
    m.noteAll notes = m := by
  refine Table.ext_get? fun name => ?_
  by_cases hname : ∃ note ∈ notes, note.1.name = name
  · obtain ⟨note, hmem, rfl⟩ := hname
    have hf : note.1 ∈ notes.map Prod.fst := List.mem_map_of_mem hmem
    rw [get?_noteAll_of_mem (n := n) hf, h _ hf]
  · exact get?_noteAll_of_forall_ne fun note hmem hn => hname ⟨note, hmem, hn⟩

end Metadata

namespace Request

variable {r r' : Request} {m : Metadata} {f : Fact}

/-- The request with these facts in place of its own. -/
def reminded (r : Request) (m : Metadata) : Request := { r with metadata := m }

theorem note_eq_self {v : Json} (h : r.metadata.get? f.name = some v) : r.note f v = r :=
  congrArg r.reminded (Table.insert_eq_self _ h)

@[simp] theorem role_reminded : (r.reminded m).role = r.role := rfl

@[simp] theorem resource_reminded : (r.reminded m).resource = r.resource := rfl

@[simp] theorem action_reminded : (r.reminded m).action = r.action := rfl

theorem reminded_noteAll {notes : List (Fact × Json)}
    (h : m.AgreesAt (notes.map Prod.fst) (r.noteAll notes).metadata) :
    (r.reminded m).noteAll notes = (r.noteAll notes).reminded m :=
  congrArg r.reminded (Metadata.noteAll_eq_self h)

theorem fact?_reminded (h : m.get? f.name = r.metadata.get? f.name) :
    (r.reminded m).fact? f = r.fact? f := by
  change (m.get? f.name).filter _ = _
  rw [h]
  rfl

theorem courseId?_reminded (h : m.get? Fact.courseId.name = r.metadata.get? Fact.courseId.name) :
    (r.reminded m).courseId? = r.courseId? := by
  unfold courseId?
  rw [fact?_reminded h]
  rfl

theorem Notes.get?_metadata {facts : List Fact} (h : r.Notes facts r') (hf : f ∉ facts) :
    r'.metadata.get? f.name = r.metadata.get? f.name := by
  obtain ⟨notes, rfl, rfl⟩ := h
  refine Metadata.get?_noteAll_of_forall_ne fun note hnote hname => hf ?_
  rw [← Fact.name_injective hname]
  exact List.mem_map_of_mem hnote

end Request

/-! ### Stages that repeat themselves -/

/-- The reply with other facts on the request. -/
def Reply.reminded (reply : Reply) (m : Metadata) : Reply :=
  ⟨reply.request.reminded m, reply.outcome⟩

namespace Stage

variable {tables : Tables} {records : Records} {today : Date}

/-- The stage grants nothing, and it says the same to a request that knows already what the stage
has noted, on which it notes nothing new.  The facts are those with which the stage has to do. -/
structure Repeats (s : Stage) (facts : List Fact) : Prop where
  /-- It leaves it to the other stages to grant a request. -/
  waits : ∀ r reply, (s.handle r).result = .ok reply → reply.outcome ≠ .approve
  /-- It says the same. -/
  again : ∀ r reply m, (s.handle r).result = .ok reply →
    m.AgreesAt facts reply.request.metadata →
      (s.handle (r.reminded m)).result = .ok (reply.reminded m)

theorem Leaves.waits {s : Stage} {fp : Footprint} (hs : s.Leaves fp)
    (hends : ∀ e ∈ fp.ends, e.1 ≠ .granted) (r : Request) (reply : Reply)
    (h : (s.handle r).result = .ok reply) : reply.outcome ≠ .approve := by
  cases hs r reply h with
  | proceed _ _ => nofun
  | approve hmem _ => exact absurd rfl (hends _ hmem)
  | reject _ _ => nofun

theorem Leaves.get?_metadata {s : Stage} {fp : Footprint} (hs : s.Leaves fp) {r : Request}
    {reply : Reply} (h : (s.handle r).result = .ok reply) {f : Fact}
    (hf : ∀ facts ∈ fp.passes ++ fp.ends.map Prod.snd, f ∉ facts) :
    reply.request.metadata.get? f.name = r.metadata.get? f.name := by
  have hend {e : Ending} {facts : List Fact} (he : (e, facts) ∈ fp.ends) : f ∉ facts :=
    hf _ (List.mem_append_right _ (List.mem_map_of_mem he))
  cases hs r reply h with
  | proceed hmem hnotes => exact hnotes.get?_metadata (hf _ (List.mem_append_left _ hmem))
  | approve hmem hnotes => exact hnotes.get?_metadata (hend hmem)
  | reject hmem hnotes => exact hnotes.get?_metadata (hend hmem)

theorem again_ofReply {name : String} {reply : Request → Reply} {facts : List Fact}
    (h : ∀ r m, m.AgreesAt facts (reply r).request.metadata →
      reply (r.reminded m) = (reply r).reminded m) (r : Request) (reply' : Reply) (m : Metadata)
    (hr : ((ofReply name reply).handle r).result = .ok reply')
    (hm : m.AgreesAt facts reply'.request.metadata) :
    ((ofReply name reply).handle (r.reminded m)).result = .ok (reply'.reminded m) := by
  obtain rfl : reply r = reply' := Except.ok.inj hr
  exact congrArg Except.ok (h r m hm)

theorem repeats_role : (role tables).Repeats [] where
  waits := leaves_role.waits (by decide)
  again := by
    refine again_ofReply fun r m _ => ?_
    unfold roleReply
    rw [Request.role_reminded, Request.resource_reminded]
    split
    · rfl
    · split
      · rfl
      · split <;> rfl

theorem repeats_permission : (permission tables).Repeats [] where
  waits := leaves_permission.waits (by decide)
  again := by
    refine again_ofReply fun r m _ => ?_
    unfold permissionReply
    rw [Request.role_reminded, Request.resource_reminded, Request.action_reminded]
    split
    · rfl
    · split
      · rfl
      · split
        · rfl
        · split <;> rfl

theorem scheduleReply_reminded {r : Request} {m : Metadata} {course : Int64} {raw : Option String}
    (hm : m.AgreesAt [.coursePeriod] (scheduleReply today course raw r).request.metadata) :
    scheduleReply today course raw (r.reminded m) = (scheduleReply today course raw r).reminded m := by
  unfold scheduleReply at hm ⊢
  split
  · next p hp =>
    have hnoted : (r.reminded m).noteAll [(.coursePeriod, .string p.label)] =
        (r.noteAll [(.coursePeriod, .string p.label)]).reminded m := by
      refine Request.reminded_noteAll fun f hf => (hm f hf).trans ?_
      simp only [hp]
      split <;> rfl
    dsimp only
    split
    · exact congrArg (Reply.reject · _ _) hnoted
    · exact congrArg Reply.proceed hnoted
  · rfl

theorem repeats_schedule :
    (schedule records today).Repeats [.courseId, .coursePeriod] where
  waits := leaves_schedule.waits (by decide)
  again r reply m h hm := by
    have hcourse : (r.reminded m).courseId? = r.courseId? :=
      Request.courseId?_reminded ((hm .courseId (by decide)).trans
        (leaves_schedule.get?_metadata h (by decide)))
    have hdoes : (r.reminded m).does "enroll" = r.does "enroll" := rfl
    unfold schedule at h ⊢
    dsimp only at h ⊢
    rw [hdoes, hcourse]
    revert h
    split
    · split
      · intro h
        obtain ⟨raw, hraw, h⟩ := Consult.result_bind_eq_ok.1 h
        obtain rfl := Except.ok.inj h
        refine Consult.result_bind_eq_ok.2 ⟨raw, hraw, congrArg Except.ok ?_⟩
        exact scheduleReply_reminded fun f hf => hm f (List.mem_cons_of_mem _ hf)
      · rintro ⟨⟩
        rfl
    · rintro ⟨⟩
      rfl

theorem unresolvedReply_reminded (r : Request) (m : Metadata) (message : String) :
    unresolvedReply tables (r.reminded m) message = (unresolvedReply tables r message).reminded m := by
  unfold unresolvedReply
  split <;> rfl

theorem capacityReply_reminded {r : Request} {m : Metadata} {course : Int64} {modality : Modality}
    {enrolled : UInt32}
    (hm : m.AgreesAt (Fact.ofSeats ++ [.seatsAvailable])
      (capacityReply tables course modality enrolled r).request.metadata) :
    capacityReply tables course modality enrolled (r.reminded m) =
      (capacityReply tables course modality enrolled r).reminded m := by
  let seats : List (Fact × Json) := [(.courseType, .string modality.key),
    (.seatLimit, .int (tables.seatLimit modality).toNat), (.enrollmentCount, .int enrolled.toNat)]
  by_cases hfull : tables.seatLimit modality ≤ enrolled
  · simp only [capacityReply, if_pos hfull] at hm ⊢
    have hnoted : (r.reminded m).noteAll seats = (r.noteAll seats).reminded m :=
      Request.reminded_noteAll fun f hf => hm f (List.mem_append_left _ hf)
    exact congrArg (Reply.reject · _ _) hnoted
  · simp only [capacityReply, if_neg hfull] at hm ⊢
    let free : List (Fact × Json) :=
      [(.seatsAvailable, .int (tables.seatLimit modality - enrolled).toNat)]
    have hnoted : (r.reminded m).noteAll (seats ++ free) = (r.noteAll (seats ++ free)).reminded m :=
      Request.reminded_noteAll hm
    exact congrArg Reply.proceed hnoted

theorem repeats_seatCapacity :
    (seatCapacity tables records).Repeats (.courseId :: (Fact.ofSeats ++ [.seatsAvailable])) where
  waits := leaves_seatCapacity.waits (by decide)
  again r reply m h hm := by
    have hcourse : (r.reminded m).courseId? = r.courseId? :=
      Request.courseId?_reminded ((hm .courseId (by decide)).trans
        (leaves_seatCapacity.get?_metadata h (by decide)))
    have hdoes : (r.reminded m).does "enroll" = r.does "enroll" := rfl
    unfold seatCapacity at h ⊢
    dsimp only at h ⊢
    rw [hdoes, hcourse]
    revert h
    split
    · split
      · rintro ⟨⟩
        exact congrArg Except.ok (unresolvedReply_reminded r m _)
      · intro h
        obtain ⟨answer, hanswer, h⟩ := Consult.result_bind_eq_ok.1 h
        refine Consult.result_bind_eq_ok.2 ⟨answer, hanswer, ?_⟩
        cases answer with
        | none =>
          obtain rfl := Except.ok.inj h
          exact congrArg Except.ok (unresolvedReply_reminded r m _)
        | some raw =>
          obtain ⟨enrolled, henrolled, h⟩ := Consult.result_bind_eq_ok.1 h
          obtain rfl := Except.ok.inj h
          refine Consult.result_bind_eq_ok.2 ⟨enrolled, henrolled, congrArg Except.ok ?_⟩
          exact capacityReply_reminded fun f hf => hm f (List.mem_cons_of_mem _ hf)
    · rintro ⟨⟩
      rfl

theorem openPeriodReply_reminded {r : Request} {m : Metadata} {p : Period}
    (hm : m.AgreesAt Fact.ofPeriod (openPeriodReply today p r).request.metadata) :
    openPeriodReply today p (r.reminded m) = (openPeriodReply today p r).reminded m := by
  unfold openPeriodReply at hm ⊢
  split
  · rfl
  · next hopen =>
    rw [hopen] at hm
    let notes : List (Fact × Json) := [(.validatedPeriod, .string p.label),
      (.periodYear, .int p.year), (.periodTerm, .string p.term.code)]
    have hnoted : (r.reminded m).noteAll notes = (r.noteAll notes).reminded m :=
      Request.reminded_noteAll hm
    exact congrArg Reply.proceed hnoted

theorem repeats_academicPeriod :
    (academicPeriod today).Repeats (.periodRequested :: Fact.ofPeriod) where
  waits := leaves_academicPeriod.waits (by decide)
  again := by
    refine again_ofReply fun r m hm => ?_
    have hperiod : (r.reminded m).fact? .periodRequested = r.fact? .periodRequested :=
      Request.fact?_reminded ((hm .periodRequested (by decide)).trans
        (leaves_academicPeriod.get?_metadata rfl (by decide)))
    have hauthors : (r.reminded m).authors = r.authors := rfl
    have hdoes : (r.reminded m).does "edit" = r.does "edit" := rfl
    unfold periodReply at hm ⊢
    rw [hauthors, hdoes, hperiod]
    revert hm
    split
    · split
      · split
        · exact fun _ => rfl
        · exact fun _ => rfl
      · split
        · exact fun hm => openPeriodReply_reminded fun f hf => hm f (List.mem_cons_of_mem _ hf)
        · exact fun _ => rfl
      · exact fun _ => rfl
    · exact fun _ => rfl

/-! ### Rows of stages that grant again -/

/-- The stages, which have these footprints, grant a request again when it knows what was known in
the end.  The request is then left as the first time, with a change that is described. -/
structure Regrants (ss : List Stage) (fs : List Footprint) (again : Request → Request) : Prop where
  /-- The stages have these footprints. -/
  leaves : List.Forall₂ Stage.Leaves ss fs
  /-- They grant again. -/
  granted : ∀ r r', Judgement ss r r' .approved →
    Judgement ss (r.reminded r'.metadata) (again r') .approved

theorem Regrants.nil : Regrants [] [] id where
  leaves := .nil
  granted r r' h := by
    cases h
    exact .passed r

/-- **A stage that repeats itself can be put in front**, if the stages behind it leave alone what
it has to do with. -/
theorem Regrants.cons {s : Stage} {ss : List Stage} {fp : Footprint} {fs : List Footprint}
    {again : Request → Request} {facts : List Fact} (h : Regrants ss fs again) (hs : s.Repeats facts)
    (hleaves : s.Leaves fp) (hfacts : ∀ e ∈ Footprint.endings fs, ∀ f ∈ facts, f ∉ e.2) :
    Regrants (s :: ss) (fp :: fs) again where
  leaves := .cons hleaves h.leaves
  granted r r' hj := by
    cases hj with
    | proceed hreply hj =>
      obtain ⟨noted, hmem, hnotes⟩ := hj.exists_ending h.leaves
      -- What this stage has to do with is in the end as this stage left it.
      have hagrees := fun f hf => hnotes.get?_metadata (hfacts _ hmem f hf)
      exact .proceed (hs.again _ _ _ hreply hagrees) (h.granted _ _ hj)
    | approve hreply => exact absurd rfl (hs.waits _ _ hreply)

theorem regrants_enrollment : Regrants [.schedule records today, .seatCapacity tables records]
    [.schedule, .seatCapacity] id :=
  (Regrants.nil.cons repeats_seatCapacity leaves_seatCapacity (by decide)).cons repeats_schedule
    leaves_schedule (by decide)

/-! ### The owner -/

end Stage

/-- An owner who was assigned to a course of the teacher is now named. -/
def Request.ownerNamed (r : Request) : Request :=
  if r.authors && r.role = some .teacher then r.note .autoAssigned (.bool false) else r

namespace Stage

variable {r r₁ : Request} {subject owner : Int64}

theorem teacherReply_proceeds (h : teacherReply r = .proceed r₁) :
    ∃ subject assigned, r.int64? .subjectId = some subject ∧
      ownedBy r subject assigned = .proceed r₁ := by
  unfold teacherReply at h
  split at h
  · cases h
  · next subject hs =>
    split at h
    · exact ⟨subject, true, hs, h⟩
    · split at h
      · next heq =>
        subst heq
        exact ⟨_, false, hs, h⟩
      · cases h
    · cases h

theorem adminReply_proceeds (h : adminReply r = .proceed r₁) :
    ∃ owner, 0 < owner ∧ namedOwner r = .id owner ∧ ownedBy r owner false = .proceed r₁ := by
  unfold adminReply at h
  split at h
  · cases h
  · next owner ho =>
    split at h
    · next hpos => exact ⟨owner, hpos, ho, h⟩
    · cases h
  · cases h

/-- The first request became the second one when its owner was noted. -/
structure Owned (r r₁ : Request) (owner : Int64) (assigned : Bool) : Prop where
  /-- It authors a course if it did. -/
  authors : r₁.authors = r.authors
  /-- It is in the same role. -/
  role : r₁.role = r.role
  /-- It comes from the same subject. -/
  subject : r₁.int64? .subjectId = r.int64? .subjectId
  /-- It names the owner. -/
  named : r₁.metadata.get? Fact.ownerIdRequested.name = some (.int owner.toInt)
  /-- It tells whether the owner was assigned. -/
  assigned : r₁.metadata.get? Fact.autoAssigned.name = some (.bool assigned)

theorem owned_of_ownedBy {assigned : Bool} (h : ownedBy r owner assigned = .proceed r₁) :
    Owned r r₁ owner assigned := by
  obtain rfl : (r.note .ownerIdRequested (.int owner.toInt)).note .autoAssigned
      (.bool assigned) = r₁ := congrArg Reply.request h
  refine ⟨rfl, rfl, ?_, ?_, Request.get?_metadata_note_self ..⟩
  · rw [Request.int64?, Request.fact?_note_of_ne _ (by decide),
      Request.fact?_note_of_ne _ (by decide), Request.int64?]
  · rw [Request.get?_metadata_note_of_ne _ (by decide), Request.get?_metadata_note_self]

namespace Owned

variable {assigned : Bool}

theorem namedOwner_eq (h : Owned r r₁ owner assigned) : namedOwner r₁ = .id owner :=
  namedOwner_of_denotes (Request.fact?_eq_some_iff.2 ⟨h.named, nofun⟩) (.inl rfl)

theorem ownedBy_eq (h : Owned r r₁ owner assigned) :
    ownedBy r₁ owner false = .proceed (r₁.note .autoAssigned (.bool false)) := by
  rw [ownedBy, Request.note_eq_self h.named]

end Owned

/-- **The stage that settles the owner settles the same owner again.** -/
theorem ownerReply_of_ownerReply (h : ownerReply r = .proceed r₁) :
    ownerReply r₁ = .proceed r₁.ownerNamed := by
  unfold ownerReply at h
  split at h
  · next hauthors =>
    split at h
    · cases h
    · cases h
    · next hr =>
      obtain ⟨subject, assigned, hs, hown⟩ := teacherReply_proceeds h
      have ho := owned_of_ownedBy hown
      simp [ownerReply, Request.ownerNamed, ho.authors, hauthors, ho.role, hr, teacherReply,
        ho.subject, hs, ho.namedOwner_eq, ho.ownedBy_eq]
    · next hr =>
      obtain ⟨owner, hpos, -, hown⟩ := adminReply_proceeds h
      have ho := owned_of_ownedBy hown
      simp [ownerReply, Request.ownerNamed, ho.authors, hauthors, ho.role, hr, adminReply, hpos,
        ho.namedOwner_eq, ho.ownedBy_eq, Request.note_eq_self ho.assigned]
  · next hauthors =>
    obtain rfl : r = r₁ := congrArg Reply.request h
    simp [ownerReply, Request.ownerNamed, hauthors]

theorem regrants_assignOwner : Regrants [assignOwner] [.assignOwner] Request.ownerNamed where
  leaves := .cons leaves_assignOwner .nil
  granted r r' h := by
    cases h with
    | proceed hreply hj =>
      cases hj
      have howner : ownerReply r = .proceed r' := Except.ok.inj hreply
      -- Only facts were noted, so the request with these facts is the one that was granted.
      have hreminded : r.reminded r'.metadata = r' := by
        cases leaves_assignOwner _ _ hreply with
        | proceed _ hnotes =>
          obtain ⟨notes, -, rfl⟩ := hnotes
          rfl
      rw [hreminded]
      exact .proceed (congrArg Except.ok (ownerReply_of_ownerReply howner)) (.passed _)
    | approve hreply => exact absurd rfl (leaves_assignOwner.waits (by decide) _ _ hreply)

theorem regrants_authoring :
    Regrants [.academicPeriod today, .assignOwner] [.academicPeriod, .assignOwner]
      Request.ownerNamed :=
  regrants_assignOwner.cons repeats_academicPeriod leaves_academicPeriod (by decide)

/-- The stages that ask the tables repeat themselves in front of any others. -/
theorem Regrants.behind_tables {ss : List Stage} {fs : List Footprint} {again : Request → Request}
    (h : Regrants ss fs again) :
    Regrants (.role tables :: .permission tables :: ss)
      (.guard .roleNotAuthorized :: .guard .permissionDenied :: fs) again :=
  (h.cons repeats_permission leaves_permission nofun).cons repeats_role leaves_role nofun

end Stage

/-! ### The subject -/

namespace Request

variable {r : Request} {m : Metadata} {subject : Subject}

theorem reminded_identify (h : m.AgreesAt Fact.ofSubject (r.identify subject).metadata) :
    (r.reminded m).identify subject = (r.identify subject).reminded m := by
  let notes : List (Fact × Json) := [(.subjectId, .int subject.id.toInt),
    (.subjectName, .string subject.name), (.subjectEmail, .string subject.email)]
  have hnoted : ((r.claimRole subject.role).reminded m).noteAll notes =
      ((r.claimRole subject.role).noteAll notes).reminded m := reminded_noteAll h
  exact hnoted

theorem reminded_listed (role : Role) (n : Int64) :
    (r.reminded (r.listed role n).metadata).listed role n = r.listed role n := by
  have again (notes : List (Fact × Json)) :
      (r.reminded (r.noteAll notes).metadata).noteAll notes = r.noteAll notes :=
    reminded_noteAll fun _ _ => rfl
  unfold listed
  cases role.scope.holder? with
  | none => exact again [(.viewFilter, .string role.scope.name)]
  | some holder => exact again [(.viewFilter, .string role.scope.name), (holder, .int n.toInt)]

end Request

/-! ### The whole pipeline -/

namespace PipelineKind

/-- What a pipeline changes on a request that it grants for the second time. -/
def again : PipelineKind → Request → Request
  | courseAuthoring => Request.ownerNamed
  | general | courseListing => id

/-- Who the subject is stays as the first stage noted it. -/
theorem subject_not_mem_endings (kind : PipelineKind) :
    ∀ e ∈ Footprint.endings kind.footprints, ∀ f ∈ Fact.ofSubject, f ∉ e.2 := by
  cases kind <;> decide

end PipelineKind

namespace Service

variable {s : Service} {kind : PipelineKind}

theorem others_courseListing : (s.pipeline .courseListing).others =
    [Role.admin, .teacher, .student].map .view ++ [.denyUnclaimed] :=
  rfl

/-- **The stages behind the first one grant again** a request whose subject is identified. -/
theorem granted_others {r r' : Request} {subject : Subject}
    (h : Judgement (s.pipeline kind).others (r.identify subject) r' .approved)
    (hagrees : r'.metadata.AgreesAt Fact.ofSubject (r.identify subject).metadata) :
    Judgement (s.pipeline kind).others ((r.identify subject).reminded r'.metadata) (kind.again r')
      .approved := by
  cases kind with
  | general => exact Stage.regrants_enrollment.behind_tables.granted _ _ h
  | courseAuthoring => exact Stage.regrants_authoring.behind_tables.granted _ _ h
  | courseListing =>
    rw [others_courseListing] at h ⊢
    obtain ⟨rfl, -⟩ := h.views_identify mem_courseListing
    -- The subject is still known, so the stage for its role grants the request again.
    have hid := (Request.fact?_reminded (hagrees .subjectId (by decide))).trans
      (r.fact?_subjectId_identify subject)
    have hrole := (Request.role_reminded (m := ((r.identify subject).listed (r.roleOf subject)
      subject.id).metadata)).trans (r.role_identify subject)
    rw [judgement_iff, Pipeline.judge_views (mem_courseListing _) hrole hid]
    exact congrArg (Except.ok <| Prod.mk · _) (Request.reminded_listed ..)

/-- A request that was granted is granted again by the same stages. -/
theorem granted_stages {r r' : Request} (h : Judgement (s.pipeline kind).stages r r' .approved) :
    Judgement (s.pipeline kind).stages (r.reminded r'.metadata) (kind.again r') .approved := by
  rw [stages_eq] at h ⊢
  rcases h.identity_cons with ⟨subject, hk, h⟩ | ⟨-, -, message, hv⟩
  · obtain ⟨facts, hmem, hnotes⟩ := h.exists_ending (s.leaves_others kind)
    have hagrees : r'.metadata.AgreesAt Fact.ofSubject (r.identify subject).metadata :=
      fun f hf => hnotes.get?_metadata (kind.subject_not_mem_endings _ hmem f hf)
    refine .proceed (Stage.identity_proceeds_iff.2 ⟨subject, hk, rfl⟩) ?_
    rw [Request.reminded_identify hagrees]
    exact granted_others h hagrees
  · cases hv

/-- **What was granted is granted again.**  When a request that was granted is made again, with
all that was known about it in the end, it is granted, in the same role, and the same is known about
it as before; only an owner who was assigned to a course of a teacher now counts as named. -/
theorem evaluate_reminded {c done : Case} (hd : (s.evaluate kind c).result = .ok done)
    (ha : done.isApproved = true) :
    (s.evaluate kind (.ofRequest (c.request.reminded done.request.metadata))).result =
      .ok (done.modify kind.again) := by
  obtain ⟨-, v, hj, hv⟩ := (Pipeline.result_run_eq_ok _).1 hd
  obtain rfl := Case.eq_approved_of_verdict hv ha
  exact (Pipeline.result_run_eq_ok _).2 ⟨rfl, .approved, granted_stages hj, hv⟩

/-- The teacher of the small campus creates a course and names no owner. -/
def smallUnowned : Case :=
  .ofRequest ((Request.new "r1" "teacher" "course.create" "create").note .periodRequested
    (.string "January-June 2026"))

/-- The teacher is assigned the course, and asks for it again with all that is known by then: it is
granted, and its owner is now one whom the request names. -/
theorem evaluate_reminded_small :
    ∃ done, (small.evaluate .courseAuthoring smallUnowned).result = .ok done ∧
      done.isApproved = true ∧ done.request.metadata.get? "autoAssigned" = some (.bool true) ∧
      (small.evaluate .courseAuthoring
        (.ofRequest (smallUnowned.request.reminded done.request.metadata))).result =
          .ok (done.modify PipelineKind.courseAuthoring.again) ∧
      (done.request.ownerNamed.metadata.get? "autoAssigned") = some (.bool false) := by
  have hk : (small.evaluate .courseAuthoring smallUnowned).result.toOption.map (fun done =>
      (done.isApproved, done.request.metadata.get? "autoAssigned",
        done.request.ownerNamed.metadata.get? "autoAssigned")) =
      some (true, some (.bool true), some (.bool false)) := by
    rfl
  cases hd : (small.evaluate .courseAuthoring smallUnowned).result with
  | error e =>
    rw [hd] at hk
    cases hk
  | ok done =>
    rw [hd] at hk
    simp only [Except.toOption, Option.map_some, Option.some.injEq, Prod.mk.injEq] at hk
    obtain ⟨ha, hassigned, hnamed⟩ := hk
    exact ⟨done, rfl, ha, hassigned, evaluate_reminded hd ha, hnamed⟩

end Service

end Registrar
