import Registrar.Proofs.Access
import Registrar.Proofs.Outage

/-!
# Authoring courses

Behind the three stages that hold the role against the resource and the action, the pipeline for
authoring has one that looks at the period and one that settles the owner.

* `Request.periodRequirements`: what is required of the period that a request names.
* `Request.ownerRequirements`: what is required of the owner that it names, when a given subject
  acts in a given role.
* `Request.OwnedAs`: what the last stage notes about the owner.
* `Service.evaluate_authoring_decidedBy`: **the pipeline decides by these requirements**, in this
  order.
-/

namespace Registrar

theorem PeriodIssue.mem_all (issue : PeriodIssue) : issue ∈ all := by
  cases issue <;> simp [all]

namespace Request

variable (r : Request)

/-! ### What is required of the period -/

/-- A request to author names a period that can be read; only an edit need not name one. -/
def PeriodReadable : Prop :=
  r.Authors →
    (∀ v, r.fact? .periodRequested = some v →
      ∃ raw period, v = .string raw ∧ Period.read raw = .ok period) ∧
    (r.fact? .periodRequested = none → r.verb = "edit")

/-- The period that a request to author names does not have the issue. -/
def PeriodClearOf (today : Date) (issue : PeriodIssue) : Prop :=
  r.Authors → ∀ raw period, r.fact? .periodRequested = some (.string raw) →
    Period.read raw = .ok period → period.assess today ≠ .error issue

/-- What authoring requires of the period: it can be read, and it is open. -/
def periodRequirements (today : Date) : List Requirement :=
  ⟨.invalidPeriod .unparsable, r.PeriodReadable⟩ ::
    PeriodIssue.all.map fun issue => ⟨.invalidPeriod issue, r.PeriodClearOf today issue⟩

/-- The request with an open period noted. -/
def noteOpen (p : Period) : Request :=
  ((r.note .validatedPeriod (.string p.label)).note .periodYear (.int p.year)).note .periodTerm
    (.string p.term.code)

/-- The request goes on as it is, which an authoring request does only as an edit that names no
period, or with an open period noted. -/
def PeriodNoted (today : Date) (r₁ : Request) : Prop :=
  (r₁ = r ∧ (r.Authors → r.fact? .periodRequested = none ∧ r.verb = "edit")) ∨
    ∃ p : Period, p.assess today = .ok () ∧ r₁ = r.noteOpen p

theorem PeriodNoted.role {r r₁ : Request} {today : Date} (h : r.PeriodNoted today r₁) :
    r₁.role = r.role := by
  rcases h with ⟨rfl, -⟩ | ⟨p, -, rfl⟩ <;> rfl

theorem PeriodNoted.verb {r r₁ : Request} {today : Date} (h : r.PeriodNoted today r₁) :
    r₁.verb = r.verb := by
  rcases h with ⟨rfl, -⟩ | ⟨p, -, rfl⟩ <;> rfl

theorem PeriodNoted.fact?_of_ne {r r₁ : Request} {today : Date} {f : Fact}
    (h : r.PeriodNoted today r₁)
    (hf : f ≠ .validatedPeriod ∧ f ≠ .periodYear ∧ f ≠ .periodTerm) :
    r₁.fact? f = r.fact? f := by
  rcases h with ⟨rfl, -⟩ | ⟨p, -, rfl⟩
  · rfl
  · simp [noteOpen, hf]

theorem forall_mem_periodRequirements {today : Date} :
    (∀ q ∈ r.periodRequirements today, q.met) ↔
      r.PeriodReadable ∧ ∀ issue, r.PeriodClearOf today issue := by
  simp [periodRequirements, PeriodIssue.mem_all]

theorem periodRequirements_identify (today : Date) (subject : Subject) :
    (r.identify subject).periodRequirements today = r.periodRequirements today := by
  have hf := r.fact?_identify_of_ne subject (f := .periodRequested) (by decide)
  simp [periodRequirements, PeriodReadable, PeriodClearOf, Authors, hf]

/-! ### What is required of the owner -/

/-- Students author no courses. -/
def AuthorMay (role : Role) : Prop := r.Authors → role ≠ .student

/-- An admin who authors names an owner. -/
def OwnerNamed (role : Role) : Prop :=
  r.Authors → role = .admin → ∃ v, r.fact? .ownerIdRequested = some v

/-- The owner whom a request to author names is a number, and for an admin a positive one. -/
def OwnerReadable (role : Role) : Prop :=
  r.Authors → ∀ v, r.fact? .ownerIdRequested = some v →
    ∃ owner, v.Denotes owner ∧ (role = .admin → 0 < owner)

/-- The owner whom a teacher names is that teacher. -/
def OwnerAllowed (role : Role) (subject : Int64) : Prop :=
  r.Authors → role = .teacher → ∀ v owner, r.fact? .ownerIdRequested = some v →
    v.Denotes owner → owner = subject

/-- What authoring requires of the owner when the subject with a number acts in a role. -/
def ownerRequirements (role : Role) (subject : Int64) : List Requirement :=
  [⟨.notAuthorizedToAuthorCourses, r.AuthorMay role⟩, ⟨.ownerRequired, r.OwnerNamed role⟩,
    ⟨.invalidOwnerId, r.OwnerReadable role⟩,
    ⟨.cannotAssignOtherTeacher, r.OwnerAllowed role subject⟩]

/-- The request is authored in the role by the subject with a number, and its owner is settled:
the owner is the teacher who authors it, or the one whom the admin names. -/
structure OwnerSettled (role : Role) (subject owner : Int64) (assigned : Bool) : Prop where
  /-- It is not a student who authors. -/
  staff : role = .teacher ∨ role = .admin
  /-- A teacher owns what the teacher authors. -/
  own : role = .teacher → owner = subject
  /-- An admin names the owner, by a positive number. -/
  named : role = .admin → 0 < owner ∧ ∃ v, r.fact? .ownerIdRequested = some v ∧ v.Denotes owner
  /-- An owner is assigned exactly to teachers who name none. -/
  assigned_iff : assigned = true ↔ role = .teacher ∧ r.fact? .ownerIdRequested = none

/-- A request to author goes on with its owner settled and noted; any other goes on as it is. -/
def OwnedAs (role : Role) (subject : Int64) (r₁ : Request) : Prop :=
  (r₁ = r ∧ ¬ r.Authors) ∨ ∃ owner assigned, r.OwnerSettled role subject owner assigned ∧
    r₁ = (r.note .ownerIdRequested (.int owner.toInt)).note .autoAssigned (.bool assigned)

theorem OwnedAs.get?_metadata_of_ne {r r₁ : Request} {role : Role} {subject : Int64} {f : Fact}
    (h : r.OwnedAs role subject r₁) (hf : f ≠ .ownerIdRequested ∧ f ≠ .autoAssigned) :
    r₁.metadata.get? f.name = r.metadata.get? f.name := by
  rcases h with ⟨rfl, -⟩ | ⟨owner, assigned, -, rfl⟩
  · rfl
  · rw [get?_metadata_note_of_ne _ hf.2, get?_metadata_note_of_ne _ hf.1]

theorem ownerRequirements_congr {r r₁ : Request} (hv : r₁.verb = r.verb)
    (hf : r₁.fact? .ownerIdRequested = r.fact? .ownerIdRequested) (role : Role) (subject : Int64) :
    r₁.ownerRequirements role subject = r.ownerRequirements role subject := by
  simp only [ownerRequirements, AuthorMay, OwnerNamed, OwnerReadable, OwnerAllowed, Authors, hv, hf]

/-- What the stages before the last one make of the request of a subject: the role and the number
of the subject are noted, and the action and the owner are those that the caller gave. -/
structure Readied (subject : Subject) (r₁ : Request) : Prop where
  /-- The role in which the subject acts is noted. -/
  role : r₁.role = some (r.roleOf subject)
  /-- The number in the records is noted, whatever the caller gave. -/
  subjectId : r₁.fact? .subjectId = some (.int subject.id.toInt)
  /-- The action is the same. -/
  verb : r₁.verb = r.verb
  /-- The named owner is the same. -/
  owner : r₁.fact? .ownerIdRequested = r.fact? .ownerIdRequested

theorem PeriodNoted.readied {r r₁ : Request} {subject : Subject} {today : Date}
    (h : (r.identify subject).PeriodNoted today r₁) : r.Readied subject r₁ where
  role := h.role.trans (r.role_identify subject)
  subjectId := (h.fact?_of_ne (by decide)).trans (r.fact?_subjectId_identify subject)
  verb := h.verb
  owner := (h.fact?_of_ne (by decide)).trans (r.fact?_identify_of_ne subject (by decide))

end Request

namespace Stage

variable {r : Request}

/-! ### The stage that looks at the period -/

theorem enforces_openPeriodReply {today : Date} {raw : String} {p : Period}
    (hauthors : r.Authors) (hf : r.fact? .periodRequested = some (.string raw))
    (hp : Period.read raw = .ok p) :
    (openPeriodReply today p r).Enforces (r.periodRequirements today) (r.PeriodNoted today) := by
  have hreadable : r.PeriodReadable := by
    refine fun _ => ⟨fun v hv => ⟨raw, p, ?_, hp⟩, by simp [hf]⟩
    exact Option.some.inj (hv.symm.trans hf)
  have hclear : ∀ issue, p.assess today ≠ .error issue → r.PeriodClearOf today issue := by
    intro issue hne _ raw' p' hf' hp'
    obtain rfl : raw = raw' := by simpa using hf.symm.trans hf'
    obtain rfl : p = p' := by simpa using hp.symm.trans hp'
    exact hne
  unfold openPeriodReply
  cases ha : p.assess today with
  | error issue =>
    have hmem : (⟨.invalidPeriod issue, r.PeriodClearOf today issue⟩ : Requirement) ∈
        r.periodRequirements today :=
      List.mem_cons_of_mem _ (List.mem_map.2 ⟨issue, issue.mem_all, rfl⟩)
    refine .reject (FirstUnmet.of_forall_ne hmem ?_ ?_)
    · exact fun hc => hc hauthors raw p hf hp ha
    · intro q hq hne
      rcases List.mem_cons.1 hq with rfl | hq
      · exact hreadable
      · obtain ⟨issue', -, rfl⟩ := List.mem_map.1 hq
        exact hclear issue' fun h => hne (by simp [show issue = issue' by simpa [ha] using h])
  | ok _ =>
    refine .proceed ?_ (.inr ⟨p, ha, rfl⟩)
    rw [r.forall_mem_periodRequirements]
    exact ⟨hreadable, fun issue => hclear issue (by simp [ha])⟩

theorem enforces_periodReply (today : Date) :
    (periodReply today r).Enforces (r.periodRequirements today) (r.PeriodNoted today) := by
  by_cases hauthors : r.Authors
  · rw [periodReply, if_pos (Request.authors_iff.2 hauthors)]
    cases hf : r.fact? .periodRequested with
    | none =>
      by_cases hedit : r.verb = "edit"
      · simp only [Request.does_edit_iff.2 hedit]
        refine .proceed ?_ (.inl ⟨rfl, fun _ => ⟨hf, hedit⟩⟩)
        rw [r.forall_mem_periodRequirements]
        simp [Request.PeriodReadable, Request.PeriodClearOf, hf, hedit]
      · have hdoes : ¬ r.does "edit" = true := fun h => hedit (Request.does_edit_iff.1 h)
        simp only [hdoes]
        exact .reject (.head fun h => hedit ((h hauthors).2 hf))
    | some v =>
      by_cases hread : ∃ raw p, v = .string raw ∧ Period.read raw = .ok p
      · obtain ⟨raw, p, rfl, hp⟩ := hread
        simp only [hp]
        exact enforces_openPeriodReply hauthors hf hp
      · have hunmet : ¬ r.PeriodReadable := fun h => hread ((h hauthors).1 v hf)
        cases v with
        | string raw =>
          cases hp : Period.read raw with
          | ok p => exact absurd ⟨raw, p, rfl, hp⟩ hread
          | error e =>
            simp only [hp]
            exact .reject (.head hunmet)
        | _ => exact .reject (.head hunmet)
  · rw [periodReply, if_neg fun h => hauthors (Request.authors_iff.1 h)]
    refine .proceed ?_ (.inl ⟨rfl, fun h => absurd h hauthors⟩)
    rw [r.forall_mem_periodRequirements]
    exact ⟨fun h => absurd h hauthors, fun _ h => absurd h hauthors⟩

theorem enforces_academicPeriod (today : Date) :
    (academicPeriod today).Enforces r (r.periodRequirements today) (r.PeriodNoted today) :=
  enforces_ofReply (enforces_periodReply today)

/-! ### The stage that settles the owner -/

variable {v : Json} {owner subject : Int64}

theorem namedOwner_of_none (hf : r.fact? .ownerIdRequested = none) : namedOwner r = .absent := by
  simp only [namedOwner, hf]

theorem namedOwner_of_denotes (hf : r.fact? .ownerIdRequested = some v) (hv : v.Denotes owner) :
    namedOwner r = .id owner := by
  simp only [namedOwner, hf, Json.int64?_eq_some_iff.2 hv]

theorem namedOwner_of_not_denotes (hf : r.fact? .ownerIdRequested = some v)
    (hv : ¬ ∃ owner, v.Denotes owner) : namedOwner r = .malformed := by
  have hnone : v.int64? = none := by
    rw [Option.eq_none_iff_forall_ne_some]
    exact fun owner h => hv ⟨owner, Json.int64?_eq_some_iff.1 h⟩
  simp only [namedOwner, hf, hnone]

theorem ownerReadable_of_denotes {role : Role} (hf : r.fact? .ownerIdRequested = some v)
    (hv : v.Denotes owner) (hpos : role = .admin → 0 < owner) : r.OwnerReadable role := by
  intro _ v' hf'
  obtain rfl : v = v' := Option.some.inj (hf.symm.trans hf')
  exact ⟨owner, hv, hpos⟩

theorem not_ownerReadable_of_not_denotes {role : Role} (hauthors : r.Authors)
    (hf : r.fact? .ownerIdRequested = some v) (hv : ¬ ∃ owner, v.Denotes owner) :
    ¬ r.OwnerReadable role := by
  intro h
  obtain ⟨owner, hd, -⟩ := h hauthors v hf
  exact hv ⟨owner, hd⟩

theorem enforces_teacherReply (hauthors : r.Authors)
    (hs : r.fact? .subjectId = some (.int subject.toInt)) :
    (teacherReply r).Enforces (r.ownerRequirements .teacher subject)
      (r.OwnedAs .teacher subject) := by
  have hmay : r.AuthorMay .teacher := fun _ => by simp
  have hnamed : r.OwnerNamed .teacher := fun _ h => by cases h
  unfold teacherReply
  simp only [Request.int64?, hs, Option.bind_some, Json.int64?_int]
  cases hf : r.fact? .ownerIdRequested with
  | none =>
    simp only [namedOwner_of_none hf]
    refine .proceed ?_ (.inr ⟨subject, true, ?_, rfl⟩)
    · simp [Request.ownerRequirements, hmay, hnamed, Request.OwnerReadable,
        Request.OwnerAllowed, hf]
    · exact ⟨.inl rfl, fun _ => rfl, nofun, by simp [hf]⟩
  | some v =>
    by_cases hv : ∃ owner, v.Denotes owner
    · obtain ⟨owner, hv⟩ := hv
      have hreadable : r.OwnerReadable .teacher := ownerReadable_of_denotes hf hv nofun
      simp only [namedOwner_of_denotes hf hv]
      split
      · next heq =>
        have hallowed : r.OwnerAllowed .teacher subject := by
          intro _ _ v' owner' hf' hv'
          obtain rfl : v = v' := Option.some.inj (hf.symm.trans hf')
          rwa [hv'.unique hv]
        refine .proceed ?_ (.inr ⟨owner, false, ?_, rfl⟩)
        · simp [Request.ownerRequirements, hmay, hnamed, hreadable, hallowed]
        · exact ⟨.inl rfl, fun _ => heq, nofun, by simp [hf]⟩
      · next hne =>
        refine .reject (.tail hmay (.tail hnamed (.tail hreadable (.head fun h => ?_))))
        exact hne (h hauthors rfl v owner hf hv)
    · simp only [namedOwner_of_not_denotes hf hv]
      exact .reject (.tail hmay (.tail hnamed
        (.head (not_ownerReadable_of_not_denotes hauthors hf hv))))

theorem enforces_adminReply (hauthors : r.Authors) :
    (adminReply r).Enforces (r.ownerRequirements .admin subject) (r.OwnedAs .admin subject) := by
  have hmay : r.AuthorMay .admin := fun _ => by simp
  have hallowed : r.OwnerAllowed .admin subject := fun _ h => by cases h
  unfold adminReply
  cases hf : r.fact? .ownerIdRequested with
  | none =>
    simp only [namedOwner_of_none hf]
    refine .reject (.tail hmay (.head fun h => ?_))
    obtain ⟨v, hv⟩ := h hauthors rfl
    rw [hf] at hv
    cases hv
  | some v =>
    have hnamed : r.OwnerNamed .admin := fun _ _ => ⟨v, hf⟩
    by_cases hv : ∃ owner, v.Denotes owner
    · obtain ⟨owner, hv⟩ := hv
      simp only [namedOwner_of_denotes hf hv]
      split
      · next hpos =>
        have hreadable : r.OwnerReadable .admin :=
          ownerReadable_of_denotes hf hv fun _ => hpos
        refine .proceed ?_ (.inr ⟨owner, false, ?_, rfl⟩)
        · simp [Request.ownerRequirements, hmay, hnamed, hreadable, hallowed]
        · exact ⟨.inr rfl, nofun, fun _ => ⟨hpos, v, hf, hv⟩, by simp⟩
      · next hneg =>
        refine .reject (.tail hmay (.tail hnamed (.head fun h => hneg ?_)))
        obtain ⟨owner', hv', hpos⟩ := h hauthors v hf
        rw [hv.unique hv']
        exact hpos rfl
    · simp only [namedOwner_of_not_denotes hf hv]
      exact .reject (.tail hmay (.tail hnamed
        (.head (not_ownerReadable_of_not_denotes hauthors hf hv))))

/-- Once a role and the number of the subject are noted, the branches for a missing role and for
an unknown teacher are out of reach. -/
theorem enforces_assignOwner {role : Role} (hr : r.role = some role)
    (hs : r.fact? .subjectId = some (.int subject.toInt)) :
    assignOwner.Enforces r (r.ownerRequirements role subject) (r.OwnedAs role subject) := by
  refine enforces_ofReply ?_
  by_cases hauthors : r.Authors
  · rw [ownerReply, if_pos (Request.authors_iff.2 hauthors)]
    simp only [hr]
    cases role with
    | student => exact .reject (.head fun h => h hauthors rfl)
    | teacher => exact enforces_teacherReply hauthors hs
    | admin => exact enforces_adminReply hauthors
  · rw [ownerReply, if_neg fun h => hauthors (Request.authors_iff.1 h)]
    refine .proceed ?_ (.inl ⟨rfl, hauthors⟩)
    simp [Request.ownerRequirements, Request.AuthorMay, Request.OwnerNamed, Request.OwnerReadable,
      Request.OwnerAllowed, hauthors]

end Stage

/-! ### The whole pipeline -/

namespace Service

/-- What the pipeline for authoring requires, in order. -/
def authoringRequirements (s : Service) (r : Request) : List Requirement :=
  s.accessRequirements r ++ (r.periodRequirements s.today ++
    [⟨.notAuthorizedToAuthorCourses, ∀ subject, s.records.Know r subject →
        r.AuthorMay (r.roleOf subject)⟩,
      ⟨.ownerRequired, ∀ subject, s.records.Know r subject → r.OwnerNamed (r.roleOf subject)⟩,
      ⟨.invalidOwnerId, ∀ subject, s.records.Know r subject →
        r.OwnerReadable (r.roleOf subject)⟩,
      ⟨.cannotAssignOtherTeacher, ∀ subject, s.records.Know r subject →
        r.OwnerAllowed (r.roleOf subject) subject.id⟩])

theorem settles_authoring {s : Service} {r r' : Request} {v : Verdict}
    (h : Judgement (s.pipeline .courseAuthoring).stages r r' v) :
    v.Settles (s.authoringRequirements r) := by
  refine h.settles_access fun subject hk h => ?_
  simp only [hk.forall_iff]
  rw [← r.periodRequirements_identify s.today subject]
  refine h.settles_cons (Stage.enforces_academicPeriod s.today) fun r₁ hn h => ?_
  have hr := hn.readied
  have hsettles := h.settles_cons (Stage.enforces_assignOwner hr.role hr.subjectId)
    fun _ _ h => h.settles_nil
  rw [List.append_nil, Request.ownerRequirements_congr hr.verb hr.owner] at hsettles
  exact hsettles

/-- **The pipeline for authoring decides by its requirements**: while every question that is asked
is answered, it brings each case without a verdict to one, grants it exactly when all requirements
are met, and otherwise refuses it with the kind of the first that is not. -/
theorem evaluate_authoring_decidedBy (s : Service) (c : Case) (hc : c.isDecided = false)
    (ha : ∀ q ∈ (s.evaluate .courseAuthoring c).lookups, s.records.outage? q = none) :
    ∃ done, (s.evaluate .courseAuthoring c).result = .ok done ∧
      done.DecidedBy (s.authoringRequirements c.request) :=
  (s.pipeline .courseAuthoring).decidedBy_of_settles (s.candid .courseAuthoring)
    (fun _ _ => settles_authoring) hc ha

/-- A request that was granted by the pipeline for authoring belongs to a subject whom the records
know, and it passed the stage that looks at the period and the one that settles the owner. -/
theorem exists_of_authoring_approved {s : Service} {c done : Case}
    (hd : (s.evaluate .courseAuthoring c).result = .ok done) (ha : done.isApproved = true) :
    ∃ subject r₁, s.records.Know c.request subject ∧
      (c.request.identify subject).PeriodNoted s.today r₁ ∧
      r₁.OwnedAs (c.request.roleOf subject) subject.id done.request := by
  obtain ⟨-, v, hj, hv⟩ := (Pipeline.result_run_eq_ok _).1 hd
  obtain rfl := Case.eq_approved_of_verdict hv ha
  obtain ⟨subject, hk, hj⟩ := hj.approved_access
  obtain ⟨r₁, hn, -, hj⟩ := hj.approved_cons (Stage.enforces_academicPeriod s.today)
  have hr := hn.readied
  obtain ⟨r₂, ho, -, hj⟩ := hj.approved_cons (Stage.enforces_assignOwner hr.role hr.subjectId)
  cases hj
  exact ⟨subject, r₁, hk, hn, ho⟩

/-- The teacher of the small campus creates a course that somebody else is to own. -/
def smallAuthoring : Case :=
  .ofRequest (((Request.new "r1" "Bearer teacher" "course.create" " CREATE ").note
    .periodRequested (.string "January-June 2026")).note .ownerIdRequested (.string " 9 "))

/-- The teacher of the small campus may not assign the course to somebody else. -/
theorem evaluate_authoring_small :
    smallAuthoring.isDecided = false ∧
      (∀ q ∈ (small.evaluate .courseAuthoring smallAuthoring).lookups,
        small.records.outage? q = none) ∧
      ∃ done, (small.evaluate .courseAuthoring smallAuthoring).result = .ok done ∧
        done.DecidedBy (small.authoringRequirements smallAuthoring.request) ∧
        done.rejection?.map (·.kind) = some .cannotAssignOtherTeacher := by
  have ha : ∀ q ∈ (small.evaluate .courseAuthoring smallAuthoring).lookups,
      small.records.outage? q = none :=
    fun q _ => Roster.small.outage?_records q
  obtain ⟨done, hd, hby⟩ := evaluate_authoring_decidedBy small smallAuthoring rfl ha
  have hk : ((small.evaluate .courseAuthoring smallAuthoring).result.toOption.bind
      (·.rejection?)).map (·.kind) = some .cannotAssignOtherTeacher := by
    decide +kernel
  rw [hd] at hk
  exact ⟨rfl, ha, done, hd, hby, hk⟩

end Service

end Registrar
