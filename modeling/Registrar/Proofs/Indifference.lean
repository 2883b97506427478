import Registrar.Proofs.Access

/-!
# What an answer depends on

The caller may show a token in several ways and may put anything at all among the facts of a
request.  Little of that matters: apart from the role, the resource and the action, only the answer
to whose token it is, the period that is named, and the numbers of the course and of the owner
that are named.  Requests that agree in these get the same answer, and the same facts are noted on
them.

* `Matched`: results that are the same failure, or are related.
* `Request.Similar`, `Request.Alike`: what the stages behind the first one see of a request, and
  that it is the same for two requests.
* `Stage.Impartial`: what a stage makes of two such requests is the same.
* `Service.evaluate_indistinct`: **requests that cannot be told apart are judged alike**.
-/

namespace Registrar

/-! ### Results of two runs -/

/-- The results are the same failure, or values that are related. -/
inductive Matched {ε α β : Type} (R : α → β → Prop) : Except ε α → Except ε β → Prop
  /-- Both failed, for the same reason. -/
  | error (e : ε) : Matched R (.error e) (.error e)
  /-- Neither failed. -/
  | ok {a : α} {b : β} : R a b → Matched R (.ok a) (.ok b)

namespace Matched

variable {ε ε' α α' β β' : Type} {R : α → α' → Prop} {S : β → β' → Prop}

theorem refl (x : Except ε α) : Matched Eq x x := by
  cases x with
  | ok a => exact .ok rfl
  | error e => exact .error e

theorem mono {R' : α → α' → Prop} {x : Except ε α} {x' : Except ε α'} (h : Matched R x x')
    (hR : ∀ a a', R a a' → R' a a') : Matched R' x x' := by
  cases h with
  | error e => exact .error e
  | ok h => exact .ok (hR _ _ h)

theorem mapError {x : Except ε α} {x' : Except ε α'} (h : Matched R x x') (g : ε → ε') :
    Matched R (x.mapError g) (x'.mapError g) := by
  cases h with
  | error e => exact .error (g e)
  | ok h => exact .ok h

theorem exists_of_eq_ok {x : Except ε α} {x' : Except ε α'} {a : α} (h : Matched R x x')
    (hx : x = .ok a) : ∃ a', x' = .ok a' ∧ R a a' := by
  cases h with
  | error e => cases hx
  | ok hR =>
    obtain rfl := Except.ok.inj hx
    exact ⟨_, rfl, hR⟩

/-- Chains of matched steps match.  The questions that were asked on the way need not. -/
theorem bind {x : Consult ε α} {x' : Consult ε α'} {f : α → Consult ε β} {f' : α' → Consult ε β'}
    (h : Matched R x.result x'.result)
    (hf : ∀ a a', R a a' → Matched S (f a).result (f' a').result) :
    Matched S (x >>= f).result (x' >>= f').result := by
  obtain ⟨asked, result⟩ := x
  obtain ⟨asked', result'⟩ := x'
  cases h with
  | error e => exact .error e
  | ok h => exact hf _ _ h

end Matched

/-! ### What is noted in two runs -/

/-- What is known, with facts noted in order. -/
def Metadata.noteAll (m : Metadata) (notes : List (Fact × Json)) : Metadata :=
  notes.foldl (fun m note => m.insert note.1.name note.2) m

/-- The same facts were noted with the same values, in the first run on `m`, which made it `n`, and
in the second one on `m'`, which made it `n'`. -/
def NotedAlike (m m' n n' : Metadata) : Prop :=
  ∃ notes, n = m.noteAll notes ∧ n' = m'.noteAll notes

namespace NotedAlike

variable {m m' n n' l l' : Metadata}

theorem nothing (m m' : Metadata) : NotedAlike m m' m m' := ⟨[], rfl, rfl⟩

theorem trans (h : NotedAlike m m' n n') (h' : NotedAlike n n' l l') : NotedAlike m m' l l' := by
  obtain ⟨notes, rfl, rfl⟩ := h
  obtain ⟨notes', rfl, rfl⟩ := h'
  refine ⟨notes ++ notes', ?_, ?_⟩
  · exact (List.foldl_append ..).symm
  · exact (List.foldl_append ..).symm

theorem note (r r' : Request) (f : Fact) (v : Json) :
    NotedAlike r.metadata r'.metadata (r.note f v).metadata (r'.note f v).metadata :=
  ⟨[(f, v)], rfl, rfl⟩

theorem identify (r r' : Request) (subject : Subject) : NotedAlike r.metadata r'.metadata
    (r.identify subject).metadata (r'.identify subject).metadata :=
  ⟨[(.subjectId, .int subject.id.toInt), (.subjectName, .string subject.name),
    (.subjectEmail, .string subject.email)], rfl, rfl⟩

end NotedAlike

/-! ### Requests that say the same -/

namespace Request

/-- The fact is known of both requests or of neither, and it stands for the same whole number, if
it stands for one. -/
def SameNumber (f : Fact) (r r' : Request) : Prop :=
  (r.fact? f).isSome = (r'.fact? f).isSome ∧ r.int64? f = r'.int64? f

/-- The requests agree in all that is seen of them, apart from the subject. -/
structure Similar (r r' : Request) : Prop where
  /-- They have the same role, or none. -/
  role : r.role = r'.role
  /-- They are for the same resource. -/
  resource : r.resource = r'.resource
  /-- They ask for the same action. -/
  action : r.action = r'.action
  /-- They name the same period, or none. -/
  period : r.fact? .periodRequested = r'.fact? .periodRequested
  /-- They name a course by the same number. -/
  course : SameNumber .courseId r r'
  /-- They name an owner by the same number. -/
  owner : SameNumber .ownerIdRequested r r'

/-- The requests agree in all that the stages behind the first one see of them. -/
structure Alike (r r' : Request) : Prop extends Similar r r' where
  /-- They come from the same subject. -/
  subject : r.fact? .subjectId = r'.fact? .subjectId

variable {r r' : Request}

theorem SameNumber.note {f : Fact} (h : SameNumber f r r') (g : Fact) (v : Json) :
    SameNumber f (r.note g v) (r'.note g v) := by
  unfold SameNumber int64? at h ⊢
  rw [fact?_note, fact?_note]
  split
  · exact ⟨rfl, rfl⟩
  · exact h

theorem SameNumber.none_or_some {f : Fact} (h : SameNumber f r r') :
    (r.fact? f = none ∧ r'.fact? f = none) ∨
      ∃ v v', r.fact? f = some v ∧ r'.fact? f = some v' ∧ v.int64? = v'.int64? := by
  obtain ⟨hsome, hnumber⟩ := h
  unfold int64? at hnumber
  cases hv : r.fact? f with
  | none => exact .inl ⟨rfl, by simpa [hv] using hsome.symm⟩
  | some v =>
    have hsome' : (r'.fact? f).isSome = true := by simpa [hv] using hsome.symm
    obtain ⟨v', hv'⟩ := Option.isSome_iff_exists.1 hsome'
    exact .inr ⟨v, v', rfl, hv', by simpa [hv, hv'] using hnumber⟩

theorem Similar.note (h : r.Similar r') (f : Fact) (v : Json) :
    (r.note f v).Similar (r'.note f v) where
  role := h.role
  resource := h.resource
  action := h.action
  period := by rw [fact?_note, fact?_note, h.period]
  course := h.course.note f v
  owner := h.owner.note f v

theorem Similar.claimRole (h : r.Similar r') (role : Role) :
    (r.claimRole role).Similar (r'.claimRole role) where
  role := by rw [Request.claimRole, Request.claimRole, h.role]
  resource := h.resource
  action := h.action
  period := h.period
  course := h.course
  owner := h.owner

/-- Once the subject is noted, similar requests are alike, whatever they said about it before. -/
theorem Similar.identify (h : r.Similar r') (subject : Subject) :
    (r.identify subject).Alike (r'.identify subject) where
  toSimilar := (((h.claimRole _).note _ _).note _ _).note _ _
  subject := by rw [fact?_subjectId_identify, fact?_subjectId_identify]

namespace Alike

theorem note (h : r.Alike r') (f : Fact) (v : Json) : (r.note f v).Alike (r'.note f v) where
  toSimilar := h.toSimilar.note f v
  subject := by rw [fact?_note, fact?_note, h.subject]

theorem does (h : r.Alike r') (verb : String) : r'.does verb = r.does verb := by
  rw [Request.does, Request.does, h.action]

theorem authors (h : r.Alike r') : r'.authors = r.authors := by
  rw [Request.authors, Request.authors, h.does, h.does]

theorem courseId? (h : r.Alike r') : r'.courseId? = r.courseId? := by
  unfold Request.courseId?
  -- The resource counts only if no course is named; a named one that is no number hides it, too.
  rcases h.course.none_or_some with ⟨hn, hn'⟩ | ⟨v, v', hv, hv', hnumber⟩
  · rw [hn, hn', h.resource]
  · simp only [hv, hv', hnumber]

theorem namedOwner (h : r.Alike r') : Stage.namedOwner r' = Stage.namedOwner r := by
  unfold Stage.namedOwner
  rcases h.owner.none_or_some with ⟨hn, hn'⟩ | ⟨v, v', hv, hv', hnumber⟩
  · rw [hn, hn']
  · simp only [hv, hv', hnumber]

end Alike

end Request

/-! ### Stages that treat requests alike -/

/-- The stage gave the same reply to both requests. -/
structure Reply.Alike (r r' : Request) (reply reply' : Reply) : Prop where
  /-- It said the same. -/
  outcome : reply.outcome = reply'.outcome
  /-- The requests are left in the same role. -/
  role : reply.request.role = reply'.request.role
  /-- The same was noted on both. -/
  noted : NotedAlike r.metadata r'.metadata reply.request.metadata reply'.request.metadata
  /-- If they go on, they go on alike. -/
  goesOn : reply.outcome = .proceed → reply.request.Alike reply'.request

/-- In one run `r` became `r₁` and in the other one `r'` became `r₁'`; these are alike, and the same
was noted on both. -/
structure Request.InStep (r r' r₁ r₁' : Request) : Prop extends r₁.Alike r₁' where
  noted : NotedAlike r.metadata r'.metadata r₁.metadata r₁'.metadata

namespace Request.InStep

variable {r r' r₁ r₁' : Request}

theorem start (h : r.Alike r') : InStep r r' r r' where
  toAlike := h
  noted := .nothing _ _

theorem note (h : InStep r r' r₁ r₁') (f : Fact) (v : Json) :
    InStep r r' (r₁.note f v) (r₁'.note f v) where
  toAlike := h.toAlike.note f v
  noted := h.noted.trans (.note r₁ r₁' f v)

theorem identify (h : r.Similar r') (subject : Subject) :
    InStep r r' (r.identify subject) (r'.identify subject) where
  toAlike := h.identify subject
  noted := .identify r r' subject

theorem reply (h : InStep r r' r₁ r₁') (outcome : Outcome) :
    Reply.Alike r r' ⟨r₁, outcome⟩ ⟨r₁', outcome⟩ :=
  ⟨rfl, h.role, h.noted, fun _ => h.toAlike⟩

end Request.InStep

theorem Reply.Alike.same {r r' : Request} (h : r.Alike r') (outcome : Outcome) :
    Reply.Alike r r' ⟨r, outcome⟩ ⟨r', outcome⟩ :=
  (Request.InStep.start h).reply outcome

/-- What the stage makes of two requests that are related is the same. -/
def Stage.Impartial (R : Request → Request → Prop) (s : Stage) : Prop :=
  ∀ r r', R r r' → Matched (Reply.Alike r r') (s.handle r).result (s.handle r').result

/-- Requests that the records and the stages cannot tell apart. -/
structure Records.Indistinct (records : Records) (r r' : Request) : Prop extends r.Similar r' where
  /-- Either neither token is well formed, or the records answer the same to both. -/
  subject : (Credential.read? r.token).map records.subject =
    (Credential.read? r'.token).map records.subject

namespace Stage

variable {records : Records} {tables : Tables} {today : Date} {r r' : Request}

theorem impartial_identity : (identity records).Impartial records.Indistinct := by
  intro r r' h
  have refused (message : String) : Matched (Reply.Alike r r')
      (.ok (.reject r .invalidToken message) : Except Interruption Reply)
      (.ok (.reject r' .invalidToken message)) :=
    .ok ⟨rfl, h.role, .nothing _ _, by simp [Reply.reject]⟩
  have hs := h.subject
  cases ht : Credential.read? r.token with
  | none =>
    cases ht' : Credential.read? r'.token with
    | none =>
      simp only [identity, ht, ht']
      exact refused _
    | some token' => simp [ht, ht'] at hs
  | some token =>
    cases ht' : Credential.read? r'.token with
    | none => simp [ht, ht'] at hs
    | some token' =>
      have hanswer : records.subject token = records.subject token' := by simpa [ht, ht'] using hs
      simp only [identity, ht, ht', hanswer]
      -- The questions differ, as each names its own token, but from here on only the answer counts.
      refine Matched.bind (Matched.refl _) ?_
      rintro answer _ rfl
      cases answer with
      | none => exact refused _
      | some subject => exact .ok ((Request.InStep.identify h.toSimilar subject).reply _)

theorem impartial_ofReply {name : String} {reply : Request → Reply}
    (h : ∀ r r', r.Alike r' → Reply.Alike r r' (reply r) (reply r')) :
    (ofReply name reply).Impartial Request.Alike :=
  fun r r' hr => .ok (h r r' hr)

theorem roleReply_alike (h : r.Alike r') :
    Reply.Alike r r' (roleReply tables r) (roleReply tables r') := by
  unfold roleReply
  rw [← h.resource, ← h.role]
  split
  · exact .same h _
  · split
    · exact .same h _
    · split <;> exact .same h _

theorem permissionReply_alike (h : r.Alike r') :
    Reply.Alike r r' (permissionReply tables r) (permissionReply tables r') := by
  unfold permissionReply
  rw [← h.resource, ← h.role, ← h.action]
  split
  · exact .same h _
  · split
    · exact .same h _
    · split
      · exact .same h _
      · split <;> exact .same h _

theorem scheduleReply_alike (h : r.Alike r') (course : Int64) (raw : Option String) :
    Reply.Alike r r' (scheduleReply today course raw r) (scheduleReply today course raw r') := by
  unfold scheduleReply
  split
  · dsimp only
    split <;> exact ((Request.InStep.start h).note ..).reply _
  · exact .same h _

theorem impartial_schedule : (schedule records today).Impartial Request.Alike := by
  intro r r' h
  unfold schedule
  dsimp only
  rw [h.does, h.courseId?]
  split
  · split
    · refine Matched.bind (Matched.refl _) ?_
      rintro raw _ rfl
      exact .ok (scheduleReply_alike h ..)
    · exact .ok (.same h _)
  · exact .ok (.same h _)

theorem unresolvedReply_alike (h : r.Alike r') (message : String) :
    Reply.Alike r r' (unresolvedReply tables r message) (unresolvedReply tables r' message) := by
  unfold unresolvedReply
  split <;> exact .same h _

theorem capacityReply_alike (h : r.Alike r') (course : Int64) (modality : Modality)
    (enrolled : UInt32) : Reply.Alike r r' (capacityReply tables course modality enrolled r)
      (capacityReply tables course modality enrolled r') := by
  unfold capacityReply
  dsimp only
  split
  · exact ((((Request.InStep.start h).note ..).note ..).note ..).reply _
  · exact (((((Request.InStep.start h).note ..).note ..).note ..).note ..).reply _

theorem impartial_seatCapacity : (seatCapacity tables records).Impartial Request.Alike := by
  intro r r' h
  unfold seatCapacity
  dsimp only
  rw [h.does, h.courseId?, h.resource]
  split
  · split
    · exact .ok (unresolvedReply_alike h _)
    · refine Matched.bind (Matched.refl _) ?_
      rintro answer _ rfl
      split
      · exact .ok (unresolvedReply_alike h _)
      · refine Matched.bind (Matched.refl _) ?_
        rintro enrolled _ rfl
        exact .ok (capacityReply_alike h ..)
  · exact .ok (.same h _)

theorem openPeriodReply_alike (h : r.Alike r') (p : Period) :
    Reply.Alike r r' (openPeriodReply today p r) (openPeriodReply today p r') := by
  unfold openPeriodReply
  split
  · exact .same h _
  · exact ((((Request.InStep.start h).note ..).note ..).note ..).reply _

theorem periodReply_alike (h : r.Alike r') :
    Reply.Alike r r' (periodReply today r) (periodReply today r') := by
  unfold periodReply
  rw [h.authors, h.does, ← h.period]
  split
  · split
    · split <;> exact .same h _
    · split
      · exact openPeriodReply_alike h _
      · exact .same h _
    · exact .same h _
  · exact .same h _

theorem ownedBy_alike (h : r.Alike r') (owner : Int64) (assigned : Bool) :
    Reply.Alike r r' (ownedBy r owner assigned) (ownedBy r' owner assigned) :=
  (((Request.InStep.start h).note ..).note ..).reply _

theorem teacherReply_alike (h : r.Alike r') :
    Reply.Alike r r' (teacherReply r) (teacherReply r') := by
  unfold teacherReply Request.int64?
  rw [h.namedOwner, ← h.subject]
  split
  · exact .same h _
  · split
    · exact ownedBy_alike h ..
    · split
      · exact ownedBy_alike h ..
      · exact .same h _
    · exact .same h _

theorem adminReply_alike (h : r.Alike r') : Reply.Alike r r' (adminReply r) (adminReply r') := by
  unfold adminReply
  rw [h.namedOwner]
  split
  · exact .same h _
  · split
    · exact ownedBy_alike h ..
    · exact .same h _
  · exact .same h _

theorem ownerReply_alike (h : r.Alike r') : Reply.Alike r r' (ownerReply r) (ownerReply r') := by
  unfold ownerReply
  rw [h.authors, ← h.role]
  split
  · split
    · exact .same h _
    · exact .same h _
    · exact teacherReply_alike h
    · exact adminReply_alike h
  · exact .same h _

theorem viewReply_alike (role : Role) (h : r.Alike r') :
    Reply.Alike r r' (viewReply role r) (viewReply role r') := by
  unfold viewReply
  rw [← h.role]
  split
  · -- The number that is copied is the one that the first stage noted, not one the caller wrote.
    have hfiltered := (Request.InStep.start h).note .viewFilter (.string role.scope.name)
    dsimp only
    rw [← hfiltered.subject]
    split
    · exact (hfiltered.note ..).reply _
    · exact hfiltered.reply _
  · exact .same h _

theorem unclaimedReply_alike (h : r.Alike r') :
    Reply.Alike r r' (unclaimedReply r) (unclaimedReply r') := by
  unfold unclaimedReply
  rw [← h.role]
  split <;> exact .same h _

end Stage

/-- **The stages behind the first one of every pipeline treat requests alike.** -/
theorem Service.impartial_others (s : Service) (kind : PipelineKind) :
    ∀ stage ∈ (s.pipeline kind).others, stage.Impartial Request.Alike := by
  refine s.forall_others kind ?_ ?_ Stage.impartial_schedule Stage.impartial_seatCapacity
    ?_ ?_ ?_ ?_
  · exact Stage.impartial_ofReply fun _ _ => Stage.roleReply_alike
  · exact Stage.impartial_ofReply fun _ _ => Stage.permissionReply_alike
  · exact Stage.impartial_ofReply fun _ _ => Stage.periodReply_alike
  · exact Stage.impartial_ofReply fun _ _ => Stage.ownerReply_alike
  · exact fun role => Stage.impartial_ofReply fun _ _ => Stage.viewReply_alike role
  · exact Stage.impartial_ofReply fun _ _ => Stage.unclaimedReply_alike

/-! ### Runs -/

namespace Pipeline

/-- The stages came to the same verdict on both requests. -/
structure VerdictAlike (r r' : Request) (j j' : Request × Verdict) : Prop where
  verdict : j.2 = j'.2
  role : j.1.role = j'.1.role
  noted : NotedAlike r.metadata r'.metadata j.1.metadata j'.1.metadata

variable {R : Request → Request → Prop} {s : Stage} {ss : List Stage} {r r' : Request}

theorem matched_judge_cons (hs : s.Impartial R)
    (hss : ∀ r r', r.Alike r' →
      Matched (VerdictAlike r r') (judge ss r).result (judge ss r').result)
    (h : R r r') :
    Matched (VerdictAlike r r') (judge (s :: ss) r).result (judge (s :: ss) r').result := by
  refine Matched.bind (hs r r' h) ?_
  rintro ⟨r₁, outcome⟩ ⟨r₁', _⟩ ⟨rfl, hrole, hnoted, hgoesOn⟩
  cases outcome with
  | proceed =>
    -- What the others note on both comes after what the first stage noted on both.
    refine (hss r₁ r₁' (hgoesOn rfl)).mono ?_
    intro j j' hj
    exact ⟨hj.verdict, hj.role, hnoted.trans hj.noted⟩
  | approve => exact .ok ⟨rfl, hrole, hnoted⟩
  | reject reason => exact .ok ⟨rfl, hrole, hnoted⟩

/-- **A row of impartial stages is impartial.** -/
theorem matched_judge (hss : ∀ s ∈ ss, s.Impartial Request.Alike) (h : r.Alike r') :
    Matched (VerdictAlike r r') (judge ss r).result (judge ss r').result := by
  -- The requests change from stage to stage; what is kept is that they are alike.
  induction ss generalizing r r' with
  | nil => exact .ok ⟨rfl, h.role, .nothing _ _⟩
  | cons s ss ih =>
    refine matched_judge_cons (hss s List.mem_cons_self) (fun r r' h => ?_) h
    exact ih (fun t ht => hss t (List.mem_cons_of_mem _ ht)) h

end Pipeline

/-- The cases were judged alike: the first one was about `r` and ended as `done`, the second one
was about `r'` and ended as `done'`. -/
structure Case.JudgedAlike (r r' : Request) (done done' : Case) : Prop where
  /-- Both are granted, or neither. -/
  approved : done.isApproved = done'.isApproved
  /-- They are refused for the same reason and in the same words, or not at all. -/
  rejection : done.rejection? = done'.rejection?
  /-- They are left in the same role. -/
  role : done.request.role = done'.request.role
  /-- The same facts were noted on both, with the same values. -/
  noted : NotedAlike r.metadata r'.metadata done.request.metadata done'.request.metadata

theorem Pipeline.matched_run (p : Pipeline) {R : Request → Request → Prop} {c c' : Case}
    (hfirst : p.first.Impartial R) (hothers : ∀ s ∈ p.others, s.Impartial Request.Alike)
    (hc : c.isDecided = false) (hc' : c'.isDecided = false) (h : R c.request c'.request) :
    Matched (Case.JudgedAlike c.request c'.request) (p.run c).result (p.run c').result := by
  rw [run_of_undecided p hc, run_of_undecided p hc']
  have hj := matched_judge_cons hfirst (fun _ _ => matched_judge hothers) h
  refine Matched.bind (hj.mapError _) ?_
  rintro ⟨r₁, v⟩ ⟨r₁', _⟩ ⟨rfl, hrole, hnoted⟩
  cases v with
  | approved => exact .ok ⟨rfl, rfl, hrole, hnoted⟩
  | rejected reason => exact .ok ⟨rfl, rfl, hrole, hnoted⟩

namespace Service

/-- **Requests that cannot be told apart are judged alike.**  Whatever else the caller wrote, about
the subject, the seats or the view, neither it nor the way in which the token is shown changes the
failure, the verdict, the role or what is noted. -/
theorem evaluate_indistinct (s : Service) (kind : PipelineKind) (c c' : Case)
    (hc : c.isDecided = false) (hc' : c'.isDecided = false)
    (h : s.records.Indistinct c.request c'.request) :
    Matched (Case.JudgedAlike c.request c'.request) (s.evaluate kind c).result
      (s.evaluate kind c').result :=
  (s.pipeline kind).matched_run (by cases kind <;> exact Stage.impartial_identity)
    (s.impartial_others kind) hc hc' h

/-- A teacher of the small campus creates a course. -/
def smallPlain : Request :=
  ((Request.new "r1" "teacher" "course.create" "create").note .periodRequested
    (.string "January-June 2026")).note .ownerIdRequested (.string " 7 ")

/-- The same in other words, and with facts that only the stages should note. -/
def smallMeddled : Request :=
  ((((((Request.new "r2" "  Bearer  teacher" "course.create" "create").note .periodRequested
    (.string "January-June 2026")).note .ownerIdRequested (.int 7)).note .subjectId (.int 99)).note
    .seatLimit (.int 500)).note .viewOwnerId (.int 99)).note .courseId .null

/-- The two requests cannot be told apart; so, as the first one is granted, the second one is. -/
theorem evaluate_indistinct_small :
    let c := Case.ofRequest smallPlain
    let c' := Case.ofRequest smallMeddled
    c.isDecided = false ∧ c'.isDecided = false ∧
      small.records.Indistinct smallPlain smallMeddled ∧
      Matched (Case.JudgedAlike smallPlain smallMeddled)
        (small.evaluate .courseAuthoring c).result (small.evaluate .courseAuthoring c').result ∧
      (small.evaluate .courseAuthoring c).result.toOption.map (·.isApproved) = some true := by
  intro c c'
  have ht : Credential.read? smallPlain.token = some "teacher" := by decide +kernel
  have ht' : Credential.read? smallMeddled.token = some "teacher" := by decide +kernel
  have h : small.records.Indistinct smallPlain smallMeddled :=
    { role := rfl
      resource := rfl
      action := rfl
      period := by rfl
      course := by constructor <;> decide +kernel
      owner := by constructor <;> decide +kernel
      subject := by rw [ht, ht'] }
  exact ⟨rfl, rfl, h, evaluate_indistinct small .courseAuthoring c c' rfl rfl h, by decide +kernel⟩

end Service

end Registrar
