import Registrar.Proofs.Indifference

/-!
# Other words for the same request

A resource and an action are written in words, and the same thing can be written in more than one
way: with blanks around it, and an action in any letter case.

* `Consult.Parallel`: consults that ask the same questions and come to results that are related.
* `Request.SameSense`: requests that differ in nothing but the words for the resource and the
  action, and whose words mean the same.
* `Service.parallel_evaluate`: requests in other words are judged alike.
* `Service.evaluate_respelled`: **the spelling of the action does not matter.**
* `Service.evaluate_padded`: **blanks around the resource do not matter**, unless the course is
  named by the part of the resource right beside them.
* `Service.not_evaluate_padded`: such blanks hide the course, and its seats are not counted.
-/

namespace Registrar

/-! ### Consults side by side -/

/-- The consults ask the same questions, and their results are the same failure or related. -/
structure Consult.Parallel {ε α β : Type} (R : α → β → Prop) (x : Consult ε α) (y : Consult ε β) :
    Prop where
  /-- They ask the same questions, in the same order. -/
  lookups : x.lookups = y.lookups
  /-- Their results match. -/
  result : Matched R x.result y.result

namespace Consult.Parallel

variable {ε ε' α α' β β' : Type} {R : α → α' → Prop} {S : β → β' → Prop}

theorem refl (x : Consult ε α) : Parallel Eq x x := ⟨rfl, .refl _⟩

theorem pure {a : α} {a' : α'} (h : R a a') :
    Parallel R (Pure.pure a : Consult ε α) (Pure.pure a') :=
  ⟨rfl, .ok h⟩

theorem mapError {x : Consult ε α} {x' : Consult ε α'} (h : Parallel R x x') (g : ε → ε') :
    Parallel R (x.mapError g) (x'.mapError g) :=
  ⟨h.lookups, h.result.mapError g⟩

theorem bind {x : Consult ε α} {x' : Consult ε α'} {f : α → Consult ε β} {f' : α' → Consult ε β'}
    (h : Parallel R x x') (hf : ∀ a a', R a a' → Parallel S (f a) (f' a')) :
    Parallel S (x >>= f) (x' >>= f') := by
  refine ⟨?_, h.result.bind fun a a' ha => (hf a a' ha).result⟩
  obtain ⟨asked, result⟩ := x
  obtain ⟨asked', result'⟩ := x'
  obtain ⟨rfl : asked = asked', hresult⟩ := h
  cases hresult with
  | error e => rfl
  | ok ha => exact congrArg (asked ++ ·) (hf _ _ ha).lookups

end Consult.Parallel

/-! ### Requests in other words -/

namespace Request

/-- The requests differ in nothing but the words for the resource and the action. -/
structure Reworded (r r' : Request) : Prop where
  /-- They have the same name. -/
  id : r'.id = r.id
  /-- They show the same token. -/
  token : r'.token = r.token
  /-- They have the same role, or none. -/
  role : r'.role = r.role
  /-- The same is known about them. -/
  metadata : r'.metadata = r.metadata

/-- The requests say the same in other words.  Where the course matters, they are about the same one
if they enroll. -/
structure SameSense (course : Prop) (r r' : Request) : Prop extends Reworded r r' where
  /-- They are for the same resource, apart from blanks around it. -/
  resource : Text.trim r'.resource = Text.trim r.resource
  /-- They ask for the same action, apart from letter case and from blanks around it. -/
  verb : r'.verb = r.verb
  /-- They are about the same course. -/
  course : course → r.verb = "enroll" → r'.courseId? = r.courseId?

variable {course : Prop} {r r' : Request}

theorem does_eq (r : Request) (verb : String) : r.does verb = (r.verb == Text.lowerAscii verb) :=
  rfl

/-- **The stages and the tables agree on what an action is**: exactly the actions that are looked up
under the same word pass the same tests. -/
theorem forall_does_eq_iff :
    (∀ verb, r'.does verb = r.does verb) ↔ actionKey r'.action = actionKey r.action := by
  constructor
  · intro h
    have hself := h (Text.trim r.action)
    rwa [does_eq, does_eq, show Text.lowerAscii (Text.trim r.action) = r.verb from rfl,
      beq_self_eq_true, beq_iff_eq] at hself
  · intro h verb
    rw [does_eq, does_eq, show r'.verb = r.verb from h]

namespace Reworded

theorem fact? (h : r.Reworded r') (f : Fact) : r'.fact? f = r.fact? f := by
  rw [Request.fact?, Request.fact?, value?, value?, h.metadata]

theorem int64? (h : r.Reworded r') (f : Fact) : r'.int64? f = r.int64? f := by
  rw [Request.int64?, Request.int64?, h.fact?]

theorem namedOwner (h : r.Reworded r') : Stage.namedOwner r' = Stage.namedOwner r := by
  rw [Stage.namedOwner, Stage.namedOwner, h.fact?]

theorem note (h : r.Reworded r') (f : Fact) (v : Json) : (r.note f v).Reworded (r'.note f v) where
  id := h.id
  token := h.token
  role := h.role
  metadata := by rw [Request.note, Request.note, set, set, h.metadata]

theorem claimRole (h : r.Reworded r') (role : Role) :
    (r.claimRole role).Reworded (r'.claimRole role) where
  id := h.id
  token := h.token
  role := by rw [Request.claimRole, Request.claimRole, h.role]
  metadata := h.metadata

end Reworded

namespace SameSense

theorem does (h : SameSense course r r') (verb : String) : r'.does verb = r.does verb :=
  forall_does_eq_iff.2 h.verb verb

theorem authors (h : SameSense course r r') : r'.authors = r.authors := by
  rw [Request.authors, Request.authors, h.does, h.does]

theorem note (h : SameSense course r r') {f : Fact} (hf : .courseId ≠ f) (v : Json) :
    SameSense course (r.note f v) (r'.note f v) where
  toReworded := h.toReworded.note f v
  resource := h.resource
  verb := h.verb
  course hc hv := by rw [courseId?_note _ hf, courseId?_note _ hf, h.course hc hv]

theorem claimRole (h : SameSense course r r') (role : Role) :
    SameSense course (r.claimRole role) (r'.claimRole role) where
  toReworded := h.toReworded.claimRole role
  resource := h.resource
  verb := h.verb
  course := h.course

theorem identify (h : SameSense course r r') (subject : Subject) :
    SameSense course (r.identify subject) (r'.identify subject) :=
  (((h.claimRole _).note (by decide) _).note (by decide) _).note (by decide) _

end SameSense

end Request

/-! ### Stages that heed nothing but the sense -/

/-- The outcomes are the same, except that refusals may be in other words. -/
inductive Outcome.SameGist : Outcome → Outcome → Prop
  /-- Both requests go on. -/
  | proceed : SameGist .proceed .proceed
  /-- Both are granted. -/
  | approve : SameGist .approve .approve
  /-- Both are refused for the same reason. -/
  | reject {reason reason' : Rejection} : reason'.kind = reason.kind →
      SameGist (.reject reason) (.reject reason')

/-- The replies have the same gist, and what they leave of the requests still says the same. -/
structure Reply.SameSense (course : Prop) (reply reply' : Reply) : Prop where
  /-- They say the same. -/
  outcome : reply.outcome.SameGist reply'.outcome
  /-- The requests say the same. -/
  request : Request.SameSense course reply.request reply'.request

/-- The stage heeds the sense of a request and not its words. -/
def Stage.HeedsSense (course : Prop) (s : Stage) : Prop :=
  ∀ r r', Request.SameSense course r r' →
    Consult.Parallel (Reply.SameSense course) (s.handle r) (s.handle r')

namespace Reply.SameSense

variable {course : Prop} {r r' : Request}

theorem proceed (h : Request.SameSense course r r') :
    SameSense course (.proceed r) (.proceed r') :=
  ⟨.proceed, h⟩

theorem approve (h : Request.SameSense course r r') :
    SameSense course (.approve r) (.approve r') :=
  ⟨.approve, h⟩

theorem reject (h : Request.SameSense course r r') (kind : RejectionKind)
    (message message' : String) :
    SameSense course (.reject r kind message) (.reject r' kind message') :=
  ⟨.reject rfl, h⟩

end Reply.SameSense

namespace Stage

variable {records : Records} {tables : Tables} {today : Date} {course : Prop} {r r' : Request}

theorem heedsSense_ofReply {name : String} {reply : Request → Reply}
    (h : ∀ r r', Request.SameSense course r r' → Reply.SameSense course (reply r) (reply r')) :
    (ofReply name reply).HeedsSense course :=
  fun r r' hr => .pure (h r r' hr)

theorem heedsSense_identity : (identity records).HeedsSense course := by
  intro r r' h
  unfold identity
  dsimp only
  rw [h.token]
  split
  · exact .pure (.reject h ..)
  · refine (Consult.Parallel.refl _).bind ?_
    rintro answer _ rfl
    split
    · exact .pure (.proceed (h.identify _))
    · exact .pure (.reject h ..)

theorem roleReply_sameSense (h : Request.SameSense course r r') :
    Reply.SameSense course (roleReply tables r) (roleReply tables r') := by
  unfold roleReply Tables.allowedRoles
  rw [h.resource, h.role]
  split
  · exact .proceed h
  · split
    · exact .reject h ..
    · split
      · exact .proceed h
      · exact .reject h ..

theorem permissionReply_sameSense (h : Request.SameSense course r r') :
    Reply.SameSense course (permissionReply tables r) (permissionReply tables r') := by
  have hrequired : tables.requiredPermission r'.action = tables.requiredPermission r.action :=
    congrArg tables.actionPermissions.get? h.verb
  unfold permissionReply
  rw [hrequired, h.role]
  split
  · exact .reject h ..
  · split
    · exact .proceed h
    · split
      · exact .proceed h
      · split
        · exact .proceed h
        · exact .reject h ..

theorem scheduleReply_sameSense (h : Request.SameSense course r r') (id : Int64)
    (raw : Option String) :
    Reply.SameSense course (scheduleReply today id raw r) (scheduleReply today id raw r') := by
  unfold scheduleReply
  split
  · dsimp only
    split
    · exact .reject (h.note (by decide) _) ..
    · exact .proceed (h.note (by decide) _)
  · exact .proceed h

theorem heedsSense_schedule (hc : course) : (schedule records today).HeedsSense course := by
  intro r r' h
  unfold schedule
  dsimp only
  rw [h.does]
  split
  · next he =>
    rw [h.course hc (Request.does_enroll_iff.1 he)]
    split
    · refine (Consult.Parallel.refl _).bind ?_
      rintro raw _ rfl
      exact .pure (scheduleReply_sameSense h ..)
    · exact .pure (.proceed h)
  · exact .pure (.proceed h)

theorem unresolvedReply_sameSense (h : Request.SameSense course r r') (message message' : String) :
    Reply.SameSense course (unresolvedReply tables r message)
      (unresolvedReply tables r' message') := by
  unfold unresolvedReply
  split
  · exact .proceed h
  · exact .reject h ..

theorem capacityReply_sameSense (h : Request.SameSense course r r') (id : Int64)
    (modality : Modality) (enrolled : UInt32) :
    Reply.SameSense course (capacityReply tables id modality enrolled r)
      (capacityReply tables id modality enrolled r') := by
  have hnoted (v w x : Json) := ((h.note (f := .courseType) (by decide) v).note (f := .seatLimit)
    (by decide) w).note (f := .enrollmentCount) (by decide) x
  unfold capacityReply
  dsimp only
  split
  · exact .reject (hnoted ..) ..
  · exact .proceed ((hnoted ..).note (by decide) _)

theorem heedsSense_seatCapacity (hc : course) :
    (seatCapacity tables records).HeedsSense course := by
  intro r r' h
  unfold seatCapacity
  dsimp only
  rw [h.does]
  split
  · next he =>
    rw [h.course hc (Request.does_enroll_iff.1 he)]
    split
    · exact .pure (unresolvedReply_sameSense h ..)
    · refine (Consult.Parallel.refl _).bind ?_
      rintro answer _ rfl
      split
      · exact .pure (unresolvedReply_sameSense h ..)
      · refine (Consult.Parallel.refl _).bind ?_
        rintro enrolled _ rfl
        exact .pure (capacityReply_sameSense h ..)
  · exact .pure (.proceed h)

theorem periodReply_sameSense (h : Request.SameSense course r r') :
    Reply.SameSense course (periodReply today r) (periodReply today r') := by
  unfold periodReply openPeriodReply
  rw [h.authors, h.does, h.fact?]
  split
  · split
    · split
      · exact .proceed h
      · exact .reject h ..
    · split
      · split
        · exact .reject h ..
        · exact .proceed (((h.note (by decide) _).note (by decide) _).note (by decide) _)
      · exact .reject h ..
    · exact .reject h ..
  · exact .proceed h

theorem ownedBy_sameSense (h : Request.SameSense course r r') (owner : Int64) (assigned : Bool) :
    Reply.SameSense course (ownedBy r owner assigned) (ownedBy r' owner assigned) :=
  .proceed ((h.note (by decide) _).note (by decide) _)

theorem teacherReply_sameSense (h : Request.SameSense course r r') :
    Reply.SameSense course (teacherReply r) (teacherReply r') := by
  unfold teacherReply
  rw [h.int64?, h.namedOwner]
  split
  · exact .reject h ..
  · split
    · exact ownedBy_sameSense h ..
    · split
      · exact ownedBy_sameSense h ..
      · exact .reject h ..
    · exact .reject h ..

theorem adminReply_sameSense (h : Request.SameSense course r r') :
    Reply.SameSense course (adminReply r) (adminReply r') := by
  unfold adminReply
  rw [h.namedOwner]
  split
  · exact .reject h ..
  · split
    · exact ownedBy_sameSense h ..
    · exact .reject h ..
  · exact .reject h ..

theorem ownerReply_sameSense (h : Request.SameSense course r r') :
    Reply.SameSense course (ownerReply r) (ownerReply r') := by
  unfold ownerReply
  rw [h.authors, h.role]
  split
  · split
    · exact .reject h ..
    · exact .reject h ..
    · exact teacherReply_sameSense h
    · exact adminReply_sameSense h
  · exact .proceed h

theorem viewReply_sameSense (role : Role) (h : Request.SameSense course r r') :
    Reply.SameSense course (viewReply role r) (viewReply role r') := by
  have hfiltered := h.note (f := .viewFilter) (by decide) (.string role.scope.name)
  unfold viewReply
  dsimp only
  rw [h.role, hfiltered.fact?]
  split
  · split
    · next holder id hholder hid =>
      have hne : Fact.courseId ≠ holder := by
        rintro rfl
        cases role <;> cases hholder
      exact .approve (hfiltered.note hne _)
    · exact .approve hfiltered
  · exact .proceed h

theorem unclaimedReply_sameSense (h : Request.SameSense course r r') :
    Reply.SameSense course (unclaimedReply r) (unclaimedReply r') := by
  unfold unclaimedReply
  rw [h.role]
  split
  · exact .reject h ..
  · exact .reject h ..

end Stage

/-- **The stages of the pipelines heed nothing but the sense of a request.**  Only in the pipeline
for requests in general does the course matter. -/
theorem Service.heedsSense (s : Service) (kind : PipelineKind) :
    ∀ stage ∈ (s.pipeline kind).stages, stage.HeedsSense (kind = .general) := by
  rw [stages_eq, List.forall_mem_cons]
  refine ⟨Stage.heedsSense_identity, s.forall_others_of_kind kind ?_ ?_ Stage.heedsSense_schedule
    Stage.heedsSense_seatCapacity ?_ ?_ ?_ ?_⟩
  · exact Stage.heedsSense_ofReply fun _ _ => Stage.roleReply_sameSense
  · exact Stage.heedsSense_ofReply fun _ _ => Stage.permissionReply_sameSense
  · exact Stage.heedsSense_ofReply fun _ _ => Stage.periodReply_sameSense
  · exact Stage.heedsSense_ofReply fun _ _ => Stage.ownerReply_sameSense
  · exact fun role => Stage.heedsSense_ofReply fun _ _ => Stage.viewReply_sameSense role
  · exact Stage.heedsSense_ofReply fun _ _ => Stage.unclaimedReply_sameSense

/-! ### Runs -/

/-- The verdicts are the same, except that refusals may be in other words. -/
inductive Verdict.SameGist : Verdict → Verdict → Prop
  /-- Both requests are granted. -/
  | approved : SameGist .approved .approved
  /-- Both are refused for the same reason. -/
  | rejected {reason reason' : Rejection} : reason'.kind = reason.kind →
      SameGist (.rejected reason) (.rejected reason')

/-- The cases ended in the same way, and they differ in words alone. -/
structure Case.SameDecision (done done' : Case) : Prop where
  /-- Both are granted, or neither. -/
  approved : done'.isApproved = done.isApproved
  /-- They are refused for the same kind of reason, or not at all. -/
  kind : done'.rejection?.map (·.kind) = done.rejection?.map (·.kind)
  /-- They have the same role, and the same was noted on them. -/
  request : done.request.Reworded done'.request

namespace Pipeline

variable {course : Prop} {ss : List Stage} {r r' : Request}

/-- **A row of stages that heed the sense** comes to the same verdict on requests in other words. -/
theorem parallel_judge (hss : ∀ s ∈ ss, s.HeedsSense course) (h : r.SameSense course r') :
    Consult.Parallel (fun j j' => Request.SameSense course j.1 j'.1 ∧ j.2.SameGist j'.2)
      (judge ss r) (judge ss r') := by
  -- Each stage leaves requests that still say the same to the stages behind it.
  induction ss generalizing r r' with
  | nil => exact .pure ⟨h, .approved⟩
  | cons s ss ih =>
    refine (hss s List.mem_cons_self r r' h).bind ?_
    rintro ⟨r₁, _⟩ ⟨r₁', _⟩ ⟨houtcome, hr⟩
    cases houtcome with
    | proceed => exact ih (fun t ht => hss t (List.mem_cons_of_mem _ ht)) hr
    | approve => exact .pure ⟨hr, .approved⟩
    | reject hkind => exact .pure ⟨hr, .rejected hkind⟩

theorem parallel_run (p : Pipeline) {c c' : Case} (hp : ∀ s ∈ p.stages, s.HeedsSense course)
    (hc : c.isDecided = false) (hc' : c'.isDecided = false)
    (h : c.request.SameSense course c'.request) :
    Consult.Parallel Case.SameDecision (p.run c) (p.run c') := by
  rw [run_of_undecided p hc, run_of_undecided p hc']
  refine ((parallel_judge hp h).mapError _).bind ?_
  rintro ⟨r₁, _⟩ ⟨r₁', _⟩ ⟨hr, hv⟩
  cases hv with
  | approved => exact .pure ⟨rfl, rfl, hr.toReworded⟩
  | rejected hkind => exact .pure ⟨rfl, congrArg some hkind, hr.toReworded⟩

end Pipeline

/-- **Requests in other words are judged alike**, and the same questions are asked about them. -/
theorem Service.parallel_evaluate (s : Service) (kind : PipelineKind) {c c' : Case}
    (hc : c.isDecided = false) (hc' : c'.isDecided = false)
    (h : c.request.SameSense (kind = .general) c'.request) :
    Consult.Parallel Case.SameDecision (s.evaluate kind c) (s.evaluate kind c') :=
  (s.pipeline kind).parallel_run (s.heedsSense kind) hc hc' h

/-! ### The spelling of the action -/

namespace Request

/-- The request with the action spelled in some other way. -/
def respell (r : Request) (action : String) : Request := { r with action }

theorem sameSense_respell {r : Request} {action : String}
    (h : actionKey action = actionKey r.action) (course : Prop) :
    r.SameSense course (r.respell action) where
  id := rfl
  token := rfl
  role := rfl
  metadata := rfl
  resource := rfl
  verb := h
  course _ _ := rfl

end Request

namespace Service

/-- **The spelling of the action does not matter.**  The tests that the stages make and the look-up
in the tables agree on which texts are the same action, and such texts lead to the same questions
and to the same failure or decision. -/
theorem evaluate_respelled (s : Service) (kind : PipelineKind) (c : Case) (action : String)
    (hc : c.isDecided = false) :
    ((∀ verb, (c.request.respell action).does verb = c.request.does verb) ↔
      actionKey action = actionKey c.request.action) ∧
    (actionKey action = actionKey c.request.action →
      Consult.Parallel Case.SameDecision (s.evaluate kind c)
        (s.evaluate kind (c.modify (·.respell action)))) := by
  refine ⟨Request.forall_does_eq_iff, fun h => ?_⟩
  exact s.parallel_evaluate kind hc hc (Request.sameSense_respell h _)

/-- A student of the small campus enrolls in its course. -/
def smallPlainEnrollment : Case := .ofRequest (.new "r1" "student" "course/12" "enroll")

/-- Shouting does not help: the course is still full, and it is still looked up. -/
theorem evaluate_respelled_small :
    let c := smallPlainEnrollment
    c.isDecided = false ∧ actionKey "\t ENROLL " = actionKey c.request.action ∧
      Consult.Parallel Case.SameDecision (small.evaluate .general c)
        (small.evaluate .general (c.modify (·.respell "\t ENROLL "))) ∧
      (small.evaluate .general c).lookups =
        [.subject "student", .period 12, .modality 12, .enrollment 12] ∧
      ((small.evaluate .general c).result.toOption.bind (·.rejection?)).map (·.kind) =
        some .capacityExceeded := by
  intro c
  have h : actionKey "\t ENROLL " = actionKey c.request.action := by decide +kernel
  exact ⟨rfl, h, (evaluate_respelled small .general c _ rfl).2 h, by decide +kernel,
    by decide +kernel⟩

end Service

/-! ### Blanks around the resource -/

namespace Request

/-- The request with more text around the resource. -/
def pad (r : Request) (u v : String) : Request := { r with resource := u ++ r.resource ++ v }

/-- The parts of the resource. -/
def parts (r : Request) : List (List Char) := Text.segments isPartMark r.resource.toList

/-- A part of the resource right beside what is put around it is no number. -/
structure EndsClear (r : Request) (u v : String) : Prop where
  /-- If there is something in front, then the first part is no number. -/
  first : u ≠ "" → ∀ part, r.parts.head? = some part → partNumber? part = none
  /-- If there is something behind, then the last part is no number. -/
  last : v ≠ "" → ∀ part, r.parts.getLast? = some part → partNumber? part = none

theorem isPartMark_eq_false_of_isBlank {c : Char} (h : Text.isBlank c = true) :
    isPartMark c = false := by
  rw [Bool.eq_false_iff]
  intro hmark
  have hc : c = '/' ∨ c = '.' ∨ c = ':' := by simpa [isPartMark, or_assoc] using hmark
  rcases hc with rfl | rfl | rfl <;> exact absurd h (by decide)

theorem partNumber?_of_mem_isBlank {part : List Char} {c : Char} (hc : c ∈ part)
    (h : Text.isBlank c = true) : partNumber? part = none := by
  have hdigits : ¬ (part ≠ [] ∧ part.all Char.isDigit = true) := by
    rintro ⟨-, hall⟩
    have hdigit := List.all_eq_true.1 hall c hc
    rw [Text.isDigit_eq_false_of_isBlank h] at hdigit
    cases hdigit
  rw [partNumber?, Text.digits?, if_neg hdigits, Option.bind_none]

theorem partNumber?_pad {u v part : List Char} (hu : ∀ c ∈ u, Text.isBlank c = true)
    (hv : ∀ c ∈ v, Text.isBlank c = true) (hfirst : u ≠ [] → partNumber? part = none)
    (hlast : v ≠ [] → partNumber? part = none) :
    partNumber? (u ++ part ++ v) = partNumber? part := by
  cases u with
  | cons c u =>
    rw [hfirst (List.cons_ne_nil c u)]
    exact partNumber?_of_mem_isBlank (by simp) (hu c List.mem_cons_self)
  | nil =>
    cases v with
    | cons c v =>
      rw [hlast (List.cons_ne_nil c v)]
      exact partNumber?_of_mem_isBlank (by simp) (hv c List.mem_cons_self)
    | nil => simp

section Pad

variable {r : Request} {u v : String}

/-- Blanks around the resource belong to its first and its last part. -/
theorem findSome?_parts_pad (hu : Text.blank u = true) (hv : Text.blank v = true)
    (h : r.EndsClear u v) :
    (r.pad u v).parts.findSome? partNumber? = r.parts.findSome? partNumber? := by
  have hblank {w : String} (hw : Text.blank w = true) : ∀ c ∈ w.toList, Text.isBlank c = true :=
    List.all_eq_true.1 hw
  have hsep {w : String} (hw : Text.blank w = true) : ∀ c ∈ w.toList, isPartMark c = false :=
    fun c hc => isPartMark_eq_false_of_isBlank (hblank hw c hc)
  have hempty {w : String} (hw : w.toList ≠ []) : w ≠ "" := by
    rintro rfl
    exact hw rfl
  have hpad : (r.pad u v).parts =
      Text.segments isPartMark (u.toList ++ (r.resource.toList ++ v.toList)) := by
    simp [parts, pad, List.append_assoc]
  obtain ⟨front, last, hparts⟩ : ∃ front last, r.parts = front ++ [last] :=
    ⟨_, _, (List.dropLast_concat_getLast (Text.segments_ne_nil _ _)).symm⟩
  have hright := Text.segments_append_right (hsep hv) hparts
  have hfirst {part : List Char} (hpart : r.parts.head? = some part) :
      u.toList ≠ [] → partNumber? part = none :=
    fun hne => h.first (hempty hne) part hpart
  have hlast : v.toList ≠ [] → partNumber? last = none :=
    fun hne => h.last (hempty hne) last (by simp [hparts])
  cases front with
  | nil =>
    -- The only part is both the first and the last one.
    have honly := partNumber?_pad (hblank hu) (hblank hv) (hfirst (by simp [hparts])) hlast
    rw [hpad, Text.segments_append_left (hsep hu) hright, hparts]
    simp [← honly]
  | cons first middle =>
    have hstart : partNumber? (u.toList ++ first) = partNumber? first := by
      simpa using partNumber?_pad (hblank hu) (v := []) nofun (hfirst (by simp [hparts])) nofun
    have hend : partNumber? (last ++ v.toList) = partNumber? last :=
      partNumber?_pad (u := []) nofun (hblank hv) nofun hlast
    rw [hpad, Text.segments_append_left (hsep hu) hright, hparts]
    simp [List.findSome?_cons, List.findSome?_append, hstart, hend]

/-- Blanks around the resource do not hide the course, unless they touch its number. -/
theorem courseId?_pad (hu : Text.blank u = true) (hv : Text.blank v = true)
    (h : r.fact? .courseId = none → r.EndsClear u v) : (r.pad u v).courseId? = r.courseId? := by
  have hfact : (r.pad u v).fact? .courseId = r.fact? .courseId := rfl
  rw [courseId?, courseId?, hfact]
  cases hf : r.fact? .courseId with
  | none => exact findSome?_parts_pad hu hv (h hf)
  | some id => rfl

theorem sameSense_pad {course : Prop} (hu : Text.blank u = true) (hv : Text.blank v = true)
    (h : course → r.verb = "enroll" → (r.pad u v).courseId? = r.courseId?) :
    r.SameSense course (r.pad u v) where
  id := rfl
  token := rfl
  role := rfl
  metadata := rfl
  resource := by
    have htrim := Text.trimChars_pad r.resource.toList (List.all_eq_true.1 hu)
      (List.all_eq_true.1 hv)
    rw [Text.trim, Text.trim, pad, String.toList_append, String.toList_append, htrim]
  verb := rfl
  course := h

end Pad

end Request

namespace Service

/-- **Blanks around the resource do not matter** as long as they do not hide the course of a request
to enroll.  They do not if the course is given among the facts, or if they touch no number. -/
theorem evaluate_padded (s : Service) (kind : PipelineKind) (c : Case) (u v : String)
    (hc : c.isDecided = false) (hu : Text.blank u = true) (hv : Text.blank v = true) :
    ((c.request.fact? .courseId = none → c.request.EndsClear u v) →
      (c.request.pad u v).courseId? = c.request.courseId?) ∧
    ((kind = .general → c.request.verb = "enroll" →
        (c.request.pad u v).courseId? = c.request.courseId?) →
      Consult.Parallel Case.SameDecision (s.evaluate kind c)
        (s.evaluate kind (c.modify (·.pad u v)))) :=
  ⟨Request.courseId?_pad hu hv,
    fun h => s.parallel_evaluate kind hc hc (Request.sameSense_pad hu hv h)⟩

/-- A student of the small campus enrolls in its course, whose number stands in the middle of the
resource; blanks on both sides do not make room in it. -/
theorem evaluate_padded_small :
    let c := Case.ofRequest (.new "r1" "student" "course/12/enroll" "enroll")
    c.isDecided = false ∧ Text.blank "\t" = true ∧ Text.blank " \n" = true ∧
      c.request.EndsClear "\t" " \n" ∧
      Consult.Parallel Case.SameDecision (small.evaluate .general c)
        (small.evaluate .general (c.modify (·.pad "\t" " \n"))) ∧
      ((small.evaluate .general c).result.toOption.bind (·.rejection?)).map (·.kind) =
        some .capacityExceeded := by
  intro c
  have hparts : c.request.parts = ["course".toList, "12".toList, "enroll".toList] := by
    decide +kernel
  have hclear : c.request.EndsClear "\t" " \n" := by
    constructor
    · rintro - part hpart
      obtain rfl : "course".toList = part := by simpa [hparts] using hpart
      decide +kernel
    · rintro - part hpart
      obtain rfl : "enroll".toList = part := by simpa [hparts] using hpart
      decide +kernel
  obtain ⟨hcourse, hsame⟩ :=
    evaluate_padded small .general c "\t" " \n" rfl (by decide) (by decide)
  exact ⟨rfl, by decide, by decide, hclear, hsame fun _ _ => hcourse fun _ => hclear,
    by decide +kernel⟩

/-- The small campus when it lets students enroll in courses that it cannot find. -/
def smallTrusting : Service :=
  { small with tables := { Tables.small with capacity.unresolvedCourse := .allow } }

/-- **A blank hides the course whose number it touches**: the course is full and a student is turned
away, but with a blank behind the number the student is let in. -/
theorem not_evaluate_padded :
    Text.blank " " = true ∧
      (smallTrusting.evaluate .general smallPlainEnrollment).result.toOption.map
        (fun done => (done.isApproved, done.rejection?.map (·.kind))) =
          some (false, some .capacityExceeded) ∧
      (smallTrusting.evaluate .general
        (smallPlainEnrollment.modify (·.pad "" " "))).result.toOption.map
          (fun done => (done.isApproved, done.rejection?.map (·.kind))) = some (true, none) := by
  decide +kernel

end Service

end Registrar
