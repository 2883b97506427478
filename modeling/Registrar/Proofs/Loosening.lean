import Mathlib.Data.List.Forall2
import Registrar.Policy.Amendment
import Registrar.Proofs.Indifference

/-!
# Loosening the policy

What the tables do not mention is open to all, so a new entry may shut a request out that was let in
before.  Tables are looser only if they mention no more resources and actions, and are no stricter
in what they mention.

* `Tables.Looser`: the second tables are at least as loose as the first.
* `Amendment.Loosens`, `Tables.looser_amend`: amendments that make the tables looser.
* `Stage.Laxer`: what one stage lets pass, another one lets pass, too; `Tables.Looser.laxer_others`
  is that each stage under looser tables is laxer.
* `Judgement.approved_of_laxer`: laxer stages grant what the stages did.
* `Service.evaluate_looser`: **loosening the policy never revokes an approval.**
-/

namespace Registrar

/-! ### Looser tables -/

namespace Tables

/-- The second tables are at least as loose as the first. -/
structure Looser (t t' : Tables) : Prop where
  /-- A resource that has an entry had one already, for no more roles. -/
  resource : ∀ resource allowed', t'.allowedRoles resource = some allowed' →
    ∃ allowed, t.allowedRoles resource = some allowed ∧
      ∀ role, allowed.contains role = true → allowed'.contains role = true
  /-- A role holds the permissions that it held. -/
  permission : ∀ role permission, t.hasPermission role permission = true →
    t'.hasPermission role permission = true
  /-- An action that needs a permission needed the same one already. -/
  action : ∀ action permission, t'.requiredPermission action = some permission →
    t.requiredPermission action = some permission
  /-- No course has fewer seats. -/
  seats : ∀ modality, t.seatLimit modality ≤ t'.seatLimit modality
  /-- Courses that cannot be found are refused only if they were refused already. -/
  unresolved : t'.capacity.unresolvedCourse = .reject → t.capacity.unresolvedCourse = .reject

theorem Looser.refl (t : Tables) : t.Looser t where
  resource _ allowed h := ⟨allowed, h, fun _ hrole => hrole⟩
  permission _ _ h := h
  action _ _ h := h
  seats _ := UInt32.le_refl _
  unresolved h := h

end Tables

/-! ### Amendments that loosen -/

/-- The amendment makes the tables looser: it opens a resource that has an entry to more roles,
grants permissions, lowers no seat limit, or allows courses that cannot be found. -/
def Amendment.Loosens (t : Tables) : Amendment → Prop
  | openResource resource _ => (t.allowedRoles resource).isSome = true
  | grant _ _ => True
  | require _ _ => False
  | limitSeats modality limit => t.seatLimit modality ≤ limit
  | treatUnresolved policy => policy = .allow

instance (t : Tables) : DecidablePred (Amendment.Loosens t)
  | .openResource resource _ =>
    inferInstanceAs (Decidable ((t.allowedRoles resource).isSome = true))
  | .grant _ _ => .isTrue trivial
  | .require _ _ => .isFalse id
  | .limitSeats modality limit => inferInstanceAs (Decidable (t.seatLimit modality ≤ limit))
  | .treatUnresolved policy => inferInstanceAs (Decidable (policy = .allow))

namespace Tables

theorem Looser.record {t t' : Tables} (h : t.Looser t') (target : Target) (source : Source) :
    t.Looser (t'.record target source) where
  resource := h.resource
  permission := h.permission
  action := h.action
  seats := h.seats
  unresolved := h.unresolved

/-- **Amendments that loosen** make the tables looser. -/
theorem looser_amend {t : Tables} {a : Amendment} (h : a.Loosens t) : t.Looser (t.amend a) := by
  refine Looser.record ?_ a.target .admin
  have same := Looser.refl t
  cases a with
  | openResource resource roles =>
    obtain ⟨allowed, hallowed⟩ := Option.isSome_iff_exists.1 h
    refine ⟨fun other allowed' h' => ?_, same.permission, same.action, same.seats, same.unresolved⟩
    rw [allowedRoles_openResource] at h'
    split at h'
    · next hsame =>
      refine ⟨allowed, by rw [← hallowed, allowedRoles, allowedRoles, hsame], fun role hrole => ?_⟩
      obtain rfl : allowed.addAll roles = allowed' := by simpa [hallowed] using h'
      rw [RoleSet.contains_addAll, hrole, Bool.true_or]
    · exact same.resource other allowed' h'
  | grant role permissions =>
    refine ⟨same.resource, fun other permission h' => ?_, same.action, same.seats, same.unresolved⟩
    rw [hasPermission_grant, h', Bool.true_or]
  | require action permission => exact h.elim
  | limitSeats modality limit =>
    refine ⟨same.resource, same.permission, same.action, fun other => ?_, same.unresolved⟩
    rw [seatLimit_limitSeats]
    split
    · next hkey =>
      have heq : t.seatLimit other = t.seatLimit modality := by rw [seatLimit, seatLimit, hkey]
      rw [heq]
      exact h
    · exact UInt32.le_refl _
  | treatUnresolved policy =>
    obtain rfl : policy = .allow := h
    refine ⟨same.resource, same.permission, same.action, same.seats, fun hreject => ?_⟩
    cases hreject

end Tables

/-! ### Laxer stages -/

namespace Request

/-- The facts that the stages behind the first one look at. -/
def heeded : List Fact := [.periodRequested, .courseId, .ownerIdRequested, .subjectId]

theorem Alike.refl (r : Request) : r.Alike r where
  role := rfl
  resource := rfl
  action := rfl
  period := rfl
  course := ⟨rfl, rfl⟩
  owner := ⟨rfl, rfl⟩
  subject := rfl

/-- Requests stay alike when the values of a fact that no stage looks at come to differ. -/
theorem Alike.note_each {r r' : Request} (h : r.Alike r') {f : Fact} (hf : f ∉ heeded)
    (v v' : Json) : (r.note f v).Alike (r'.note f v') := by
  simp only [heeded, List.mem_cons, List.not_mem_nil, or_false, not_or] at hf
  obtain ⟨hperiod, hcourse, howner, hsubject⟩ := hf
  have number {g : Fact} (hg : g ≠ f) (hn : SameNumber g r r') :
      SameNumber g (r.note f v) (r'.note f v') := by
    unfold SameNumber int64? at hn ⊢
    rwa [fact?_note_of_ne _ hg, fact?_note_of_ne _ hg]
  exact
    { role := h.role
      resource := h.resource
      action := h.action
      period := by simp [Ne.symm hperiod, h.period]
      course := number (Ne.symm hcourse) h.course
      owner := number (Ne.symm howner) h.owner
      subject := by simp [Ne.symm hsubject, h.subject] }

end Request

/-- What the first reply lets pass, the second one lets pass in the same way. -/
inductive Reply.Upheld : Reply → Reply → Prop
  /-- The first reply is a refusal. -/
  | refused {r : Request} {reason : Rejection} {reply : Reply} : Upheld ⟨r, .reject reason⟩ reply
  /-- Both requests go on, alike. -/
  | proceed {r r' : Request} : r.Alike r' → Upheld (.proceed r) (.proceed r')
  /-- Both are granted. -/
  | approve {r r' : Request} : Upheld (.approve r) (.approve r')

/-- The second stage lets pass what the first one does. -/
def Stage.Laxer (s s' : Stage) : Prop :=
  ∀ r r', r.Alike r' → Matched Reply.Upheld (s.handle r).result (s'.handle r').result

namespace Stage

variable {records : Records} {t t' : Tables} {r r' : Request}

theorem Impartial.laxer {s : Stage} (h : s.Impartial Request.Alike) : s.Laxer s := by
  intro r r' hr
  refine (h r r' hr).mono ?_
  rintro ⟨r₁, outcome⟩ ⟨r₁', _⟩ ⟨rfl, -, -, hgoesOn⟩
  cases outcome with
  | proceed => exact .proceed (hgoesOn rfl)
  | approve => exact .approve
  | reject reason => exact .refused

theorem laxer_ofReply {name : String} {reply reply' : Request → Reply}
    (h : ∀ r r', r.Alike r' → (reply r).Upheld (reply' r')) :
    (ofReply name reply).Laxer (ofReply name reply') :=
  fun r r' hr => .ok (h r r' hr)

theorem roleReply_upheld (ht : t.Looser t') (h : r.Alike r') :
    (roleReply t r).Upheld (roleReply t' r') := by
  unfold roleReply
  rw [← h.resource, ← h.role]
  cases hallowed' : t'.allowedRoles r.resource with
  | none =>
    -- The looser tables open the resource to all; what the others say does not matter.
    split
    · exact .proceed h
    · split
      · exact .refused
      · split
        · exact .proceed h
        · exact .refused
  | some allowed' =>
    obtain ⟨allowed, hallowed, hsub⟩ := ht.resource r.resource allowed' hallowed'
    rw [hallowed]
    dsimp only
    split
    · exact .refused
    · next role _ =>
      split
      · next hrole =>
        rw [if_pos (hsub role hrole)]
        exact .proceed h
      · exact .refused

theorem permissionReply_upheld (ht : t.Looser t') (h : r.Alike r') :
    (permissionReply t r).Upheld (permissionReply t' r') := by
  unfold permissionReply
  rw [← h.role, ← h.action]
  split
  · exact .refused
  · next role _ =>
    by_cases hall' : t'.hasAllPermissions role = true
    · rw [if_pos hall']
      split
      · exact .proceed h
      · split
        · exact .proceed h
        · split
          · exact .proceed h
          · exact .refused
    · have hall : ¬ t.hasAllPermissions role = true := mt (ht.permission role allPermissions) hall'
      rw [if_neg hall, if_neg hall']
      cases hrequired' : t'.requiredPermission r.action with
      | none =>
        split
        · exact .proceed h
        · split
          · exact .proceed h
          · exact .refused
      | some required =>
        rw [ht.action r.action required hrequired']
        dsimp only
        split
        · next hhas =>
          rw [if_pos (ht.permission role required hhas)]
          exact .proceed h
        · exact .refused

theorem unresolvedReply_upheld (ht : t.Looser t') (h : r.Alike r') (message message' : String) :
    (unresolvedReply t r message).Upheld (unresolvedReply t' r' message') := by
  unfold unresolvedReply
  cases hpolicy' : t'.capacity.unresolvedCourse with
  | allow =>
    split
    · exact .proceed h
    · exact .refused
  | reject =>
    rw [ht.unresolved hpolicy']
    exact .refused

theorem capacityReply_upheld (ht : t.Looser t') (h : r.Alike r') (course : Int64)
    (modality : Modality) (enrolled : UInt32) :
    (capacityReply t course modality enrolled r).Upheld
      (capacityReply t' course modality enrolled r') := by
  unfold capacityReply
  dsimp only
  split
  · exact .refused
  · next hfree =>
    rw [if_neg fun hfull => hfree (UInt32.le_trans (ht.seats modality) hfull)]
    -- Each run notes the limit of its own tables, but no stage looks at it.
    have hnoted (v v' w w' x x' y y' : Json) :=
      (((h.note_each (f := .courseType) (by decide) v v').note_each (f := .seatLimit) (by decide)
        w w').note_each (f := .enrollmentCount) (by decide) x x').note_each (f := .seatsAvailable)
        (by decide) y y'
    exact .proceed (hnoted ..)

theorem laxer_seatCapacity (ht : t.Looser t') :
    (seatCapacity t records).Laxer (seatCapacity t' records) := by
  intro r r' h
  unfold seatCapacity
  dsimp only
  rw [h.does, h.courseId?]
  split
  · split
    · exact .ok (unresolvedReply_upheld ht h ..)
    · refine Matched.bind (Matched.refl _) ?_
      rintro answer _ rfl
      split
      · exact .ok (unresolvedReply_upheld ht h ..)
      · refine Matched.bind (Matched.refl _) ?_
        rintro enrolled _ rfl
        exact .ok (capacityReply_upheld ht h ..)
  · exact .ok (.proceed h)

end Stage

/-! ### Runs -/

/-- **Laxer stages grant what the stages did.** -/
theorem Judgement.approved_of_laxer {ss ss' : List Stage} {r r' r₁ : Request}
    (h : Judgement ss r r₁ .approved) (hss : List.Forall₂ Stage.Laxer ss ss') (hr : r.Alike r') :
    ∃ r₁', Judgement ss' r' r₁' .approved := by
  -- The requests of the two runs may come to differ, but they stay alike from stage to stage.
  induction hss generalizing r r' with
  | nil => exact ⟨r', .passed r'⟩
  | @cons s s' ss ss' hs _ ih =>
    cases h with
    | proceed hhandle hrest =>
      obtain ⟨_, hhandle', hupheld⟩ := (hs r r' hr).exists_of_eq_ok hhandle
      cases hupheld with
      | proceed hr₁ =>
        obtain ⟨r₂', hrest'⟩ := ih hrest hr₁
        exact ⟨r₂', .proceed hhandle' hrest'⟩
    | approve hhandle =>
      obtain ⟨_, hhandle', hupheld⟩ := (hs r r' hr).exists_of_eq_ok hhandle
      cases hupheld with
      | approve => exact ⟨_, .approve hhandle'⟩

namespace Service

/-- The service under other tables. -/
def withTables (s : Service) (tables : Tables) : Service := { s with tables }

/-- **Under looser tables each stage is laxer.** -/
theorem laxer_others (s : Service) {t' : Tables} (ht : s.tables.Looser t') (kind : PipelineKind) :
    List.Forall₂ Stage.Laxer (s.pipeline kind).others ((s.withTables t').pipeline kind).others := by
  have hrole : (Stage.role s.tables).Laxer (.role t') :=
    Stage.laxer_ofReply fun _ _ => Stage.roleReply_upheld ht
  have hpermission : (Stage.permission s.tables).Laxer (.permission t') :=
    Stage.laxer_ofReply fun _ _ => Stage.permissionReply_upheld ht
  have hcapacity : (Stage.seatCapacity s.tables s.records).Laxer (.seatCapacity t' s.records) :=
    Stage.laxer_seatCapacity ht
  -- The other stages do not look at the tables.
  have hsame (stage : Stage) (h : stage ∈ (s.pipeline kind).others) : stage.Laxer stage :=
    (s.impartial_others kind stage h).laxer
  cases kind with
  | general =>
    exact .cons hrole (.cons hpermission (.cons (hsame _ (by simp [pipeline]))
      (.cons hcapacity .nil)))
  | courseAuthoring =>
    refine .cons hrole (.cons hpermission (List.forall₂_same.2 fun stage h => ?_))
    exact hsame stage (List.mem_cons_of_mem _ (List.mem_cons_of_mem _ h))
  | courseListing => exact List.forall₂_same.2 hsame

/-- The evaluation grants the case. -/
def Grants (s : Service) (kind : PipelineKind) (c : Case) : Prop :=
  ∃ done, (s.evaluate kind c).result = .ok done ∧ done.isApproved = true

theorem any_isApproved_iff {s : Service} {kind : PipelineKind} {c : Case} :
    (s.evaluate kind c).result.toOption.any (·.isApproved) = true ↔ s.Grants kind c := by
  unfold Grants
  cases (s.evaluate kind c).result <;> simp [Except.toOption]

instance (s : Service) (kind : PipelineKind) (c : Case) : Decidable (s.Grants kind c) :=
  decidable_of_iff _ any_isApproved_iff

/-- A case is granted exactly when nobody gave a verdict on it and the stages grant its request. -/
theorem grants_iff {s : Service} {kind : PipelineKind} {c : Case} :
    s.Grants kind c ↔ c.isDecided = false ∧
      ∃ r, Judgement (s.pipeline kind).stages c.request r .approved := by
  simp only [Grants, evaluate, Pipeline.result_run_eq_ok]
  constructor
  · rintro ⟨done, ⟨hc, v, hj, hv⟩, happroved⟩
    obtain rfl := Case.eq_approved_of_verdict hv happroved
    exact ⟨hc, done.request, hj⟩
  · rintro ⟨hc, r, hj⟩
    exact ⟨⟨r, true, none⟩, ⟨hc, .approved, hj, rfl⟩, rfl⟩

theorem Grants.of_looser {s : Service} {kind : PipelineKind} {c : Case} {t' : Tables}
    (h : s.Grants kind c) (ht : s.tables.Looser t') : (s.withTables t').Grants kind c := by
  obtain ⟨hc, r, hj⟩ := grants_iff.1 h
  refine grants_iff.2 ⟨hc, ?_⟩
  rw [stages_eq] at hj ⊢
  -- The first stage finds the same subject, whatever the tables are.
  cases hj with
  | proceed hfirst hrest =>
    obtain ⟨r', hrest'⟩ := hrest.approved_of_laxer (s.laxer_others ht kind) (.refl _)
    exact ⟨r', .proceed hfirst hrest'⟩
  | approve hfirst => exact ⟨_, .approve hfirst⟩

/-- **Loosening the policy never revokes an approval**, whether the tables are exchanged for looser
ones or amended in a way that loosens them. -/
theorem evaluate_looser (s : Service) (kind : PipelineKind) (c : Case) (h : s.Grants kind c) :
    (∀ t', s.tables.Looser t' → (s.withTables t').Grants kind c) ∧
      ∀ a : Amendment, a.Loosens s.tables → (s.withTables (s.tables.amend a)).Grants kind c :=
  ⟨fun _ ht => h.of_looser ht, fun _ ha => h.of_looser (Tables.looser_amend ha)⟩

/-- The tables of the small campus without any demand on resources and actions. -/
def smallOpenTables : Tables :=
  { Tables.small with resourceRoles := .empty, actionPermissions := .empty }

/-- A teacher of the small campus creates a course, which stays granted when resources and actions
are no longer mentioned, and when admins may create courses as well. -/
theorem evaluate_looser_small :
    let c := Case.ofRequest smallPlain
    let a := Amendment.openResource " course.create" [.admin]
    small.Grants .courseAuthoring c ∧ small.tables.Looser smallOpenTables ∧
      (small.withTables smallOpenTables).Grants .courseAuthoring c ∧ a.Loosens small.tables ∧
      (small.withTables (small.tables.amend a)).Grants .courseAuthoring c := by
  intro c a
  have hgrants : small.Grants .courseAuthoring c := by decide +kernel
  have hlooser : small.tables.Looser smallOpenTables :=
    { resource := nofun
      permission := fun _ _ h => h
      action := nofun
      seats := fun _ => UInt32.le_refl _
      unresolved := fun h => h }
  have hloosens : a.Loosens small.tables := by decide +kernel
  obtain ⟨hexchange, hamend⟩ := evaluate_looser small .courseAuthoring c hgrants
  exact ⟨hgrants, hlooser, hexchange _ hlooser, hloosens, hamend _ hloosens⟩

/-- The first entry of a resource is no loosening: it shuts out whoever it does not name. -/
example :
    let c := Case.ofRequest { smallPlain with resource := "course/9" }
    let a := Amendment.openResource "course/9" [.admin]
    ¬ a.Loosens small.tables ∧ small.Grants .courseAuthoring c ∧
      ¬ (small.withTables (small.tables.amend a)).Grants .courseAuthoring c := by
  decide +kernel

end Service

end Registrar
