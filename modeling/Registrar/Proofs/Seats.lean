import Registrar.Proofs.Lifecycle
import Registrar.Proofs.Questions
import Registrar.Proofs.Walk

/-!
# Filling a course

A desk admits to one course.  Cases that enroll in it are judged there, one after the other, and
each time a case is granted, one more seat is noted as taken.

* `Service.front`: the stages that come before the seats are looked at.
* `Service.result_evaluate_of_front`: a request that passes these is judged by the seats alone.
* `Desk.turns`: a row of attempts, each with the roster that it meets.
* `Desk.turn_cases`: what one turn does, and `Desk.FillsUp`: what a row of turns does.
* `Desk.fillsUp_turns`: **the course is never oversold**: the attempts that get as far as the seats
  are granted as long as there are any, and after that refused.
-/

namespace Registrar

/-! ### The stages before the seats -/

section Row

open Pipeline

variable {s : Stage} {ss : List Stage} {r r' : Request} {qs : List Requirement}
  {goesOn : Request → Prop}

/-- Stages that do not grant, but let requests go on, hand on what is granted in the end. -/
theorem Judgement.handOn?_cons (h : Judgement (s :: ss) r r' .approved)
    (hs : s.Enforces r qs goesOn)
    (hss : ∀ r₁, goesOn r₁ → Judgement ss r₁ r' .approved → handOn? ss r₁ = some r') :
    handOn? (s :: ss) r = some r' := by
  cases h with
  | proceed h₁ h₂ =>
    exact handOn?_cons_eq_some_iff.2 ⟨_, h₁, hss _ (hs _ h₁).goesOn_request h₂⟩
  | approve h₁ => cases hs _ h₁

end Row

namespace Service

open Pipeline

variable {s : Service} {r r' r₁ : Request} {course : Int64}

/-- The stages that come before the seats of the course are looked at. -/
def front (s : Service) : List Stage :=
  [.identity s.records, .role s.tables, .permission s.tables, .schedule s.records s.today]

theorem stages_general (s : Service) :
    (s.pipeline .general).stages = s.front ++ [.seatCapacity s.tables s.records] := rfl

theorem exists_walk_front (s : Service) (r : Request) :
    ∃ visits last, Walk s.front r visits last ∧ last.handsOn? = handOn? s.front r := by
  obtain ⟨visits, last, hwalk⟩ := Walk.exists_walk (.identity s.records)
    [.role s.tables, .permission s.tables, .schedule s.records s.today] r
  exact ⟨visits, last, hwalk, hwalk.handOn?_eq.symm⟩

theorem enrollsIn_iff_of_front (h : handOn? s.front r = some r') :
    r'.EnrollsIn course ↔ r.EnrollsIn course := by
  obtain ⟨_, hidentity, h⟩ := handOn?_cons_eq_some_iff.1 h
  obtain ⟨subject, -, rfl⟩ := Stage.identity_proceeds_iff.1 hidentity
  have hr := r.role_identify subject
  obtain ⟨_, hrole, h⟩ := handOn?_cons_eq_some_iff.1 h
  obtain ⟨-, rfl⟩ := (Stage.ofReply_proceeds_iff (Stage.enforces_role hr)).1 hrole
  obtain ⟨_, hpermission, h⟩ := handOn?_cons_eq_some_iff.1 h
  obtain ⟨-, rfl⟩ := (Stage.ofReply_proceeds_iff (Stage.enforces_permission hr)).1 hpermission
  obtain ⟨r₁, hschedule, h⟩ := handOn?_cons_eq_some_iff.1 h
  obtain rfl : r₁ = r' := Option.some.inj h
  exact (Stage.enrollsIn_iff_of_schedule hschedule).trans (r.enrollsIn_identify subject course)

theorem handOn?_front_of_approved (h : Judgement s.front r r' .approved) :
    handOn? s.front r = some r' := by
  refine h.handOn?_cons Stage.enforces_identity ?_
  rintro _ ⟨subject, -, rfl⟩ h
  have hr := r.role_identify subject
  refine h.handOn?_cons (Stage.enforces_role hr) ?_
  rintro _ rfl h
  refine h.handOn?_cons (Stage.enforces_permission hr) ?_
  rintro _ rfl h
  refine h.handOn?_cons Stage.enforces_schedule fun r₁ _ h => ?_
  cases h
  rfl

theorem kind_ne_of_front {reason : Rejection} (h : Judgement s.front r r' (.rejected reason)) :
    reason.kind ≠ .capacityExceeded := by
  have hsettles : (Verdict.rejected reason).Settles
      (s.accessRequirements r ++ [⟨.enrollmentClosed, s.NotOver r⟩]) := by
    refine h.settles_access fun subject _ h => ?_
    simpa using h.settles_cons Stage.enforces_schedule fun _ _ h => h.settles_nil
  obtain ⟨q, hq, -, hkind⟩ := FirstUnmet.exists_not_met hsettles
  rw [← hkind]
  simp only [accessRequirements, List.cons_append, List.nil_append, List.mem_cons,
    List.not_mem_nil, or_false] at hq
  rcases hq with rfl | rfl | rfl | rfl <;> simp

/-- **A request that does not pass them** is neither granted nor refused for want of a seat. -/
theorem evaluate_of_not_front {c done : Case} (hfront : handOn? s.front c.request = none)
    (h : (s.evaluate .general c).result = .ok done) :
    done.isApproved = false ∧ done.rejection?.map (·.kind) ≠ some .capacityExceeded := by
  obtain ⟨hc, -⟩ := (result_run_eq_ok _).1 h
  obtain ⟨visits, last, hwalk, hlast⟩ := s.exists_walk_front c.request
  have hall : Walk (s.pipeline .general).stages c.request visits last := by
    rw [stages_general]
    exact hwalk.append_of_stop (hlast.trans hfront) _
  have houtcome : conclude (judge s.front c.request).result = .ok done := by
    rw [evaluate, hall.run_eq hc] at h
    exact hwalk.judge_eq.2.trans h
  cases hjudge : (judge s.front c.request).result with
  | error cause => simp [hjudge, conclude] at houtcome
  | ok reply =>
    obtain ⟨r', v⟩ := reply
    obtain rfl : (Case.ofRequest r').close v = done := by
      simpa [hjudge, conclude] using houtcome
    have hjudgement : Judgement s.front c.request r' v := judgement_iff.2 hjudge
    cases v with
    | approved =>
      rw [handOn?_front_of_approved hjudgement] at hfront
      cases hfront
    | rejected reason =>
      exact ⟨rfl, fun hkind => kind_ne_of_front hjudgement (Option.some.inj hkind)⟩

/-- **A request that passes them** is judged by the seats alone. -/
theorem result_evaluate_of_front {c : Case} (hc : c.isDecided = false)
    (hfront : handOn? s.front c.request = some r₁) :
    (s.evaluate .general c).result =
      (Visit.mk (.seatCapacity s.tables s.records) r₁).outcome := by
  obtain ⟨visits, last, hwalk, hlast⟩ := s.exists_walk_front c.request
  obtain ⟨visits', last', hseat⟩ := Walk.exists_walk (.seatCapacity s.tables s.records) [] r₁
  have hall : Walk (s.pipeline .general).stages c.request (visits ++ visits') last' := by
    rw [stages_general]
    exact hwalk.append (hlast.trans hfront) hseat
  obtain rfl : last' = ⟨.seatCapacity s.tables s.records, r₁⟩ := by
    cases hseat with
    | stop _ => rfl
    | finish _ => rfl
    | next _ h => cases h
  rw [evaluate, hall.run_eq hc]

end Service

/-! ### Looking at the seats -/

@[simp] theorem Json.isNull_int (n : Int) : (Json.int n).isNull = false := rfl

/-- The case is granted one of the seats that are free. -/
structure Case.Seated (done : Case) (limit taken : UInt32) : Prop where
  /-- It is granted, and not refused. -/
  approved : done.isApproved = true ∧ done.rejection? = none
  /-- It says how many seats there are, -/
  seatLimit : done.request.fact? .seatLimit = some (.int limit.toNat)
  /-- how many of them are taken, -/
  enrollmentCount : done.request.fact? .enrollmentCount = some (.int taken.toNat)
  /-- and how many are free: at least one, and all that are not taken. -/
  seatsAvailable : ∃ free : Nat, done.request.fact? .seatsAvailable = some (.int free) ∧
    1 ≤ free ∧ taken.toNat + free = limit.toNat

/-- The case is refused because no seat is free. -/
structure Case.TurnedAway (done : Case) (limit taken : UInt32) : Prop where
  /-- It is refused, and not granted. -/
  refused : done.rejection?.map (·.kind) = some .capacityExceeded ∧ done.isApproved = false
  /-- It says how many seats there are, -/
  seatLimit : done.request.fact? .seatLimit = some (.int limit.toNat)
  /-- and how many of them are taken: -/
  enrollmentCount : done.request.fact? .enrollmentCount = some (.int taken.toNat)
  /-- not fewer. -/
  full : limit.toNat ≤ taken.toNat

namespace Stage

variable {tables : Tables} {records : Records} {r : Request} {course : Int64} {raw : String}
  {enrolled : UInt32}

theorem result_seatCapacity (h : r.EnrollsIn course)
    (hmodality : records.modality course = .ok (some raw))
    (henrollment : records.enrollment course = .ok enrolled) :
    ((seatCapacity tables records).handle r).result =
      .ok (capacityReply tables course (Modality.read raw) enrolled r) := by
  simp only [seatCapacity, Request.does_enroll_iff.2 h.verb, h.course, if_true,
    Consult.result_bind_eq_ok, Consult.result_ask_eq_ok]
  exact ⟨some raw, hmodality, Consult.result_bind_eq_ok.2
    ⟨enrolled, Consult.result_ask_eq_ok.2 henrollment, rfl⟩⟩

theorem exists_seated (h : r.EnrollsIn course)
    (hmodality : records.modality course = .ok (some raw))
    (henrollment : records.enrollment course = .ok enrolled)
    (hfree : enrolled < tables.seatLimit (Modality.read raw)) :
    ∃ done, (Visit.mk (.seatCapacity tables records) r).outcome = .ok done ∧
      done.Seated (tables.seatLimit (Modality.read raw)) enrolled := by
  have hnot : ¬ tables.seatLimit (Modality.read raw) ≤ enrolled := UInt32.not_le.2 hfree
  have hlt := UInt32.lt_iff_toNat_lt.1 hfree
  have hsub : (tables.seatLimit (Modality.read raw) - enrolled).toNat =
      (tables.seatLimit (Modality.read raw)).toNat - enrolled.toNat :=
    UInt32.toNat_sub_of_le _ _ (UInt32.le_of_lt hfree)
  simp only [Visit.outcome, Visit.reply, result_seatCapacity h hmodality henrollment,
    capacityReply, if_neg hnot, Reply.proceed]
  refine ⟨_, rfl, ?_⟩
  constructor
  case approved => exact ⟨rfl, rfl⟩
  case seatLimit => simp [Request.fact?_note]
  case enrollmentCount => simp [Request.fact?_note]
  case seatsAvailable =>
    refine ⟨(tables.seatLimit (Modality.read raw) - enrolled).toNat, ?_, ?_, ?_⟩
    · simp [Request.fact?_note]
    · omega
    · omega

theorem exists_turnedAway (h : r.EnrollsIn course)
    (hmodality : records.modality course = .ok (some raw))
    (henrollment : records.enrollment course = .ok enrolled)
    (hfull : tables.seatLimit (Modality.read raw) ≤ enrolled) :
    ∃ done, (Visit.mk (.seatCapacity tables records) r).outcome = .ok done ∧
      done.TurnedAway (tables.seatLimit (Modality.read raw)) enrolled := by
  simp only [Visit.outcome, Visit.reply, result_seatCapacity h hmodality henrollment,
    capacityReply, if_pos hfull, Reply.reject]
  refine ⟨_, rfl, ?_⟩
  constructor
  case refused => exact ⟨rfl, rfl⟩
  case seatLimit => simp [Request.fact?_note]
  case enrollmentCount => simp [Request.fact?_note]
  case full => exact UInt32.le_iff_toNat_le.1 hfull

end Stage

/-! ### Turns at a desk -/

/-- The roster after one more seat of a course is taken. -/
def Roster.takeSeat (roster : Roster) (course : Int64) : Roster :=
  match roster.courses.get? course with
  | some c => roster.putCourse course { c with enrolled := c.enrolled + 1 }
  | none => roster

theorem Roster.get?_takeSeat {roster : Roster} {course : Int64} {c : Course}
    (h : roster.courses.get? course = some c) :
    (roster.takeSeat course).courses.get? course =
      some { c with enrolled := c.enrolled + 1 } := by
  simp only [takeSeat, h, putCourse]
  rw [Table.get?_insert, if_pos rfl]

/-- An attempt to enroll: a case, and what is known about subjects at that time. -/
structure Attempt where
  /-- The case. -/
  filed : Case
  /-- The subject to whom a token belongs. -/
  subjects : String → Except Outage (Option Subject)

/-- An attempt, and the roster that it meets. -/
structure Turn where
  /-- The attempt. -/
  attempt : Attempt
  /-- The roster. -/
  roster : Roster

/-- A place where cases that enroll in a course are judged. -/
structure Desk where
  /-- The policy. -/
  tables : Tables
  /-- The date of the day. -/
  today : Date
  /-- The course. -/
  course : Int64

namespace Desk

variable (d : Desk)

/-- What a turn is judged by: the roster knows the courses. -/
def service (t : Turn) : Service :=
  ⟨d.tables, { t.roster.records with subject := t.attempt.subjects }, d.today⟩

/-- What the pipeline for requests in general makes of a turn. -/
def result (t : Turn) : Except RunError Case :=
  ((d.service t).evaluate .general t.attempt.filed).result

/-- The roster after a turn: when the case is granted, a seat is taken. -/
def after (t : Turn) : Roster :=
  match d.result t with
  | .ok done => if done.isApproved then t.roster.takeSeat d.course else t.roster
  | .error _ => t.roster

/-- The turns of a row of attempts, one after the other. -/
def turns : Roster → List Attempt → List Turn
  | _, [] => []
  | roster, a :: attempts => ⟨a, roster⟩ :: turns (d.after ⟨a, roster⟩) attempts

/-- The turn gets as far as the seats: there is no verdict on the case, and its request passes the
stages before them. -/
def passes (t : Turn) : Bool :=
  !t.attempt.filed.isDecided &&
    (Pipeline.handOn? (d.service t).front t.attempt.filed.request).isSome

/-- The number of seats of a course. -/
def limit (c : Course) : UInt32 := d.tables.seatLimit (Modality.read c.modality)

theorem limit_eq (c : Course) :
    d.limit c = (d.tables.capacity.limits.get? (Modality.read c.modality).key).getD
      d.tables.capacity.defaultLimit := rfl

variable {d} {t : Turn} {c : Course}

/-! ### One turn -/

variable (d) in
/-- The turn is granted a free seat of the course, which is noted as taken. -/
structure Seats (c : Course) (t : Turn) : Prop where
  /-- This is the course that it meets. -/
  met : t.roster.courses.get? d.course = some c
  /-- The case is granted, and says what there is. -/
  exists_seated : ∃ done, d.result t = .ok done ∧ done.Seated (d.limit c) c.enrolled
  /-- One more seat is taken, -/
  after : (d.after t).courses.get? d.course = some { c with enrolled := c.enrolled + 1 }
  /-- and not fewer than before. -/
  toNat_succ : (c.enrolled + 1).toNat = c.enrolled.toNat + 1

variable (d) in
/-- The turn is refused because the course is full. -/
structure TurnsAway (c : Course) (t : Turn) : Prop where
  /-- This is the course that it meets. -/
  met : t.roster.courses.get? d.course = some c
  /-- The case is refused, and says what there is. -/
  exists_turnedAway : ∃ done, d.result t = .ok done ∧ done.TurnedAway (d.limit c) c.enrolled
  /-- Nothing changes. -/
  after : d.after t = t.roster

variable (d) in
/-- The turn does not get as far as the seats. -/
structure PassesOver (t : Turn) : Prop where
  /-- If there is a verdict, the case is neither granted nor refused because the course is full. -/
  neither : ∀ done, d.result t = .ok done →
    done.isApproved = false ∧ done.rejection?.map (·.kind) ≠ some .capacityExceeded
  /-- Nothing changes. -/
  after : d.after t = t.roster

theorem after_of_not_approved (h : ∀ done, d.result t = .ok done → done.isApproved = false) :
    d.after t = t.roster := by
  unfold after
  split
  · next done hdone => rw [h done hdone, if_neg Bool.false_ne_true]
  · rfl

theorem result_of_passes (h : d.passes t = true)
    (henroll : t.attempt.filed.request.EnrollsIn d.course) :
    ∃ r, r.EnrollsIn d.course ∧
      d.result t = (Visit.mk (.seatCapacity d.tables (d.service t).records) r).outcome := by
  obtain ⟨hdecided, hfront⟩ := Bool.and_eq_true_iff.1 h
  have hc : t.attempt.filed.isDecided = false := by simpa using hdecided
  obtain ⟨r, hr⟩ := Option.isSome_iff_exists.1 hfront
  exact ⟨r, (Service.enrollsIn_iff_of_front hr).2 henroll,
    Service.result_evaluate_of_front hc hr⟩

theorem passesOver_of_not_passes (h : d.passes t = false) : d.PassesOver t := by
  have hneither : ∀ done, d.result t = .ok done →
      done.isApproved = false ∧ done.rejection?.map (·.kind) ≠ some .capacityExceeded := by
    intro done hdone
    refine Service.evaluate_of_not_front ?_ hdone
    obtain ⟨hc, -⟩ := (Pipeline.result_run_eq_ok _).1 hdone
    simpa [passes, hc] using h
  exact ⟨hneither, after_of_not_approved fun done hdone => (hneither done hdone).1⟩

/-- **One turn**: if it gets as far as the seats, it is granted one when one is free, and refused
when none is; if it does not, it is neither. -/
theorem turn_cases (hcourse : t.roster.courses.get? d.course = some c)
    (henroll : t.attempt.filed.request.EnrollsIn d.course) :
    (d.passes t = true ∧ c.enrolled < d.limit c ∧ d.Seats c t) ∨
      (d.passes t = true ∧ d.limit c ≤ c.enrolled ∧ d.TurnsAway c t) ∨
      (d.passes t = false ∧ d.PassesOver t) := by
  have hmodality : (d.service t).records.modality d.course = .ok (some c.modality) := by
    simp [service, Roster.records, hcourse]
  have henrollment : (d.service t).records.enrollment d.course = .ok c.enrolled := by
    simp [service, Roster.records, hcourse]
  cases hpasses : d.passes t with
  | false => exact .inr (.inr ⟨rfl, passesOver_of_not_passes hpasses⟩)
  | true =>
    obtain ⟨r, hr, hresult⟩ := result_of_passes hpasses henroll
    by_cases hfree : c.enrolled < d.limit c
    · obtain ⟨done, hdone, hseated⟩ := Stage.exists_seated hr hmodality henrollment hfree
      have hafter : d.after t = t.roster.takeSeat d.course := by
        simp only [after, hresult, hdone, hseated.approved.1, if_true]
      have hlt := UInt32.lt_iff_toNat_lt.1 hfree
      have hmax := (d.limit c).toNat_lt
      refine .inl ⟨rfl, hfree, hcourse, ⟨done, hresult.trans hdone, hseated⟩, ?_, ?_⟩
      · rw [hafter, Roster.get?_takeSeat hcourse]
      · rw [UInt32.toNat_add]
        exact Nat.mod_eq_of_lt (by simp; omega)
    · have hfull : d.limit c ≤ c.enrolled := UInt32.not_lt.1 hfree
      obtain ⟨done, hdone, haway⟩ := Stage.exists_turnedAway hr hmodality henrollment hfull
      refine .inr (.inl ⟨rfl, hfull, hcourse, ⟨done, hresult.trans hdone, haway⟩, ?_⟩)
      refine after_of_not_approved fun done' hdone' => ?_
      obtain rfl : done = done' := Except.ok.inj ((hresult.trans hdone).symm.trans hdone')
      exact haway.refused.2

/-! ### A row of turns -/

variable (d) in
/-- The turns, which begin with the course as it is, fill it up and do not sell it out twice. -/
structure FillsUp (c : Course) (turns : List Turn) : Prop where
  /-- There are as many seats as the limit under the key of the modality says, and if there is none
  as the default says. -/
  limit_eq : d.limit c = (d.tables.capacity.limits.get? (Modality.read c.modality).key).getD
    d.tables.capacity.defaultLimit
  /-- The course stays on the roster, and never are more seats taken than there are, unless there
  were from the beginning. -/
  bounded : ∀ t ∈ turns, ∃ taken,
    (d.after t).courses.get? d.course = some { c with enrolled := taken } ∧
      taken.toNat ≤ max c.enrolled.toNat (d.limit c).toNat
  /-- Of the turns that get as far as the seats, the first ones are granted the free seats. -/
  seats : ∀ t ∈ (turns.filter d.passes).take ((d.limit c).toNat - c.enrolled.toNat),
    ∃ taken, d.Seats { c with enrolled := taken } t
  /-- All after these are refused because the course is full. -/
  turnsAway : ∀ t ∈ (turns.filter d.passes).drop ((d.limit c).toNat - c.enrolled.toNat),
    ∃ taken, d.TurnsAway { c with enrolled := taken } t
  /-- The other turns are neither granted nor refused for that. -/
  passesOver : ∀ t ∈ turns, d.passes t = false → d.PassesOver t

namespace FillsUp

variable {turns : List Turn}

theorem nil (d : Desk) (c : Course) : d.FillsUp c [] := by
  constructor
  case limit_eq => exact d.limit_eq c
  all_goals simp

theorem cons_of_seats (hpasses : d.passes t = true) (hfree : c.enrolled < d.limit c)
    (ht : d.Seats c t) (h : d.FillsUp { c with enrolled := c.enrolled + 1 } turns) :
    d.FillsUp c (t :: turns) := by
  have hlt := UInt32.lt_iff_toNat_lt.1 hfree
  have hsucc := ht.toNat_succ
  have hleft : (d.limit c).toNat - c.enrolled.toNat =
      ((d.limit c).toNat - (c.enrolled + 1).toNat) + 1 := by
    omega
  constructor
  case limit_eq => exact d.limit_eq c
  case bounded =>
    rw [List.forall_mem_cons]
    refine ⟨⟨c.enrolled + 1, ht.after, by omega⟩, fun t' ht' => ?_⟩
    obtain ⟨taken, hget, hle⟩ := h.bounded t' ht'
    have hle : taken.toNat ≤ max (c.enrolled + 1).toNat (d.limit c).toNat := hle
    exact ⟨taken, hget, by omega⟩
  case seats =>
    rw [List.filter_cons_of_pos hpasses, hleft, List.take_succ_cons, List.forall_mem_cons]
    exact ⟨⟨c.enrolled, ht⟩, h.seats⟩
  case turnsAway =>
    rw [List.filter_cons_of_pos hpasses, hleft, List.drop_succ_cons]
    exact h.turnsAway
  case passesOver =>
    rw [List.forall_mem_cons]
    exact ⟨fun hnot => absurd (hpasses.symm.trans hnot) (by decide), h.passesOver⟩

theorem cons_of_turnsAway (hpasses : d.passes t = true) (hfull : d.limit c ≤ c.enrolled)
    (ht : d.TurnsAway c t) (h : d.FillsUp c turns) : d.FillsUp c (t :: turns) := by
  have hle := UInt32.le_iff_toNat_le.1 hfull
  have hleft : (d.limit c).toNat - c.enrolled.toNat = 0 := by omega
  have haway := h.turnsAway
  constructor
  case limit_eq => exact d.limit_eq c
  case bounded =>
    rw [List.forall_mem_cons]
    exact ⟨⟨c.enrolled, ht.after ▸ ht.met, by omega⟩, h.bounded⟩
  case seats =>
    rw [hleft, List.take_zero]
    exact List.forall_mem_nil _
  case turnsAway =>
    rw [hleft, List.drop_zero] at haway ⊢
    rw [List.filter_cons_of_pos hpasses, List.forall_mem_cons]
    exact ⟨⟨c.enrolled, ht⟩, haway⟩
  case passesOver =>
    rw [List.forall_mem_cons]
    exact ⟨fun hnot => absurd (hpasses.symm.trans hnot) (by decide), h.passesOver⟩

theorem cons_of_passesOver (hpasses : d.passes t = false)
    (hcourse : t.roster.courses.get? d.course = some c) (ht : d.PassesOver t)
    (h : d.FillsUp c turns) : d.FillsUp c (t :: turns) := by
  have hnot : ¬ d.passes t = true := by simp [hpasses]
  constructor
  case limit_eq => exact d.limit_eq c
  case bounded =>
    rw [List.forall_mem_cons]
    exact ⟨⟨c.enrolled, ht.after ▸ hcourse, by omega⟩, h.bounded⟩
  case seats =>
    rw [List.filter_cons_of_neg hnot]
    exact h.seats
  case turnsAway =>
    rw [List.filter_cons_of_neg hnot]
    exact h.turnsAway
  case passesOver =>
    rw [List.forall_mem_cons]
    exact ⟨fun _ => ht, h.passesOver⟩

end FillsUp

/-- **The course is never oversold**, however many attempts there are, whatever is known about
subjects meanwhile, and whether or not it is full already. -/
theorem fillsUp_turns {roster : Roster} {attempts : List Attempt}
    (hcourse : roster.courses.get? d.course = some c)
    (henroll : ∀ a ∈ attempts, a.filed.request.EnrollsIn d.course) :
    d.FillsUp c (d.turns roster attempts) := by
  -- A turn changes nothing about the course but the number of seats taken, so the limit stays.
  induction attempts generalizing roster c with
  | nil => exact .nil d c
  | cons a attempts ih =>
    obtain ⟨ha, hattempts⟩ := List.forall_mem_cons.1 henroll
    have hcases := turn_cases (t := ⟨a, roster⟩) hcourse ha
    rw [turns]
    rcases hcases with ⟨hpasses, hfree, ht⟩ | ⟨hpasses, hfull, ht⟩ | ⟨hpasses, ht⟩
    · exact .cons_of_seats hpasses hfree ht (ih ht.after hattempts)
    · rw [ht.after]
      exact .cons_of_turnsAway hpasses hfull ht (ih hcourse hattempts)
    · rw [ht.after]
      exact .cons_of_passesOver hpasses hcourse ht (ih hcourse hattempts)

/-- The course of the small campus, when it has two seats. -/
def small : Desk where
  tables := { Tables.small with capacity := ⟨.empty, 2, .reject⟩ }
  today := Service.small.today
  course := 12

/-- The teacher tries to enroll, who may not, and then the student does, twice. -/
def smallAttempts : List Attempt :=
  ["Bearer teacher", "Bearer student", "Bearer student"].map fun token =>
    ⟨.ofRequest (.new "r1" token "course.enroll/12" "Enroll"), Roster.small.records.subject⟩

/-- That course, with the number of seats that are taken. -/
def smallCourse (taken : UInt32) : Course := ⟨"Virtual", taken, some "August-December 2025"⟩

theorem exists_turns_small :
    ∃ first second third, small.turns Roster.small smallAttempts = [first, second, third] ∧
      small.passes first = false ∧
      [first, second, third].filter small.passes = [second, third] ∧
      second.roster.courses.get? small.course = some (smallCourse 1) ∧
      third.roster.courses.get? small.course = some (smallCourse 2) := by
  have hpasses : (small.turns Roster.small smallAttempts).map small.passes =
      [false, true, true] := by
    decide +kernel
  have hmet : (small.turns Roster.small smallAttempts).map
      (fun t => t.roster.courses.get? small.course) =
        [some (smallCourse 1), some (smallCourse 1), some (smallCourse 2)] := by
    decide +kernel
  obtain ⟨first, second, third, hturns⟩ : ∃ first second third,
      small.turns Roster.small smallAttempts = [first, second, third] := ⟨_, _, _, rfl⟩
  rw [hturns] at hpasses hmet
  simp only [List.map_cons, List.map_nil, List.cons.injEq, and_true] at hpasses hmet
  obtain ⟨hfirst, hsecond, hthird⟩ := hpasses
  obtain ⟨-, hmet₂, hmet₃⟩ := hmet
  exact ⟨first, second, third, hturns, hfirst, by simp [hfirst, hsecond, hthird], hmet₂, hmet₃⟩

/-- One of the two seats is free.  The teacher is not admitted, the student gets the seat at the
first attempt, and at the second one the student is turned away. -/
theorem fillsUp_turns_small :
    Roster.small.courses.get? small.course = some (smallCourse 1) ∧
      (∀ a ∈ smallAttempts, a.filed.request.EnrollsIn small.course) ∧
      small.FillsUp (smallCourse 1) (small.turns Roster.small smallAttempts) ∧
      small.limit (smallCourse 1) = 2 ∧
      ∃ first second third, small.turns Roster.small smallAttempts = [first, second, third] ∧
        small.PassesOver first ∧ small.Seats (smallCourse 1) second ∧
          small.TurnsAway (smallCourse 2) third := by
  have hcourse : Roster.small.courses.get? small.course = some (smallCourse 1) := by
    decide +kernel
  have henroll : ∀ a ∈ smallAttempts, a.filed.request.EnrollsIn small.course := by
    have hall : ∀ a ∈ smallAttempts, a.filed.request.verb = "enroll" ∧
        a.filed.request.courseId? = some small.course := by
      decide +kernel
    exact fun a ha => ⟨(hall a ha).1, (hall a ha).2⟩
  have hfills := fillsUp_turns hcourse henroll
  have hlimit : small.limit (smallCourse 1) = 2 := by decide +kernel
  have hfree : (small.limit (smallCourse 1)).toNat - (smallCourse 1).enrolled.toNat = 1 := by
    rw [hlimit]
    rfl
  obtain ⟨first, second, third, hturns, hfirst, hpass, hmet₂, hmet₃⟩ := exists_turns_small
  refine ⟨hcourse, henroll, hfills, hlimit, first, second, third, hturns, ?_⟩
  rw [hturns] at hfills
  have hseats := hfills.seats
  have haway := hfills.turnsAway
  rw [hpass, hfree] at hseats haway
  -- The one free seat goes to the first of the two that get as far as the seats.
  obtain ⟨taken, ht⟩ := hseats second (List.mem_singleton_self _)
  obtain ⟨taken', ht'⟩ := haway third (List.mem_singleton_self _)
  obtain rfl : taken = 1 := congrArg Course.enrolled (Option.some.inj (ht.met.symm.trans hmet₂))
  obtain rfl : taken' = 2 := congrArg Course.enrolled (Option.some.inj (ht'.met.symm.trans hmet₃))
  exact ⟨hfills.passesOver first List.mem_cons_self hfirst, ht, ht'⟩

end Desk

end Registrar
