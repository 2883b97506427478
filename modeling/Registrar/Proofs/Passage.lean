import Registrar.Proofs.Authoring
import Registrar.Proofs.Questions
import Registrar.Proofs.Timeline

/-!
# The passage of time

A period is first too far ahead, then open, then in progress, and at last over.  As days pass it
goes through these standings in this order and never back, and with it go the answers of the two
stages that look at periods.

* `Standing.rank`: the order in which a period goes through the standings.
* `Period.rank_standing`: a period passes three marks, one after the other.
* `Stage.refuses_academicPeriod_iff`, `Stage.refuses_schedule_iff`: which requests the two stages
  refuse because of a period.
* `Period.advances`: **a period only moves forward**, so that authoring stays closed for a period
  that has begun, and enrolling in a course that is over.
-/

namespace Registrar

/-! ### The order of the standings -/

namespace Standing

/-- The place of a standing in the order in which a period goes through them. -/
def rank : Standing → Nat
  | notYetOpen => 0
  | isOpen => 1
  | inProgress => 2
  | alreadyPassed => 3

instance : LE Standing := ⟨fun s t => s.rank ≤ t.rank⟩

end Standing

namespace Period

variable {p : Period} {d d' : Date}

/-- **A period passes three marks**: its year comes within reach, its first day comes, its last day
goes by. -/
theorem rank_standing (p : Period) (d : Date) : (p.standing d).rank =
    (if p.year ≤ d.year + 1 then 1 else 0) + (if p.firstDay ≤ d then 1 else 0) +
      (if p.lastDay < d then 1 else 0) := by
  simp only [standing, ← hasEnded_iff]
  rcases p.position d with ⟨hbefore, hin, hended⟩ | ⟨hbegun, hin, hended⟩ | ⟨hbegun, -, hended⟩
  · simp only [hin, hended, not_le.2 hbefore, Bool.false_eq_true, if_false]
    split <;> rfl
  · have hreach : p.year ≤ d.year + 1 := Int.le_add_one (year_le_of_firstDay_le hbegun)
    simp only [hin, hended, hbegun, hreach, Bool.false_eq_true, if_false, if_true]
    rfl
  · have hreach : p.year ≤ d.year + 1 := Int.le_add_one (year_le_of_firstDay_le hbegun)
    simp only [hended, hbegun, hreach, if_true]
    rfl

theorem mark_mono {a b : Prop} [Decidable a] [Decidable b] (h : a → b) :
    (if a then 1 else 0) ≤ if b then 1 else 0 := by
  by_cases ha : a
  · rw [if_pos ha, if_pos (h ha)]
  · rw [if_neg ha]
    exact Nat.zero_le _

theorem standing_mono (p : Period) (h : d ≤ d') : p.standing d ≤ p.standing d' := by
  change (p.standing d).rank ≤ (p.standing d').rank
  rw [rank_standing, rank_standing]
  have hyear := Date.year_le_of_le h
  refine Nat.add_le_add (Nat.add_le_add (mark_mono ?_) (mark_mono ?_)) (mark_mono ?_)
  · omega
  · exact fun hbegun => le_trans hbegun h
  · exact fun hended => lt_of_lt_of_le hended h

theorem hasEnded_mono (h : d ≤ d') (hended : p.hasEnded d = true) : p.hasEnded d' = true :=
  hasEnded_iff.2 (lt_of_lt_of_le (hasEnded_iff.1 hended) h)

/-- What has begun is in progress or over. -/
theorem firstDay_le_iff_assess : p.firstDay ≤ d ↔
    p.assess d = .error .inProgress ∨ p.assess d = .error .alreadyPassed := by
  rw [(p.settledOn d).inProgress_iff, (p.settledOn d).alreadyPassed_iff]
  rcases p.position d with ⟨hbefore, hin, hended⟩ | ⟨hbegun, hin, -⟩ | ⟨hbegun, -, hended⟩
  · simp [not_le.2 hbefore, hin, hended]
  · simp [hbegun, hin]
  · simp [hbegun, hended]

end Period

/-! ### What the stages make of it -/

/-- The stage refuses the request for a reason of the kind. -/
def Stage.Refuses (s : Stage) (r : Request) (kind : RejectionKind) : Prop :=
  ∃ r₁ message, (s.handle r).result = .ok (.reject r₁ kind message)

/-- The request authors a course for the period. -/
structure Request.AuthorsFor (r : Request) (p : Period) : Prop where
  /-- It creates or edits a course. -/
  authors : r.Authors
  /-- It names the period. -/
  named : ∃ raw, r.fact? .periodRequested = some (.string raw) ∧ Period.read raw = .ok p

/-- The request enrolls in a course that, by the records, is held in the period. -/
def Request.EnrollsFor (r : Request) (records : Records) (p : Period) : Prop :=
  ∃ course raw, r.EnrollsIn course ∧ records.period course = .ok (some raw) ∧
    Period.read raw = .ok p

namespace Stage

variable {r : Request} {p : Period} {d : Date} {records : Records} {kind : RejectionKind}

theorem refuses_academicPeriod_iff (h : r.AuthorsFor p) : (academicPeriod d).Refuses r kind ↔
    ∃ issue, kind = .invalidPeriod issue ∧ p.assess d = .error issue := by
  obtain ⟨raw, hf, hp⟩ := h.named
  have hhandle : ((academicPeriod d).handle r).result = .ok (openPeriodReply d p r) := by
    simp only [academicPeriod, ofReply, periodReply, Request.authors_iff.2 h.authors, hf, hp,
      if_true, Consult.result_pure]
  simp only [Refuses, hhandle, openPeriodReply]
  cases ha : p.assess d with
  | error issue =>
    constructor
    · rintro ⟨r₁, message, hreply⟩
      cases hreply
      exact ⟨issue, rfl, rfl⟩
    · rintro ⟨issue', rfl, hissue⟩
      obtain rfl := Except.error.inj hissue
      exact ⟨r, _, rfl⟩
  | ok _ =>
    constructor
    · rintro ⟨r₁, message, hreply⟩
      cases hreply
    · rintro ⟨issue, -, hissue⟩
      cases hissue

theorem refuses_schedule_iff (h : r.EnrollsFor records p) : (schedule records d).Refuses r kind ↔
    kind = .enrollmentClosed ∧ p.hasEnded d = true := by
  obtain ⟨course, raw, he, hperiod, hp⟩ := h
  have hhandle : ∀ reply, ((schedule records d).handle r).result = .ok reply ↔
      scheduleReply d course (some raw) r = reply := by
    intro reply
    simp only [schedule, Request.does_enroll_iff.2 he.verb, he.course, if_true,
      Consult.result_bind_eq_ok, Consult.result_ask_eq_ok, hperiod]
    simp
  simp only [Refuses, hhandle, scheduleReply, Option.map_some, hp]
  cases hended : p.hasEnded d with
  | true =>
    constructor
    · rintro ⟨r₁, message, hreply⟩
      cases hreply
      exact ⟨rfl, rfl⟩
    · rintro ⟨rfl, -⟩
      exact ⟨_, _, rfl⟩
  | false =>
    constructor
    · rintro ⟨r₁, message, hreply⟩
      cases hreply
    · rintro ⟨-, hfalse⟩
      cases hfalse

end Stage

/-! ### Forward only -/

/-- What becomes of a period between two dates. -/
structure Period.Advances (p : Period) (d d' : Date) : Prop where
  /-- It stands on the second date as it stood on the first one, or further on. -/
  assess : ∃ s s' : Standing, p.assess d = s.answer ∧ p.assess d' = s'.answer ∧ s ≤ s'
  /-- Once authoring for it is refused because it has begun, that is how it is refused. -/
  authoring : ∀ (r r' : Request) (issue : PeriodIssue), r.AuthorsFor p → r'.AuthorsFor p →
    issue = .inProgress ∨ issue = .alreadyPassed →
      (Stage.academicPeriod d).Refuses r (.invalidPeriod issue) →
        (Stage.academicPeriod d').Refuses r' (.invalidPeriod .inProgress) ∨
          (Stage.academicPeriod d').Refuses r' (.invalidPeriod .alreadyPassed)
  /-- Enrolling in a course that is held in it is refused exactly when authoring takes it for
  over. -/
  enrolling_iff : ∀ (records : Records) (r : Request), r.EnrollsFor records p →
    ((Stage.schedule records d').Refuses r .enrollmentClosed ↔
      p.assess d' = .error .alreadyPassed)
  /-- Once enrolling in such a course is refused, it stays so. -/
  enrolling : ∀ (records records' : Records) (r r' : Request), r.EnrollsFor records p →
    r'.EnrollsFor records' p → (Stage.schedule records d).Refuses r .enrollmentClosed →
      (Stage.schedule records' d').Refuses r' .enrollmentClosed

/-- **A period only moves forward.**  On a later date it stands as it stood before or further on;
courses are never again authored for a period that had begun; and enrolling in a course is refused
from the day on which authoring takes its period for over, and ever after. -/
theorem Period.advances (p : Period) {d d' : Date} (h : d ≤ d') : p.Advances d d' where
  assess := ⟨_, _, p.assess_eq d, p.assess_eq d', p.standing_mono h⟩
  authoring := by
    intro r r' issue hr hr' hissue hrefuses
    obtain ⟨_, hkind, hassess⟩ := (Stage.refuses_academicPeriod_iff hr).1 hrefuses
    obtain rfl := RejectionKind.invalidPeriod.inj hkind
    have hbegun : p.firstDay ≤ d := by
      rw [firstDay_le_iff_assess]
      rcases hissue with rfl | rfl
      · exact .inl hassess
      · exact .inr hassess
    simp only [Stage.refuses_academicPeriod_iff hr', RejectionKind.invalidPeriod.injEq,
      exists_eq_left']
    exact firstDay_le_iff_assess.1 (le_trans hbegun h)
  enrolling_iff records r hr := by
    rw [Stage.refuses_schedule_iff hr, eq_self, true_and, (p.settledOn d').alreadyPassed_iff]
  enrolling records records' r r' hr hr' := by
    rw [Stage.refuses_schedule_iff hr, Stage.refuses_schedule_iff hr']
    exact fun ⟨hkind, hended⟩ => ⟨hkind, hasEnded_mono h hended⟩

/-- The first day of the year after that of the small campus. -/
def Date.smallNewYear : Date := ⟨2026, 1, 1, by decide, by decide⟩

/-- On the small campus the course is in progress in September; from the new year on nobody enrolls
in it. -/
theorem Period.advances_small :
    let p : Period := ⟨2025, .b⟩
    Service.small.today ≤ Date.smallNewYear ∧ p.Advances Service.small.today Date.smallNewYear ∧
      p.assess Service.small.today = .error .inProgress ∧
      Service.smallEnrollment.request.EnrollsFor Service.small.records p ∧
      (Stage.schedule Service.small.records Date.smallNewYear).Refuses
        Service.smallEnrollment.request .enrollmentClosed := by
  intro p
  have hle : Service.small.today ≤ Date.smallNewYear := by decide
  have h := Period.advances p hle
  have henrolls : Service.smallEnrollment.request.EnrollsFor Service.small.records p :=
    ⟨12, "August-December 2025", ⟨by decide +kernel, by decide +kernel⟩, rfl, by rfl⟩
  exact ⟨hle, h, rfl, henrolls, (h.enrolling_iff _ _ henrolls).2 rfl⟩

end Registrar
