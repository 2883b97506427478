import Mathlib.Data.List.Chain
import Mathlib.Order.Lattice
import Registrar.Calendar.Assessment

/-!
# Periods on the line of days

The first term of a year runs from the first of January to the end of June, the second one from
the first of August to the end of December.  This file takes a period for these two days and says
where a date lies: before the first, between them, or after the last.

* `Period.firstDay`, `Period.lastDay`: the days on which a period begins and ends.
* `Period.contains_iff`, `Period.hasEnded_iff`: what `Period.contains` and `Period.hasEnded` say
  about these days.
* `Standing`, `Period.standing`: how a period stands on a date, and `Period.assess_eq`: this is what
  authoring is told.
* `Period.exists_openPeriods_eq_cons`: the periods that are open begin with the earliest one that
  has not begun.
* `Date.settles_periods`: **a date lies before, in or after each period, and that settles how the
  period stands**; the open periods are listed without a gap.
-/

namespace Registrar

/-! ### Days in order -/

namespace Date

variable {a b : Date}

theorem le_iff : a ≤ b ↔ a.year < b.year ∨ (a.year = b.year ∧
    (a.month < b.month ∨ (a.month = b.month ∧ a.day ≤ b.day))) :=
  Iff.rfl

theorem eq_of_numbers (hyear : a.year = b.year) (hmonth : a.month = b.month)
    (hday : a.day = b.day) : a = b := by
  cases a
  cases b
  simp_all

/-- Dates come one after the other. -/
instance : LinearOrder Date where
  le_refl a := by simp [le_iff]
  le_trans a b c := by
    rw [le_iff, le_iff, le_iff]
    omega
  le_antisymm a b hab hba := by
    rw [le_iff] at hab hba
    exact eq_of_numbers (by omega) (by omega) (by omega)
  le_total a b := by
    rw [le_iff, le_iff]
    omega
  toDecidableLE := inferInstance

theorem year_le_of_le (h : a ≤ b) : a.year ≤ b.year := by
  rw [le_iff] at h
  omega

end Date

namespace Term

theorem month_mem (t : Term) :
    1 ≤ t.firstMonth ∧ t.firstMonth ≤ t.lastMonth ∧ t.lastMonth ≤ 12 := by
  cases t <;> decide

end Term

theorem one_le_daysInMonth (year : Int) (month : Nat) : 1 ≤ daysInMonth year month := by
  unfold daysInMonth
  split
  · split <;> decide
  all_goals decide

namespace Period

/-! ### The days of a period -/

/-- The day on which a period begins. -/
def firstDay (p : Period) : Date where
  year := p.year
  month := p.term.firstMonth
  day := 1
  month_mem := by
    have := p.term.month_mem
    omega
  day_mem := ⟨Nat.le_refl 1, one_le_daysInMonth ..⟩

/-- The day on which a period ends. -/
def lastDay (p : Period) : Date where
  year := p.year
  month := p.term.lastMonth
  day := daysInMonth p.year p.term.lastMonth
  month_mem := by
    have := p.term.month_mem
    omega
  day_mem := ⟨one_le_daysInMonth .., Nat.le_refl _⟩

variable {p q : Period} {d : Date}

theorem firstDay_le_iff : p.firstDay ≤ d ↔
    p.year < d.year ∨ (p.year = d.year ∧ p.term.firstMonth ≤ d.month) := by
  have hday := d.day_mem.1
  rw [Date.le_iff]
  simp only [firstDay]
  omega

theorem lt_firstDay_iff : d < p.firstDay ↔
    d.year < p.year ∨ (d.year = p.year ∧ d.month < p.term.firstMonth) := by
  rw [← not_le, firstDay_le_iff]
  omega

theorem year_le_of_firstDay_le (h : p.firstDay ≤ d) : p.year ≤ d.year := Date.year_le_of_le h

theorem le_lastDay_iff : d ≤ p.lastDay ↔
    d.year < p.year ∨ (d.year = p.year ∧ d.month ≤ p.term.lastMonth) := by
  rw [Date.le_iff]
  simp only [lastDay]
  constructor
  · omega
  · rintro (hyear | ⟨hyear, hmonth⟩)
    · exact .inl hyear
    · -- Within its own month a date is never after the last day.
      rcases Nat.lt_or_eq_of_le hmonth with hlt | heq
      · exact .inr ⟨hyear, .inl hlt⟩
      · have hday := d.day_mem.2
        rw [hyear, heq] at hday
        exact .inr ⟨hyear, .inr ⟨heq, hday⟩⟩

theorem firstDay_le_lastDay (p : Period) : p.firstDay ≤ p.lastDay :=
  firstDay_le_iff.2 (.inr ⟨rfl, p.term.month_mem.2.1⟩)

/-- **A period contains the days from its first one to its last one.** -/
theorem contains_iff : p.contains d = true ↔ p.firstDay ≤ d ∧ d ≤ p.lastDay := by
  rw [firstDay_le_iff, le_lastDay_iff]
  simp only [contains, Bool.and_eq_true, decide_eq_true_eq]
  omega

theorem hasEnded_iff : p.hasEnded d = true ↔ p.lastDay < d := by
  rw [← not_le, le_lastDay_iff]
  simp only [hasEnded, Bool.or_eq_true, Bool.and_eq_true, decide_eq_true_eq]
  omega

theorem of_lt_firstDay (h : d < p.firstDay) : p.contains d = false ∧ p.hasEnded d = false := by
  simp only [← Bool.not_eq_true, contains_iff, hasEnded_iff]
  exact ⟨fun hin => not_lt.2 hin.1 h,
    not_lt.2 (le_of_lt (lt_of_lt_of_le h p.firstDay_le_lastDay))⟩

theorem hasEnded_of_contains (h : p.contains d = true) : p.hasEnded d = false := by
  rw [← Bool.not_eq_true, hasEnded_iff, not_lt]
  exact (contains_iff.1 h).2

/-- **A date lies before a period, in it, or after it**, and in only one of these. -/
theorem position (p : Period) (d : Date) :
    (d < p.firstDay ∧ p.contains d = false ∧ p.hasEnded d = false) ∨
      (p.firstDay ≤ d ∧ p.contains d = true ∧ p.hasEnded d = false) ∨
        (p.firstDay ≤ d ∧ p.contains d = false ∧ p.hasEnded d = true) := by
  rcases lt_or_ge d p.firstDay with hbefore | hbegun
  · exact .inl ⟨hbefore, of_lt_firstDay hbefore⟩
  · cases hin : p.contains d with
    | true => exact .inr (.inl ⟨hbegun, rfl, hasEnded_of_contains hin⟩)
    | false =>
      refine .inr (.inr ⟨hbegun, rfl, hasEnded_iff.2 (not_le.1 fun hnot => ?_)⟩)
      rw [contains_iff.2 ⟨hbegun, hnot⟩] at hin
      cases hin

/-! ### The periods that are open -/

theorem before_iff : p.before q = true ↔ p.firstDay < q.firstDay := by
  rw [lt_firstDay_iff]
  obtain ⟨y, t⟩ := p
  obtain ⟨z, u⟩ := q
  cases t <;> cases u <;> simp [before, firstDay, Term.firstMonth]

theorem mem_openPeriods_iff : p ∈ openPeriods d ↔ d < p.firstDay ∧ p.year ≤ d.year + 1 := by
  have hmonth := d.month_mem
  rw [lt_firstDay_iff]
  obtain ⟨y, t⟩ := p
  unfold openPeriods
  dsimp only
  split <;> cases t <;> simp [Term.firstMonth] <;> omega

/-- **The periods that are open** begin with the earliest one that has not begun. -/
theorem exists_openPeriods_eq_cons (d : Date) : ∃ e rest, openPeriods d = e :: rest ∧
    d < e.firstDay ∧ ∀ q : Period, d < q.firstDay → q = e ∨ e.before q = true := by
  have hmonth := d.month_mem
  have hearliest : ∃ e rest, openPeriods d = e :: rest ∧
      ∀ q : Period, d < q.firstDay → q = e ∨ e.before q = true := by
    unfold openPeriods
    dsimp only
    split
    all_goals
      refine ⟨_, _, rfl, fun q hq => ?_⟩
      rw [lt_firstDay_iff] at hq
      obtain ⟨z, u⟩ := q
      cases u <;> simp [before, Term.firstMonth] at hq ⊢ <;> omega
  obtain ⟨e, rest, hopen, hearliest⟩ := hearliest
  have hmem : e ∈ openPeriods d := by simp [hopen]
  exact ⟨e, rest, hopen, (mem_openPeriods_iff.1 hmem).1, hearliest⟩

/-- A period comes before the first one that is open exactly when it has begun. -/
theorem before_head_iff {e : Period} {rest : List Period} (h : openPeriods d = e :: rest) :
    p.before e = true ↔ p.firstDay ≤ d := by
  obtain ⟨e', rest', h', hnot, hearliest⟩ := exists_openPeriods_eq_cons d
  obtain ⟨rfl, -⟩ := List.cons.inj (h.symm.trans h')
  rw [before_iff]
  constructor
  · intro hlt
    by_contra hle
    rcases hearliest p (not_le.1 hle) with rfl | hbefore
    · exact lt_irrefl _ hlt
    · exact lt_asymm hlt (before_iff.1 hbefore)
  · exact fun hle => lt_of_le_of_lt hle hnot

end Period

/-! ### How a period stands -/

/-- How a period stands on a date. -/
inductive Standing where
  /-- It lies too far ahead. -/
  | notYetOpen
  /-- Courses may be authored for it. -/
  | isOpen
  /-- It has begun and is not over. -/
  | inProgress
  /-- It is over. -/
  | alreadyPassed
  deriving DecidableEq

/-- What authoring is told about a period that stands so. -/
def Standing.answer : Standing → Except PeriodIssue Unit
  | notYetOpen => .error .notYetOpen
  | isOpen => .ok ()
  | inProgress => .error .inProgress
  | alreadyPassed => .error .alreadyPassed

theorem Standing.answer_inj {s t : Standing} : s.answer = t.answer ↔ s = t := by
  cases s <;> cases t <;> simp [answer]

namespace Period

variable {p : Period} {d : Date} {s : Standing}

/-- How a period stands on a date. -/
def standing (p : Period) (d : Date) : Standing :=
  if p.hasEnded d then .alreadyPassed
  else if p.contains d then .inProgress
  else if p.year ≤ d.year + 1 then .isOpen
  else .notYetOpen

/-- The period stands so on the date: said without regard to the order in which it is tested. -/
def Stands (p : Period) (d : Date) : Standing → Prop
  | .notYetOpen => d.year + 1 < p.year
  | .isOpen => d < p.firstDay ∧ p.year ≤ d.year + 1
  | .inProgress => p.contains d = true
  | .alreadyPassed => p.hasEnded d = true

theorem stands_standing (p : Period) (d : Date) : p.Stands d (p.standing d) := by
  unfold standing
  rcases p.position d with ⟨hbefore, hin, hended⟩ | ⟨-, hin, hended⟩ | ⟨-, -, hended⟩
  · simp only [hin, hended, Bool.false_eq_true, if_false]
    split
    · next hyear => exact ⟨hbefore, hyear⟩
    · next hyear => exact Int.not_le.1 hyear
  · simp only [hin, hended, Bool.false_eq_true, if_false, if_true]
    exact hin
  · simp only [hended, if_true]
    exact hended

theorem standing_of_stands (h : p.Stands d s) : p.standing d = s := by
  cases s with
  | notYetOpen =>
    have hyear : ¬ p.year ≤ d.year + 1 := Int.not_le.2 h
    obtain ⟨hin, hended⟩ := of_lt_firstDay (p := p) (d := d) (lt_firstDay_iff.2 (.inl (by omega)))
    simp [standing, hin, hended, hyear]
  | isOpen =>
    obtain ⟨hbefore, hyear⟩ := h
    obtain ⟨hin, hended⟩ := of_lt_firstDay hbefore
    simp [standing, hin, hended, hyear]
  | inProgress =>
    have hin : p.contains d = true := h
    simp [standing, hin, hasEnded_of_contains hin]
  | alreadyPassed =>
    have hended : p.hasEnded d = true := h
    simp [standing, hended]

theorem stands_iff : p.Stands d s ↔ p.standing d = s :=
  ⟨standing_of_stands, fun h => h ▸ p.stands_standing d⟩

/-- **What authoring is told** is how the period stands. -/
theorem assess_eq (p : Period) (d : Date) : p.assess d = (p.standing d).answer := by
  obtain ⟨e, rest, hopen, -⟩ := exists_openPeriods_eq_cons d
  rw [assess, standing]
  simp only [mem_openPeriods_iff]
  simp only [hopen, before_head_iff hopen]
  rcases p.position d with ⟨hbefore, hin, hended⟩ | ⟨hbegun, hin, hended⟩ | ⟨hbegun, hin, hended⟩
  · simp only [hbefore, not_le.2 hbefore, hin, hended, true_and, Bool.false_eq_true, if_false]
    split <;> rfl
  · simp only [not_lt.2 hbegun, hin, hended, false_and, Bool.false_eq_true, if_false, if_true]
    rfl
  · simp only [not_lt.2 hbegun, hbegun, hin, hended, false_and, Bool.false_eq_true, if_false,
      if_true]
    rfl

theorem assess_eq_answer_iff : p.assess d = s.answer ↔ p.Stands d s := by
  rw [assess_eq, Standing.answer_inj, stands_iff]

theorem assess_eq_ok_iff : p.assess d = .ok () ↔ p ∈ openPeriods d :=
  (assess_eq_answer_iff (s := .isOpen)).trans mem_openPeriods_iff.symm

/-! ### What a date settles -/

/-- What a date settles about a period. -/
structure SettledOn (p : Period) (d : Date) : Prop where
  /-- It lies before the period, in it, or after it, and in only one of these. -/
  position : (d < p.firstDay ∧ p.contains d = false ∧ p.hasEnded d = false) ∨
    (p.firstDay ≤ d ∧ p.contains d = true ∧ p.hasEnded d = false) ∨
      (p.firstDay ≤ d ∧ p.contains d = false ∧ p.hasEnded d = true)
  /-- The period is in progress exactly when the date lies in it, -/
  inProgress_iff : p.assess d = .error .inProgress ↔ p.contains d = true
  /-- has passed exactly when the date lies after it, -/
  alreadyPassed_iff : p.assess d = .error .alreadyPassed ↔ p.hasEnded d = true
  /-- is open exactly when the date lies before it, and at most one year before its year, -/
  ok_iff : p.assess d = .ok () ↔ d < p.firstDay ∧ p.year ≤ d.year + 1
  /-- and is not open yet exactly when it lies in a later year. -/
  notYetOpen_iff : p.assess d = .error .notYetOpen ↔ d.year + 1 < p.year
  /-- There is always something to say about a period. -/
  ne_unparsable : p.assess d ≠ .error .unparsable

theorem settledOn (p : Period) (d : Date) : p.SettledOn d where
  position := p.position d
  inProgress_iff := assess_eq_answer_iff (s := .inProgress)
  alreadyPassed_iff := assess_eq_answer_iff (s := .alreadyPassed)
  ok_iff := assess_eq_answer_iff (s := .isOpen)
  notYetOpen_iff := assess_eq_answer_iff (s := .notYetOpen)
  ne_unparsable := by
    rw [assess_eq]
    cases p.standing d <;> simp [Standing.answer]

end Period

namespace Date

/-- The periods that are open on a date, as they should be listed. -/
structure ListsOpen (d : Date) (ps : List Period) : Prop where
  /-- They are the periods for which courses may be authored. -/
  mem_iff : ∀ p, p ∈ ps ↔ p.assess d = .ok ()
  /-- Each of them comes before all those behind it, -/
  increasing : ps.Pairwise fun p q => p.before q = true
  /-- and right before the next one. -/
  successive : ps.IsChain fun p q => q = p.next
  /-- The first one has not begun, and is the earliest of all that have not. -/
  earliest : ∃ e, ps.head? = some e ∧ d < e.firstDay ∧
    ∀ q : Period, d < q.firstDay → q = e ∨ e.before q = true

theorem listsOpen (d : Date) : d.ListsOpen (openPeriods d) where
  mem_iff p := Period.assess_eq_ok_iff.symm
  increasing := by
    unfold openPeriods
    dsimp only
    split
    · have hnext : d.year < d.year + 1 := Int.lt_succ d.year
      simp_all [Period.before]
    · simp [Period.before]
  successive := by
    unfold openPeriods
    dsimp only
    split <;> simp [Period.next]
  earliest := by
    obtain ⟨e, rest, hopen, hearliest⟩ := Period.exists_openPeriods_eq_cons d
    exact ⟨e, by rw [hopen, List.head?_cons], hearliest⟩

/-- **A date lies before, in or after each period, and that settles how the period stands**; the
periods that are open are listed from the earliest one that has not begun, one after the other and
without a gap. -/
theorem settles_periods (d : Date) :
    (∀ p : Period, p.SettledOn d) ∧ d.ListsOpen (openPeriods d) :=
  ⟨fun p => p.settledOn d, d.listsOpen⟩

end Date

end Registrar
