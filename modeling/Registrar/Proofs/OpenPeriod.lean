import Registrar.Proofs.Authoring
import Registrar.Proofs.Timeline

/-!
# The period of a course that was authored

The period that is noted on an authored course is open, with one exception: an edit that names no
period leaves the period alone, and with it whatever the caller wrote under its names.

* `Request.HoldsPeriod`: a period is noted on a request.
* `Service.period_of_authoring_approved`: **the period of a course that was authored is open**, or
  it was left alone by an edit.
* `Service.not_holdsPeriod_smallBackdated`: such an edit can carry along a period that is long over.
-/

namespace Registrar

namespace Request

/-- The period is noted on the request: its label, its year and the letter of its term. -/
structure HoldsPeriod (r : Request) (p : Period) : Prop where
  /-- The label is that of the period. -/
  label : r.metadata.get? "validatedPeriod" = some (.string p.label)
  /-- The year is that of the period. -/
  year : r.metadata.get? "periodYear" = some (.int p.year)
  /-- The letter is that of the term. -/
  term : r.metadata.get? "periodTerm" = some (.string p.term.code)

/-- Nothing was changed about the period that is noted on the request. -/
def KeepsPeriod (r r₁ : Request) : Prop :=
  ∀ f ∈ [Fact.validatedPeriod, .periodYear, .periodTerm],
    r₁.metadata.get? f.name = r.metadata.get? f.name

variable {r r₁ r₂ : Request}

theorem holdsPeriod_noteOpen (p : Period) : (r.noteOpen p).HoldsPeriod p where
  label := by
    change (r.noteOpen p).metadata.get? Fact.validatedPeriod.name = _
    rw [noteOpen, get?_metadata_note_of_ne _ (by decide), get?_metadata_note_of_ne _ (by decide),
      get?_metadata_note_self]
  year := by
    change (r.noteOpen p).metadata.get? Fact.periodYear.name = _
    rw [noteOpen, get?_metadata_note_of_ne _ (by decide), get?_metadata_note_self]
  term := get?_metadata_note_self ..

theorem HoldsPeriod.congr {p : Period} (h : r.HoldsPeriod p) (hk : r.KeepsPeriod r₁) :
    r₁.HoldsPeriod p where
  label := (hk .validatedPeriod (by decide)).trans h.label
  year := (hk .periodYear (by decide)).trans h.year
  term := (hk .periodTerm (by decide)).trans h.term

theorem HoldsPeriod.fact?_validatedPeriod {p : Period} (h : r.HoldsPeriod p) :
    r.fact? .validatedPeriod = some (.string p.label) := by
  rw [fact?, value?, show Fact.validatedPeriod.name = "validatedPeriod" from rfl, h.label]
  rfl

theorem KeepsPeriod.trans (h : r.KeepsPeriod r₁) (h' : r₁.KeepsPeriod r₂) : r.KeepsPeriod r₂ :=
  fun f hf => (h' f hf).trans (h f hf)

theorem keepsPeriod_identify (subject : Subject) : r.KeepsPeriod (r.identify subject) :=
  fun f hf => r.get?_metadata_identify_of_ne subject (by revert f; decide)

theorem OwnedAs.keepsPeriod {role : Role} {subject : Int64} (h : r.OwnedAs role subject r₁) :
    r.KeepsPeriod r₁ :=
  fun f hf => h.get?_metadata_of_ne (by revert f; decide)

end Request

namespace Service

variable {s : Service} {c done : Case}

/-- **Whoever was allowed to author a course has an open period noted**, with its label, its year
and its term, unless an edit named no period; then what the caller wrote under these names is still
there, and nothing else.  A course that was created always has an open period. -/
theorem period_of_authoring_approved (hd : (s.evaluate .courseAuthoring c).result = .ok done)
    (ha : done.isApproved = true) (hauthors : c.request.Authors) :
    ((∃ p ∈ openPeriods s.today, done.request.HoldsPeriod p) ∨
      c.request.verb = "edit" ∧ c.request.fact? .periodRequested = none ∧
        c.request.KeepsPeriod done.request) ∧
    (c.request.verb = "create" → ∃ p ∈ openPeriods s.today, done.request.HoldsPeriod p) := by
  obtain ⟨subject, r₁, -, hn, ho⟩ := exists_of_authoring_approved hd ha
  rcases hn with ⟨rfl, hskip⟩ | ⟨p, hp, rfl⟩
  · -- Nothing was noted, which happens to edits only.
    obtain ⟨hnone, hedit⟩ := hskip hauthors
    rw [Request.fact?_identify_of_ne _ _ (by decide)] at hnone
    rw [Request.verb_identify] at hedit
    refine ⟨.inr ⟨hedit, hnone, (Request.keepsPeriod_identify subject).trans ho.keepsPeriod⟩, ?_⟩
    intro hcreate
    rw [hcreate] at hedit
    exact absurd hedit (by decide)
  · have hopen : ∃ p ∈ openPeriods s.today, done.request.HoldsPeriod p :=
      ⟨p, Period.assess_eq_ok_iff.1 hp, (Request.holdsPeriod_noteOpen p).congr ho.keepsPeriod⟩
    exact ⟨.inl hopen, fun _ => hopen⟩

/-- The teacher of the small campus creates a course for next year, and claims that it was for a
year long past. -/
def smallCreation : Case :=
  .ofRequest (((Request.new "r1" "teacher" "course.create" "create").note
    .periodRequested (.string " enero - JUNIO 2026")).note
    .validatedPeriod (.string "January-June 2001"))

/-- Next year is what is noted. -/
theorem period_of_smallCreation :
    ∃ done, (small.evaluate .courseAuthoring smallCreation).result = .ok done ∧
      done.isApproved = true ∧ smallCreation.request.Authors ∧
      ∃ p ∈ openPeriods small.today, done.request.HoldsPeriod p := by
  have hcreate : smallCreation.request.verb = "create" := by decide +kernel
  have hk : (small.evaluate .courseAuthoring smallCreation).result.toOption.map (·.isApproved) =
      some true := by
    decide +kernel
  cases hd : (small.evaluate .courseAuthoring smallCreation).result with
  | error e =>
    rw [hd] at hk
    cases hk
  | ok done =>
    rw [hd] at hk
    have ha : done.isApproved = true := Option.some.inj hk
    exact ⟨done, rfl, ha, .inl hcreate,
      (period_of_authoring_approved hd ha (.inl hcreate)).2 hcreate⟩

/-- The teacher of the small campus edits a course without naming a period, and brings along one
that is long over. -/
def smallBackdated : Case :=
  .ofRequest ((Request.new "r1" "teacher" "course.edit" "edit").note
    .validatedPeriod (.string "January-June 2001"))

/-- The edit is allowed, and the period that it carries is not open. -/
theorem not_holdsPeriod_smallBackdated :
    ∃ done, (small.evaluate .courseAuthoring smallBackdated).result = .ok done ∧
      done.isApproved = true ∧ smallBackdated.request.Authors ∧
      (done.request.fact? .validatedPeriod).bind Json.string? = some "January-June 2001" ∧
      ¬ ∃ p ∈ openPeriods small.today, done.request.HoldsPeriod p := by
  have hauthors : smallBackdated.request.Authors := .inr (by decide +kernel)
  have hk : (small.evaluate .courseAuthoring smallBackdated).result.toOption.map
      (fun done => (done.isApproved, (done.request.fact? .validatedPeriod).bind Json.string?)) =
        some (true, some "January-June 2001") := by
    decide +kernel
  cases hd : (small.evaluate .courseAuthoring smallBackdated).result with
  | error e =>
    rw [hd] at hk
    cases hk
  | ok done =>
    rw [hd] at hk
    obtain ⟨ha, hf⟩ := Prod.mk.inj (Option.some.inj hk)
    refine ⟨done, rfl, ha, hauthors, hf, ?_⟩
    rintro ⟨p, hp, hholds⟩
    have hne : ∀ p ∈ openPeriods small.today, p.label ≠ "January-June 2001" := by decide +kernel
    rw [hholds.fact?_validatedPeriod] at hf
    exact hne p hp (Option.some.inj hf)

end Service

end Registrar
