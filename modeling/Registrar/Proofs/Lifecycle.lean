import Registrar.Proofs.Judging
import Registrar.Service

/-!
# The life of a case

A case is made from a new request, and from then on its request is changed and it is judged, in
any order and as often as one likes, by pipelines of any stages.

* `Stage.marked`: a stage that shows whether it was entered.
* `Case.Step`, `Case.after`: what can be done with a case, and what is left of it after a row of
  steps.
* `Case.Consistent`: a case is not both granted and refused.  `Case.Consistent.approve` and
  `Case.Consistent.reject`: the guards see to it; `Case.Consistent.after`: so it stays like that.
* `Case.Step.exists_after_eq_modify`, `Case.exists_after_eq_modify`: what is decided survives one
  step, and so any number of them.
* `Case.Steady`: there is at most one verdict on a case, each judging that comes to an end gives
  it one, it never changes, and a case that has one is not judged again.
* `Case.steady_after`: **cases are steady at all times.**
-/

namespace Registrar

/-! ### Entering a stage -/

/-- The stage with a mark: it asks a question first of all, which shows that it was entered. -/
def Stage.marked (s : Stage) (q : Lookup) : Stage :=
  ⟨s.name, fun r => do
    Consult.ask s.name q (.ok ())
    s.handle r⟩

/-- The pipeline with a mark on each of its stages. -/
def Pipeline.marked (p : Pipeline) (q : Lookup) : Pipeline :=
  ⟨p.name, p.first.marked q, p.others.map (·.marked q)⟩

/-- **A stage of a pipeline is entered exactly when there is no verdict.** -/
theorem Pipeline.mem_lookups_run_marked (p : Pipeline) (q : Lookup) (c : Case) :
    q ∈ ((p.marked q).run c).lookups ↔ c.isDecided = false := by
  cases hc : c.isDecided with
  | true => simp [run_of_decided _ hc]
  | false =>
    rw [lookups_run _ hc, iff_true_right rfl]
    have hask : q ∈ (Consult.ask p.first.name q (.ok ())).lookups := List.mem_singleton_self q
    have hfirst : q ∈ ((p.first.marked q).handle c.request).lookups :=
      Consult.mem_lookups_bind hask _
    exact Consult.mem_lookups_bind hfirst _

namespace Case

/-! ### Steps -/

/-- What can be done with a case. -/
inductive Step where
  /-- The request is put in a role, whatever it was before. -/
  | inRole (role : Role)
  /-- The request is put in a role, unless it has one already. -/
  | claimRole (role : Role)
  /-- A value is kept under a name. -/
  | set (name : String) (v : Json)
  /-- The case is judged by some pipeline. -/
  | run (p : Pipeline)
  /-- The case is judged by a pipeline of a service. -/
  | evaluate (s : Service) (kind : PipelineKind)

namespace Step

/-- The pipeline by which a step judges, if it does. -/
def pipeline? : Step → Option Pipeline
  | run p => some p
  | evaluate s kind => some (s.pipeline kind)
  | _ => none

/-- What a step gives back, and the questions that it asks. -/
def perform : Step → Case → Consult RunError Case
  | inRole role, c => pure (c.modify (·.inRole role))
  | claimRole role, c => pure (c.modify (·.claimRole role))
  | set name v, c => pure (c.modify (·.set name v))
  | run p, c => p.run c
  | evaluate s kind, c => s.evaluate kind c

/-- The case after a step.  A judging that fails leaves it as it was. -/
def after (step : Step) (c : Case) : Case :=
  match (step.perform c).result with
  | .ok c' => c'
  | .error _ => c

end Step

/-- The case after a row of steps. -/
def after (c : Case) (steps : List Step) : Case := steps.foldl (fun c step => step.after c) c

variable {c : Case}

theorem isDecided_iff :
    c.isDecided = true ↔ c.isApproved = true ∨ ∃ reason, c.rejection? = some reason := by
  rw [isDecided, Bool.or_eq_true, Option.isSome_iff_exists]

namespace Step

variable {step : Step} {p : Pipeline}

theorem perform_of_pipeline? (h : step.pipeline? = some p) (c : Case) :
    step.perform c = p.run c := by
  cases step with
  | run p' =>
    obtain rfl : p' = p := Option.some.inj h
    rfl
  | evaluate s kind =>
    obtain rfl : s.pipeline kind = p := Option.some.inj h
    rfl
  | _ => cases h

theorem exists_perform_of_not_judging (h : step.pipeline? = none) (c : Case) :
    ∃ f, step.perform c = pure (c.modify f) := by
  cases step with
  | inRole role => exact ⟨_, rfl⟩
  | claimRole role => exact ⟨_, rfl⟩
  | set name v => exact ⟨_, rfl⟩
  | _ => cases h

/-- A case on which there is a verdict is not judged: no question is asked, whatever the stages
are. -/
theorem perform_of_decided (h : step.pipeline? = some p) (hc : c.isDecided = true) :
    step.perform c = .fail (.alreadyDecided c.request.id) := by
  rw [perform_of_pipeline? h, p.run_of_decided hc]

theorem isDecided_of_perform {done : Case} (h : step.pipeline? = some p)
    (hd : (step.perform c).result = .ok done) : done.isDecided = true := by
  rw [perform_of_pipeline? h] at hd
  obtain ⟨-, v, -, hv⟩ := (p.result_run_eq_ok).1 hd
  exact isDecided_of_verdict hv

/-- **What is decided survives a step**: only the request may be changed. -/
theorem exists_after_eq_modify (step : Step) (hc : c.isDecided = true) :
    ∃ f, step.after c = c.modify f := by
  unfold after
  cases h : step.pipeline? with
  | none =>
    obtain ⟨f, hf⟩ := exists_perform_of_not_judging h c
    rw [hf]
    exact ⟨f, rfl⟩
  | some p =>
    rw [perform_of_decided h hc]
    exact ⟨id, rfl⟩

end Step

/-- **What is decided survives any number of steps.** -/
theorem exists_after_eq_modify (hc : c.isDecided = true) (steps : List Step) :
    ∃ f, c.after steps = c.modify f := by
  induction steps generalizing c with
  | nil => exact ⟨id, rfl⟩
  | cons step steps ih =>
    obtain ⟨f, hf⟩ := step.exists_after_eq_modify hc
    have hdecided : (step.after c).isDecided = true := by rwa [hf, isDecided_modify]
    obtain ⟨g, hg⟩ := ih hdecided
    exact ⟨g ∘ f, hg.trans (by rw [hf]; rfl)⟩

/-! ### One verdict -/

/-- The case is not both granted and refused. -/
def Consistent (c : Case) : Prop :=
  ¬ (c.isApproved = true ∧ ∃ reason, c.rejection? = some reason)

namespace Consistent

theorem ofRequest (r : Request) : (ofRequest r).Consistent := by
  rintro ⟨happroved, -⟩
  cases happroved

theorem modify (h : c.Consistent) (f : Request → Request) : (c.modify f).Consistent := h

/-- What is refused is not granted afterwards. -/
theorem approve (h : c.Consistent) : c.approve.Consistent := by
  unfold Case.approve
  split
  · exact h
  · next hc =>
    obtain ⟨-, hnone⟩ := isDecided_eq_false_iff.1 (Bool.eq_false_iff.2 hc)
    rintro ⟨-, reason, hreason⟩
    cases hnone.symm.trans hreason

/-- What is granted is not refused afterwards. -/
theorem reject (h : c.Consistent) (reason : Rejection) : (c.reject reason).Consistent := by
  unfold Case.reject
  split
  · exact h
  · next hc =>
    obtain ⟨hfalse, -⟩ := isDecided_eq_false_iff.1 (Bool.eq_false_iff.2 hc)
    rintro ⟨happroved, -⟩
    cases hfalse.symm.trans happroved

theorem close (h : c.Consistent) : ∀ v, (c.close v).Consistent
  | .approved => h.approve
  | .rejected reason => h.reject reason

theorem run {p : Pipeline} {done : Case} (h : c.Consistent) (hd : (p.run c).result = .ok done) :
    done.Consistent := by
  obtain ⟨f, v, rfl⟩ := p.exists_close_of_run hd
  exact (h.modify f).close v

theorem step (h : c.Consistent) (step : Step) : (step.after c).Consistent := by
  unfold Step.after
  split
  · next c' hc' =>
    cases hstep : step.pipeline? with
    | none =>
      obtain ⟨f, hf⟩ := Step.exists_perform_of_not_judging hstep c
      obtain rfl : c.modify f = c' := Except.ok.inj (hf ▸ hc')
      exact h.modify f
    | some p =>
      rw [Step.perform_of_pipeline? hstep] at hc'
      exact h.run hc'
  · exact h

/-- **Whatever is done with a case, it gets no second verdict.** -/
theorem after (h : c.Consistent) (steps : List Step) : (c.after steps).Consistent := by
  induction steps generalizing c with
  | nil => exact h
  | cons step steps ih => exact ih (h.step step)

end Consistent

/-! ### Steadiness -/

/-- There is at most one verdict on the case, and it is final. -/
structure Steady (c : Case) : Prop where
  /-- The case is not both granted and refused. -/
  exclusive : ¬ (c.isApproved = true ∧ ∃ reason, c.rejection? = some reason)
  /-- It has a verdict exactly when it is granted or refused. -/
  decided_iff : c.isDecided = true ↔ c.isApproved = true ∨ ∃ reason, c.rejection? = some reason
  /-- Each judging that comes to an end gives a verdict. -/
  decides : ∀ step p done, Step.pipeline? step = some p →
    (step.perform c).result = .ok done → done.isDecided = true
  /-- When there is a verdict, another one is not recorded. -/
  closes : c.isDecided = true → ∀ v, c.close v = c
  /-- A verdict stays the same whatever is done later. -/
  stays : c.isDecided = true → ∀ later, (c.after later).isApproved = c.isApproved ∧
    (c.after later).rejection? = c.rejection?
  /-- When there is a verdict, no judging begins: nothing is asked, and the name of the request
  is given back. -/
  refuses : c.isDecided = true → ∀ step p, Step.pipeline? step = some p →
    step.perform c = .fail (.alreadyDecided c.request.id)
  /-- Nor is a stage entered then, and only then. -/
  enters : ∀ p q, q ∈ ((Pipeline.marked p q).run c).lookups ↔ c.isDecided = false

/-- **Cases are steady at all times**, whatever was done with them since they were made. -/
theorem steady_after (id token resource action : String) (steps : List Step) :
    ((ofRequest (.new id token resource action)).after steps).Steady := by
  -- The case began without a verdict, and no step gave it two.
  have hconsistent := (Consistent.ofRequest (.new id token resource action)).after steps
  refine ⟨hconsistent, isDecided_iff, fun _ _ _ => Step.isDecided_of_perform, close_of_decided,
    fun hc later => ?_, fun hc _ _ h => Step.perform_of_decided h hc,
    fun p q => p.mem_lookups_run_marked q _⟩
  obtain ⟨f, hf⟩ := exists_after_eq_modify hc later
  rw [hf]
  exact ⟨rfl, rfl⟩

end Case

end Registrar
