import Registrar.Proofs.Judging

/-!
# Requirements

What a pipeline decides is said as a list of requirements.  Each of them is a condition on the
request, with the kind of the refusal when the condition does not hold.

* `FirstUnmet`: the kind of the first requirement that is not met.
* `Case.DecidedBy`: a case is granted exactly when all requirements are met, and otherwise
  refused with the kind of the first one that is not.
* `Stage.Enforces`: what one stage does for some of the requirements.
* `Judgement.settles_cons`: the requirements of a row of stages are those of its first stage,
  followed by those of the others.
* `Pipeline.decidedBy_of_settles`: a pipeline whose verdicts settle the requirements decides
  cases by them.
-/

namespace Registrar

/-- A condition that a request must meet. -/
structure Requirement where
  /-- The kind of the refusal when the condition does not hold. -/
  kind : RejectionKind
  /-- The condition. -/
  met : Prop

/-- The first of the requirements that is not met has the given kind. -/
inductive FirstUnmet : List Requirement → RejectionKind → Prop
  /-- It is the first one. -/
  | head {q : Requirement} {qs : List Requirement} : ¬ q.met → FirstUnmet (q :: qs) q.kind
  /-- It is one of the others. -/
  | tail {q : Requirement} {qs : List Requirement} {kind : RejectionKind} :
      q.met → FirstUnmet qs kind → FirstUnmet (q :: qs) kind

namespace FirstUnmet

variable {qs ps : List Requirement} {kind kind' : RejectionKind}

theorem exists_not_met (h : FirstUnmet qs kind) : ∃ q ∈ qs, ¬ q.met ∧ q.kind = kind := by
  induction h with
  | head hq => exact ⟨_, List.mem_cons_self, hq, rfl⟩
  | tail _ _ ih =>
    obtain ⟨q, hq, hn⟩ := ih
    exact ⟨q, List.mem_cons_of_mem _ hq, hn⟩

theorem unique (h : FirstUnmet qs kind) (h' : FirstUnmet qs kind') : kind = kind' := by
  induction h with
  | head hq =>
    cases h' with
    | head => rfl
    | tail hq' => exact absurd hq' hq
  | tail hq _ ih =>
    cases h' with
    | head hq' => exact absurd hq hq'
    | tail _ h' => exact ih h'

theorem append (h : FirstUnmet qs kind) (ps : List Requirement) : FirstUnmet (qs ++ ps) kind := by
  induction h with
  | head hq => exact .head hq
  | tail hq _ ih => exact .tail hq ih

theorem of_append (hq : ∀ q ∈ qs, q.met) (h : FirstUnmet ps kind) :
    FirstUnmet (qs ++ ps) kind := by
  induction qs with
  | nil => exact h
  | cons q qs ih =>
    exact .tail (hq q List.mem_cons_self) (ih fun p hp => hq p (List.mem_cons_of_mem _ hp))

/-- A requirement that is not met while all others are is the first one that is not. -/
theorem of_forall_ne {q : Requirement} (hq : q ∈ qs) (hn : ¬ q.met)
    (h : ∀ p ∈ qs, p ≠ q → p.met) : FirstUnmet qs q.kind := by
  induction qs with
  | nil => cases hq
  | cons p ps ih =>
    by_cases hpq : p = q
    · subst hpq
      exact .head hn
    · have hmem : q ∈ ps := (List.mem_cons.1 hq).resolve_left (Ne.symm hpq)
      exact .tail (h p List.mem_cons_self hpq)
        (ih hmem fun p' hp' => h p' (List.mem_cons_of_mem _ hp'))

end FirstUnmet

/-! ### Verdicts by requirements -/

/-- The verdict is the one that the requirements call for. -/
def Verdict.Settles (qs : List Requirement) : Verdict → Prop
  | approved => ∀ q ∈ qs, q.met
  | rejected reason => FirstUnmet qs reason.kind

/-- The case is decided by the requirements. -/
structure Case.DecidedBy (c : Case) (qs : List Requirement) : Prop where
  /-- It is granted exactly when all of them are met. -/
  approved_iff : c.isApproved = true ↔ ∀ q ∈ qs, q.met
  /-- It is refused with the kind of the first one that is not met. -/
  kind_iff : ∀ kind, c.rejection?.map (·.kind) = some kind ↔ FirstUnmet qs kind

theorem Verdict.Settles.decidedBy {v : Verdict} {c : Case} {qs : List Requirement}
    (h : v.Settles qs) (hv : c.verdict = some v) : c.DecidedBy qs := by
  cases v with
  | approved =>
    refine ⟨⟨fun _ => h, fun _ => Case.isApproved_of_verdict hv⟩, fun kind => ?_⟩
    simp only [Case.rejection?_of_verdict hv, Verdict.reason?, Option.map_none, reduceCtorEq,
      false_iff]
    intro hk
    obtain ⟨q, hq, hn, -⟩ := hk.exists_not_met
    exact hn (h q hq)
  | rejected reason =>
    refine ⟨?_, fun kind => ?_⟩
    · obtain ⟨q, hq, hn, -⟩ := FirstUnmet.exists_not_met h
      simp only [Case.isApproved_of_verdict hv, reduceCtorEq, decide_false, Bool.false_eq_true,
        false_iff]
      exact fun hall => hn (hall q hq)
    · simp only [Case.rejection?_of_verdict hv, Verdict.reason?, Option.map_some,
        Option.some.injEq]
      exact ⟨fun hk => hk ▸ h, fun hk => FirstUnmet.unique h hk⟩

/-! ### What a stage enforces -/

/-- The reply is a refusal for the first requirement that is not met, or, when all are met, lets
the request go on as described. -/
inductive Reply.Enforces (qs : List Requirement) (goesOn : Request → Prop) : Reply → Prop
  /-- The requirements are met. -/
  | proceed {r : Request} : (∀ q ∈ qs, q.met) → goesOn r → Enforces qs goesOn ⟨r, .proceed⟩
  /-- One of them is not. -/
  | reject {r : Request} {reason : Rejection} :
      FirstUnmet qs reason.kind → Enforces qs goesOn ⟨r, .reject reason⟩

namespace Reply.Enforces

variable {qs : List Requirement} {goesOn : Request → Prop} {reply : Reply} {r₁ : Request}

theorem met (h : (⟨r₁, .proceed⟩ : Reply).Enforces qs goesOn) : ∀ q ∈ qs, q.met := by
  cases h with
  | proceed hq _ => exact hq

theorem goesOn_request (h : (⟨r₁, .proceed⟩ : Reply).Enforces qs goesOn) : goesOn r₁ := by
  cases h with
  | proceed _ hr => exact hr

theorem exists_proceed (h : reply.Enforces qs goesOn) (hq : ∀ q ∈ qs, q.met) :
    ∃ r₁, reply = ⟨r₁, .proceed⟩ ∧ goesOn r₁ := by
  cases h with
  | proceed _ hr => exact ⟨_, rfl, hr⟩
  | reject hu =>
    obtain ⟨q, hmem, hn, -⟩ := hu.exists_not_met
    exact absurd (hq q hmem) hn

end Reply.Enforces

/-- At a request, the stage refuses for the first requirement that is not met, and lets the
request go on as described when all are met.  It never grants. -/
def Stage.Enforces (s : Stage) (r : Request) (qs : List Requirement) (goesOn : Request → Prop) :
    Prop :=
  ∀ reply, (s.handle r).result = .ok reply → reply.Enforces qs goesOn

theorem Stage.enforces_ofReply {name : String} {reply : Request → Reply} {r : Request}
    {qs : List Requirement} {goesOn : Request → Prop} (h : (reply r).Enforces qs goesOn) :
    (Stage.ofReply name reply).Enforces r qs goesOn := by
  intro reply' hr
  obtain rfl : reply r = reply' := by simpa [Stage.ofReply] using hr
  exact h

namespace Judgement

variable {s : Stage} {ss : List Stage} {r r' : Request} {v : Verdict}
  {qs rest : List Requirement} {goesOn : Request → Prop}

/-- **The requirements of a row of stages** are those of its first stage, followed by those of the
others. -/
theorem settles_cons (h : Judgement (s :: ss) r r' v) (hs : s.Enforces r qs goesOn)
    (hss : ∀ r₁, goesOn r₁ → Judgement ss r₁ r' v → v.Settles rest) :
    v.Settles (qs ++ rest) := by
  cases h with
  | proceed h₁ h₂ =>
    cases hs _ h₁ with
    | proceed hq hr =>
    have hrest := hss _ hr h₂
    cases v with
    | approved =>
      intro q hmem
      rcases List.mem_append.1 hmem with hmem | hmem
      · exact hq q hmem
      · exact hrest q hmem
    | rejected reason => exact .of_append hq hrest
  | approve h₁ => cases hs _ h₁
  | reject h₁ =>
    cases hs _ h₁ with
    | reject hq => exact hq.append rest

theorem settles_nil (h : Judgement [] r r' v) : v.Settles [] := by
  cases h
  simp [Verdict.Settles]

/-- A request that was granted met the requirements of the first stage and went on. -/
theorem approved_cons (h : Judgement (s :: ss) r r' .approved) (hs : s.Enforces r qs goesOn) :
    ∃ r₁, goesOn r₁ ∧ (∀ q ∈ qs, q.met) ∧ Judgement ss r₁ r' .approved := by
  cases h with
  | proceed h₁ h₂ =>
    cases hs _ h₁ with
    | proceed hq hr => exact ⟨_, hr, hq, h₂⟩
  | approve h₁ => cases hs _ h₁

end Judgement

/-- **A pipeline decides by requirements** when its stages are candid and each of their verdicts
settles the requirements: while all its questions are answered, it decides every case on which
there is no verdict. -/
theorem Pipeline.decidedBy_of_settles (p : Pipeline) {records : Records} {c : Case}
    {qs : List Requirement} (hcandid : ∀ s ∈ p.stages, ∀ r, (s.handle r).Candid records)
    (hsettles : ∀ r' v, Judgement p.stages c.request r' v → v.Settles qs)
    (hc : c.isDecided = false) (ha : ∀ q ∈ (p.run c).lookups, records.outage? q = none) :
    ∃ done, (p.run c).result = .ok done ∧ done.DecidedBy qs := by
  obtain ⟨done, hd⟩ := p.exists_result_run hcandid hc ha
  obtain ⟨-, v, hj, hv⟩ := (p.result_run_eq_ok).1 hd
  exact ⟨done, hd, (hsettles _ v hj).decidedBy hv⟩

end Registrar
