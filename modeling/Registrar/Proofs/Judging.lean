import Registrar.Pipeline
import Registrar.Proofs.Consult

/-!
# How stages come to a verdict

`Judgement` is the meaning of a row of stages as a relation: each stage is handed what the one
before it gave back, until one of them grants or refuses.

* `judgement_iff`: `Pipeline.judge` has a result exactly when there is a judgement, and the same
  one.
* `Pipeline.mem_lookups_judge_cons`, `Pipeline.lookups_judge_cons_isPrefix`: which questions a row
  of stages asks, and in which order.
* `Pipeline.run_of_decided`, `Pipeline.result_run_eq_ok`: what a pipeline makes of a case.
* `Pipeline.candid_judge`: stages that are candid about outages make a candid row.
-/

namespace Registrar

/-- The stages, one after the other, bring the first request to a verdict, and the second one is
what they made of it. -/
inductive Judgement : List Stage → Request → Request → Verdict → Prop
  /-- A request that passes all stages is granted. -/
  | passed (r : Request) : Judgement [] r r .approved
  /-- A stage lets the request go on to the others. -/
  | proceed {s : Stage} {ss : List Stage} {r r₁ r₂ : Request} {v : Verdict} :
      (s.handle r).result = .ok ⟨r₁, .proceed⟩ → Judgement ss r₁ r₂ v → Judgement (s :: ss) r r₂ v
  /-- A stage grants the request. -/
  | approve {s : Stage} {ss : List Stage} {r r₁ : Request} :
      (s.handle r).result = .ok ⟨r₁, .approve⟩ → Judgement (s :: ss) r r₁ .approved
  /-- A stage refuses the request. -/
  | reject {s : Stage} {ss : List Stage} {r r₁ : Request} {reason : Rejection} :
      (s.handle r).result = .ok ⟨r₁, .reject reason⟩ → Judgement (s :: ss) r r₁ (.rejected reason)

/-- **The stages have a result exactly when there is a judgement.** -/
theorem judgement_iff {ss : List Stage} {r r' : Request} {v : Verdict} :
    Judgement ss r r' v ↔ (Pipeline.judge ss r).result = .ok (r', v) := by
  constructor
  · intro h
    induction h with
    | passed r => rfl
    | proceed h _ ih => exact Consult.result_bind_eq_ok.2 ⟨_, h, ih⟩
    | approve h => exact Consult.result_bind_eq_ok.2 ⟨_, h, rfl⟩
    | reject h => exact Consult.result_bind_eq_ok.2 ⟨_, h, rfl⟩
  · intro h
    induction ss generalizing r with
    | nil =>
      obtain ⟨rfl, rfl⟩ : r = r' ∧ Verdict.approved = v := by simpa [Pipeline.judge] using h
      exact .passed r
    | cons s ss ih =>
      obtain ⟨⟨r₁, outcome⟩, hs, h⟩ := Consult.result_bind_eq_ok.1 h
      cases outcome with
      | proceed => exact .proceed hs (ih h)
      | approve =>
        obtain ⟨rfl, rfl⟩ : r₁ = r' ∧ Verdict.approved = v := by simpa using h
        exact .approve hs
      | reject reason =>
        obtain ⟨rfl, rfl⟩ : r₁ = r' ∧ Verdict.rejected reason = v := by simpa using h
        exact .reject hs

namespace Pipeline

/-! ### What a row of stages asks -/

section Row

variable {s : Stage} {ss : List Stage} {r r₁ : Request} {q : Lookup}

theorem lookups_judge_of_proceed (h : (s.handle r).result = .ok ⟨r₁, .proceed⟩) :
    (judge (s :: ss) r).lookups = (s.handle r).lookups ++ (judge ss r₁).lookups := by
  rw [judge, Consult.bind_of_ok _ h]

theorem lookups_judge_of_not_proceed (h : ∀ r₁, (s.handle r).result ≠ .ok ⟨r₁, .proceed⟩) :
    (judge (s :: ss) r).lookups = (s.handle r).lookups := by
  rw [judge]
  cases hr : (s.handle r).result with
  | error e => rw [Consult.bind_of_error _ hr]
  | ok reply =>
    obtain ⟨r₁, outcome⟩ := reply
    cases outcome with
    | proceed => exact absurd hr (h r₁)
    | approve => simp [Consult.bind_of_ok _ hr]
    | reject reason => simp [Consult.bind_of_ok _ hr]

/-- A question is asked by the first stage, or by the others if the first one lets the request go
on to them. -/
theorem mem_lookups_judge_cons :
    q ∈ (judge (s :: ss) r).lookups ↔ q ∈ (s.handle r).lookups ∨
      ∃ r₁, (s.handle r).result = .ok ⟨r₁, .proceed⟩ ∧ q ∈ (judge ss r₁).lookups := by
  by_cases h : ∃ r₁, (s.handle r).result = .ok ⟨r₁, .proceed⟩
  · obtain ⟨r₁, h⟩ := h
    simp [lookups_judge_of_proceed h, h]
  · rw [lookups_judge_of_not_proceed (not_exists.1 h)]
    exact ⟨.inl, fun hq => hq.resolve_right fun ⟨r₁, hr, _⟩ => h ⟨r₁, hr⟩⟩

theorem lookups_judge_singleton : (judge [s] r).lookups = (s.handle r).lookups := by
  rw [judge, Consult.lookups_bind_of_silent]
  rintro ⟨r₁, outcome⟩
  cases outcome <;> rfl

theorem lookups_judge_cons_isPrefix {l l' : List Lookup} (hs : (s.handle r).lookups <+: l)
    (hss : ∀ r₁, (s.handle r).result = .ok ⟨r₁, .proceed⟩ →
      (s.handle r).lookups = l ∧ (judge ss r₁).lookups <+: l') :
    (judge (s :: ss) r).lookups <+: l ++ l' := by
  by_cases h : ∃ r₁, (s.handle r).result = .ok ⟨r₁, .proceed⟩
  · obtain ⟨r₁, h⟩ := h
    obtain ⟨hl, hl'⟩ := hss r₁ h
    rw [lookups_judge_of_proceed h, hl]
    exact List.prefix_append_right_inj l |>.2 hl'
  · rw [lookups_judge_of_not_proceed (not_exists.1 h)]
    exact hs.trans (List.prefix_append l l')

theorem lookups_judge_of_silent (h : ∀ s ∈ ss, ∀ r, (s.handle r).lookups = []) (r : Request) :
    (judge ss r).lookups = [] := by
  induction ss generalizing r with
  | nil => rfl
  | cons s ss ih =>
    rw [judge, Consult.lookups_bind_of_silent, h s List.mem_cons_self]
    rintro ⟨r₁, outcome⟩
    cases outcome with
    | proceed => exact ih (fun t ht => h t (List.mem_cons_of_mem _ ht)) r₁
    | approve => rfl
    | reject reason => rfl

end Row

/-! ### What a pipeline makes of a case -/

variable (p : Pipeline) {c : Case}

/-- A case on which there is a verdict is not judged, whatever the stages are. -/
theorem run_of_decided (h : c.isDecided = true) :
    p.run c = .fail (.alreadyDecided c.request.id) := by
  rw [run, if_pos h]

/-- When a case is judged its request is changed, and then a verdict is given. -/
theorem exists_close_of_run {done : Case} (h : (p.run c).result = .ok done) :
    ∃ f v, done = (c.modify f).close v := by
  rw [run] at h
  split at h
  · cases h
  · obtain ⟨⟨r, v⟩, -, hd⟩ := Consult.result_bind_eq_ok.1 h
    exact ⟨fun _ => r, v, (Except.ok.inj hd).symm⟩

theorem run_of_undecided (h : c.isDecided = false) :
    p.run c = (judge p.stages c.request).mapError .interrupted >>= fun (r, v) =>
      return (Case.ofRequest r).close v := by
  obtain ⟨r₀, rfl⟩ := Case.exists_eq_ofRequest h
  rfl

theorem lookups_run (h : c.isDecided = false) :
    (p.run c).lookups = (judge p.stages c.request).lookups := by
  rw [run_of_undecided p h]
  cases hr : ((judge p.stages c.request).mapError RunError.interrupted).result with
  | ok a => simp [Consult.bind_of_ok _ hr]
  | error e => simp [Consult.bind_of_error _ hr]

/-- A pipeline brings a case to a verdict exactly when there is none on it yet and its stages
come to one. -/
theorem result_run_eq_ok {done : Case} :
    (p.run c).result = .ok done ↔ c.isDecided = false ∧
      ∃ v, Judgement p.stages c.request done.request v ∧ done.verdict = some v := by
  cases h : c.isDecided with
  | true => simp [run_of_decided p h]
  | false =>
    obtain ⟨r₀, rfl⟩ := Case.exists_eq_ofRequest h
    simp only [run_of_undecided p h, Consult.result_bind_eq_ok, Consult.result_mapError_eq_ok,
      true_and, judgement_iff]
    constructor
    · rintro ⟨⟨r, v⟩, hj, hd⟩
      obtain rfl : (Case.ofRequest r).close v = done := Except.ok.inj hd
      exact ⟨v, by rwa [Case.request_close], Case.verdict_close rfl v⟩
    · rintro ⟨v, hj, hv⟩
      exact ⟨(done.request, v), hj, congrArg Except.ok (Case.close_ofRequest_of_verdict hv)⟩

/-- A pipeline brings a case without a verdict to none exactly when its stages are interrupted,
and it reports that. -/
theorem result_run_eq_error {e : RunError} (h : c.isDecided = false) :
    (p.run c).result = .error e ↔
      ∃ cause, (judge p.stages c.request).result = .error cause ∧ .interrupted cause = e := by
  simp only [run_of_undecided p h, Consult.result_bind_eq_error, Consult.result_mapError_eq_error,
    Consult.result_pure, reduceCtorEq, and_false, exists_false, or_false]

/-! ### Outages -/

variable {records : Records}

/-- **A row of candid stages is candid.** -/
theorem candid_judge {ss : List Stage} (h : ∀ s ∈ ss, ∀ r, (s.handle r).Candid records)
    (r : Request) : (judge ss r).Candid records := by
  induction ss generalizing r with
  | nil => exact .pure records _
  | cons s ss ih =>
    refine (h s List.mem_cons_self r).bind fun ⟨r₁, outcome⟩ => ?_
    cases outcome with
    | proceed => exact ih (fun t ht => h t (List.mem_cons_of_mem _ ht)) r₁
    | approve => exact .pure records _
    | reject reason => exact .pure records _

/-- A pipeline of candid stages brings a case to a verdict when all its questions are
answered. -/
theorem exists_result_run (h : ∀ s ∈ p.stages, ∀ r, (s.handle r).Candid records)
    (hc : c.isDecided = false) (ha : ∀ q ∈ (p.run c).lookups, records.outage? q = none) :
    ∃ done, (p.run c).result = .ok done := by
  rw [lookups_run p hc] at ha
  obtain ⟨⟨r, v⟩, hr⟩ := (candid_judge h c.request).exists_result ha
  refine ⟨(Case.ofRequest r).close v, (result_run_eq_ok p).2 ⟨hc, v, ?_, Case.verdict_close rfl v⟩⟩
  rw [Case.request_close]
  exact judgement_iff.2 hr

end Pipeline

end Registrar
