import Registrar.Proofs.Access

/-!
# Outages while a case is judged

Three stages ask the records: the first one of every pipeline and the two that look at
enrollments.  None of them hides an outage or makes one up, and so no pipeline does
(`Service.candid`).

* `Consult.Forthright`: a judging is interrupted exactly when a question was not answered, and it
  reports that question's outage; otherwise it comes to a verdict.
* `Service.forthright_evaluate`: **every judging is forthright**, so that an outage never passes
  for a verdict.
-/

namespace Registrar

namespace Stage

variable {records : Records} (r : Request)

theorem candid_ofReply (name : String) (reply : Request → Reply) :
    ((ofReply name reply).handle r).Candid records :=
  .pure records _

theorem candid_identity : ((identity records).handle r).Candid records := by
  unfold identity
  dsimp only
  split
  · exact .pure records _
  · refine (Consult.Candid.ask rfl rfl).bind fun answer => ?_
    split
    · exact .pure records _
    · exact .pure records _

theorem candid_schedule (today : Date) : ((schedule records today).handle r).Candid records := by
  unfold schedule
  dsimp only
  split
  · split
    · exact (Consult.Candid.ask rfl rfl).bind fun _ => .pure records _
    · exact .pure records _
  · exact .pure records _

theorem candid_seatCapacity (tables : Tables) :
    ((seatCapacity tables records).handle r).Candid records := by
  unfold seatCapacity
  dsimp only
  split
  · split
    · exact .pure records _
    · refine (Consult.Candid.ask rfl rfl).bind fun answer => ?_
      split
      · exact .pure records _
      · exact (Consult.Candid.ask rfl rfl).bind fun _ => .pure records _
  · exact .pure records _

end Stage

/-- **Every stage of every pipeline is candid about outages.** -/
theorem Service.candid (s : Service) (kind : PipelineKind) :
    ∀ stage ∈ (s.pipeline kind).stages, ∀ r, (stage.handle r).Candid s.records := by
  rw [stages_eq, List.forall_mem_cons]
  refine ⟨fun r => Stage.candid_identity r, ?_⟩
  -- Of the others, the two that look at enrollments ask something; the rest only reply.
  refine s.forall_others kind ?_ ?_ (fun r => Stage.candid_schedule r s.today)
    (fun r => Stage.candid_seatCapacity r s.tables) ?_ ?_ ?_ ?_
  all_goals intros
  all_goals exact Stage.candid_ofReply _ ..

/-! ### How a judging ends -/

/-- The end of a judging tells whether the records answered. -/
structure Consult.Forthright (records : Records) (x : Consult RunError Case) : Prop where
  /-- It is interrupted exactly when one of the questions was not answered. -/
  interrupted_iff : (∃ cause, x.result = .error (.interrupted cause)) ↔
    ∃ q ∈ x.lookups, ∃ outage, records.outage? q = some outage
  /-- If it comes to no verdict, then the last question alone was not answered.  Its outage is
  reported under the name of the stage that asked, and the same may go well another time. -/
  reported : ∀ e, x.result = .error e → ∃ asked q outage, x.lookups = asked ++ [q] ∧
    (∀ p ∈ asked, records.outage? p = none) ∧ records.outage? q = some outage ∧
      e = .interrupted ⟨q.stage, outage⟩ ∧ e.retryable = true
  /-- If all questions were answered, then it comes to a verdict. -/
  decided : (∀ q ∈ x.lookups, records.outage? q = none) →
    ∃ done, x.result = .ok done ∧ done.isDecided = true

/-- A pipeline of candid stages is forthright about every case on which there is no verdict. -/
theorem Pipeline.forthright_run (p : Pipeline) {records : Records} {c : Case}
    (hcandid : ∀ s ∈ p.stages, ∀ r, (s.handle r).Candid records) (hc : c.isDecided = false) :
    (p.run c).Forthright records := by
  have hj := candid_judge hcandid c.request
  have hlookups := p.lookups_run hc
  have reported : ∀ e, (p.run c).result = .error e → ∃ asked q outage,
      (p.run c).lookups = asked ++ [q] ∧ (∀ p ∈ asked, records.outage? p = none) ∧
        records.outage? q = some outage ∧ e = .interrupted ⟨q.stage, outage⟩ ∧
          e.retryable = true := by
    intro e he
    obtain ⟨⟨stage, outage⟩, hcause, rfl⟩ := (p.result_run_eq_error hc).1 he
    obtain ⟨asked, q, hl, ha, hq, rfl⟩ := hj.broken _ hcause
    exact ⟨asked, q, outage, hlookups.trans hl, ha, hq, rfl, rfl⟩
  refine ⟨⟨?_, ?_⟩, reported, fun ha => ?_⟩
  · rintro ⟨cause, hcause⟩
    obtain ⟨asked, q, outage, hl, -, hq, -, -⟩ := reported _ hcause
    exact ⟨q, by simp [hl], outage, hq⟩
  · rintro ⟨q, hmem, outage, hq⟩
    cases hr : (p.run c).result with
    | ok done =>
      obtain ⟨-, v, hv, -⟩ := p.result_run_eq_ok.1 hr
      have hnone := hj.answered _ (judgement_iff.1 hv) q (hlookups ▸ hmem)
      rw [hq] at hnone
      cases hnone
    | error e =>
      obtain ⟨_, q', outage', -, -, -, rfl, -⟩ := reported e hr
      exact ⟨_, rfl⟩
  · obtain ⟨done, hd⟩ := p.exists_result_run hcandid hc ha
    obtain ⟨-, v, -, hv⟩ := p.result_run_eq_ok.1 hd
    exact ⟨done, hd, Case.isDecided_of_verdict hv⟩

namespace Service

/-- **Every judging is forthright about outages**: it is interrupted exactly when a question that
it asked was not answered, it ends there and reports that outage, and otherwise it comes to a
verdict.  So an outage is never taken for a refusal, for leave, for an unknown subject or course,
or for a count of zero. -/
theorem forthright_evaluate (s : Service) (kind : PipelineKind) (c : Case)
    (hc : c.isDecided = false) : (s.evaluate kind c).Forthright s.records :=
  (s.pipeline kind).forthright_run (s.candid kind) hc

/-- The small campus on a day on which nobody can count seats. -/
def smallOutage : Service :=
  { small with records := { small.records with enrollment := fun _ => .error (.backend "seats") } }

/-- A student of the small campus who enrolls on that day is neither admitted nor refused. -/
theorem forthright_evaluate_smallOutage :
    let c := Case.ofRequest (.new "r1" "student" "course/12/enroll" "enroll")
    c.isDecided = false ∧ (smallOutage.evaluate .general c).Forthright smallOutage.records ∧
      (smallOutage.evaluate .general c).lookups =
        [.subject "student", .period 12, .modality 12, .enrollment 12] ∧
      ∃ cause, (smallOutage.evaluate .general c).result = .error (.interrupted cause) := by
  intro c
  have hf := forthright_evaluate smallOutage .general c rfl
  have hl : (smallOutage.evaluate .general c).lookups =
      [.subject "student", .period 12, .modality 12, .enrollment 12] := by
    decide +kernel
  refine ⟨rfl, hf, hl, hf.interrupted_iff.2 ⟨.enrollment 12, ?_, .backend "seats", rfl⟩⟩
  simp [hl]

end Service

end Registrar
