import Mathlib.Data.List.TFAE
import Registrar.Command.Run
import Registrar.Proofs.Access
import Registrar.Proofs.Judging
import Registrar.Proofs.Layers

/-!
# One verdict in every report

The verdict on a request is reported in many words: in the summary for callers and its two forms as
JSON, in the labels under which the event is counted, and by the code with which a process ends.  Of
a request on which there is no verdict they would not agree, but judging always comes to one.

* `RejectionKind.label_ne_approved`, `RejectionKind.status_mem`: a refusal is not mistaken for a
  grant.
* `Case.get?_labels_code`: the code among the labels.
* `Json.dropNulls`, `Decision.dropNulls_toJson`: the two forms of a summary.
* `Surroundings.Calls`, `Surroundings.run_of_calls`: the code with which a process ends.
* `Case.Reported`, `Service.reported_evaluate`: **all reports on a request that was judged agree**;
  `Case.not_reported_ofRequest` says that those on one that was not judged do not.
-/

namespace Registrar

/-! ### Codes and statuses -/

namespace RejectionKind

theorem label_ne_approved (k : RejectionKind) : k.label ≠ "approved" := by
  cases k with
  | invalidPeriod issue => cases issue <;> decide
  | _ => decide

/-- The statuses of refusals. -/
def statuses : List Nat := [401, 403, 404, 409, 422]

theorem status_mem (k : RejectionKind) : k.status ∈ statuses := by
  cases k with
  | invalidPeriod issue => cases issue <;> decide
  | _ => decide

end RejectionKind

namespace Case

/-- **The code among the labels** is the one of the verdict, if there is one. -/
theorem get?_labels_code (pipeline : String) (c : Case) :
    (c.labels pipeline).get? "code" = c.labelCode? := by
  rw [labels]
  cases c.request.role <;> cases c.labelCode? <;> simp [Table.ofList, Table.get?_insert]

end Case

/-! ### Summaries as JSON -/

/-- The value without those of its fields that are null. -/
def Json.dropNulls : Json → Json
  | object fields => object (fields.filter fun field => !field.2.isNull)
  | v => v

/-- **The short form of a summary** is the full one without the fields that are null. -/
theorem Decision.dropNulls_toJson (d : Decision) : d.toJson.dropNulls = d.toShortJson := by
  obtain ⟨id, approved, status, code, message, metadata⟩ := d
  cases code <;> cases message <;> rfl

/-! ### Processes -/

namespace Surroundings

variable {m : Type → Type} [Monad m]

/-- A process is called to have a service judge a request by a pipeline. -/
inductive Calls (s : Surroundings m) (args : List String) :
    Service → PipelineKind → Request → Prop
  /-- The arguments ask for it, and all that they and the configuration name can be read. -/
  | intro {i : Invocation} {q : Inquiry} {c : Configuration} {tables : Tables} {roster : Roster}
      {id : String} {r : Request} {today : Date} :
      Invocation.read args = .ok i → i.command = .evaluate q →
      s.configuration i.config = pure c →
      (!i.debug && (LogLevel.read? ((i.logLevel <|> c.logLevel).getD "warn")).isNone) = false →
      s.policy c = pure tables → s.roster c = pure roster →
      q.requestId = some id ∨ q.requestId = none ∧ s.freshId = pure id →
      q.requestNamed id = .ok r →
      q.today = some today ∨ q.today = none ∧ s.today = pure today →
      Calls s args ⟨tables, roster.records, today⟩ q.pipeline r

theorem liftM_mapError_ok {ε α : Type} (f : ε → String) (a : α) :
    (liftM ((.ok a : Except ε α).mapError f) : ExceptT String m α) = pure a := rfl

variable [LawfulMonad m] {s : Surroundings m} {args : List String} {service : Service}
  {kind : PipelineKind} {r : Request} {done : Case}

theorem run_of_perform {i : Invocation} {answer : Answer} (hread : Invocation.read args = .ok i)
    (hperform : s.perform i = pure answer) : s.run args = pure answer := by
  rw [run, hread]
  dsimp only
  rw [hperform]
  exact pure_bind ..

/-- **A process that has a request judged** ends with the code of the verdict. -/
theorem run_of_calls (h : s.Calls args service kind r)
    (hdone : (service.evaluate kind (.ofRequest r)).result = .ok done) :
    ∃ output, s.run args = pure ⟨(Decision.ofCase done).exitCode, output, none⟩ := by
  cases h with
  | @intro i q c tables roster id r today hread hcommand hconfiguration hlevel hpolicy hroster hid
      hrequest htoday =>
    let d := Decision.ofCase done
    let output := if q.json then d.jsonReport else d.report q.pipeline
    have hevaluate : s.evaluate c q = pure ⟨d.exitCode, output, none⟩ := by
      rw [evaluate, hpolicy, pure_bind, hroster, pure_bind]
      -- The name of the request and the day are given, or they are taken from the surroundings.
      rcases hid with hid | ⟨hid, hfresh⟩ <;> rcases htoday with htoday | ⟨htoday, hday⟩
      all_goals
        simp only [*, liftM_pure, pure_bind, liftM_mapError_ok]
        rfl
    have hperform : s.perform i = pure ⟨d.exitCode, output, none⟩ := by
      rw [perform, hconfiguration, pure_bind, hcommand]
      dsimp only
      rw [hlevel]
      exact hevaluate
    exact ⟨output, run_of_perform hread hperform⟩

end Surroundings

/-! ### All reports -/

/-- All reports on a case agree. -/
structure Case.Reported (kind : PipelineKind) (done : Case) : Prop where
  /-- It is granted in all of them or in none. -/
  granted : List.TFAE [
    done.isApproved = true,
    (Decision.ofCase done).approved = true,
    (Decision.ofCase done).status = 200,
    (Decision.ofCase done).code = none,
    (Decision.ofCase done).message = none,
    (done.labels kind.name).get? "code" = some "approved",
    (Decision.ofCase done).exitCode = 0]
  /-- If it is not granted, they all tell why. -/
  refused : done.isApproved = false → ∃ reason, done.rejection? = some reason ∧
    (Decision.ofCase done).status ∈ RejectionKind.statuses ∧
    (Decision.ofCase done).code = some reason.kind.label ∧
    (done.labels kind.name).get? "code" = some reason.kind.label ∧
    (Decision.ofCase done).message = some reason.message ∧
    (Decision.ofCase done).exitCode = 2
  /-- The short form of the summary is the full one without the fields that are null. -/
  short : (Decision.ofCase done).toJson.dropNulls = (Decision.ofCase done).toShortJson

/-- **Where there is a verdict, all reports agree.** -/
theorem Case.reported_of_verdict (kind : PipelineKind) {done : Case} {v : Verdict}
    (h : done.verdict = some v) : done.Reported kind := by
  obtain ⟨r, approved, reason⟩ := done
  obtain ⟨rfl, rfl⟩ := verdict_eq_some_iff.1 h
  cases v with
  | approved =>
    refine ⟨List.tfae_of_forall True _ ?_, nofun, Decision.dropNulls_toJson _⟩
    simp [Verdict.reason?, Decision.ofCase, Decision.exitCode, get?_labels_code, labelCode?]
  | rejected reason =>
    have hstatus : reason.kind.status ≠ 200 := fun heq => by
      have hmem := reason.kind.status_mem
      rw [heq] at hmem
      exact absurd hmem (by decide)
    refine ⟨List.tfae_of_forall False _ ?_, fun _ => ⟨reason, rfl, ?_⟩, Decision.dropNulls_toJson _⟩
    · simp [Verdict.reason?, Decision.ofCase, Decision.exitCode, get?_labels_code, labelCode?,
        hstatus, reason.kind.label_ne_approved]
    · refine ⟨reason.kind.status_mem, rfl, ?_, rfl, rfl⟩
      rw [get?_labels_code]
      rfl

/-- Of a request that was not judged the status says that it is granted, and its other reports say
that it is not. -/
theorem Case.not_reported_ofRequest (kind : PipelineKind) (r : Request) :
    ¬ (ofRequest r).Reported kind := by
  intro h
  have happroved : (ofRequest r).isApproved = true := (h.granted.out 0 2).2 rfl
  cases happroved

/-- **All reports on a request that was judged agree**, and so does a process that was called to
have it judged. -/
theorem Service.reported_evaluate {s : Service} {kind : PipelineKind} {r : Request} {done : Case}
    (h : (s.evaluate kind (.ofRequest r)).result = .ok done) :
    done.Reported kind ∧
      ∀ (process : Surroundings Id) (args : List String), process.Calls args s kind r →
        (process.run args).exitCode = (Decision.ofCase done).exitCode := by
  obtain ⟨-, v, -, hv⟩ := (Pipeline.result_run_eq_ok _).1 h
  refine ⟨Case.reported_of_verdict kind hv, fun process args hcalls => ?_⟩
  obtain ⟨output, hrun⟩ := Surroundings.run_of_calls hcalls h
  rw [hrun]
  rfl

/-- A process with nothing around it. -/
def Surroundings.bare : Surroundings Id where
  read _ := .absent
  configFolder := none
  environment := []
  today := Service.small.today
  freshId := "request-1"

/-- A call with a token that is nobody's. -/
def strayCall : List String :=
  ["evaluate", "--token", "tok-ana", "-r", "course.list", "--action=list", "--json"]

/-- The request of that call. -/
def strayRequest : Request := .new "request-1" "tok-ana" "course.list" "list"

/-- The service that judges it. -/
def Service.bare : Service where
  tables := .initial
  records := Roster.empty.records
  today := Service.small.today

theorem Surroundings.policy_bare : bare.policy .blank = pure .initial := by
  have hvariables : environmentChanges [] = .ok [] := by
    have hlist : Setting.list [] = [] := List.mergeSort_nil
    rw [environmentChanges, hlist]
    rfl
  have hload : Tables.load [] (some []) = .ok .initial := by
    refine bind_eq_ok_iff.2 ⟨[], rfl, bind_eq_ok_iff.2 ⟨[], hvariables, pure_eq_ok_iff.2 ?_⟩⟩
    rw [Tables.applyAll, Tables.applyAll, List.flatten_nil, List.foldl_nil, List.foldl_nil]
  have hpaths : Configuration.blank.policyPaths = [] := rfl
  have henvironment : bare.environment = [] := rfl
  rw [policy, hpaths, List.mapM_nil, pure_bind, henvironment, hload]

theorem Surroundings.calls_strayCall :
    bare.Calls strayCall .bare .general strayRequest := by
  have hread : Invocation.read strayCall = .ok ⟨none, none, false,
      .evaluate ⟨.general, "tok-ana", "course.list", "list", none, [], none, none, true⟩⟩ := by
    decide +kernel
  have hconfiguration : bare.configuration none = pure .blank := rfl
  have hroster : bare.roster .blank = pure .empty := rfl
  exact .intro hread rfl hconfiguration (by decide) policy_bare hroster (.inr ⟨rfl, rfl⟩) rfl
    (.inr ⟨rfl, rfl⟩)

/-- The call is refused in all reports. -/
theorem Service.reported_strayCall :
    ∃ done, (bare.evaluate .general (.ofRequest strayRequest)).result = .ok done ∧
      done.Reported .general ∧ (Decision.ofCase done).status = 401 ∧
      (Surroundings.bare.run strayCall).exitCode = 2 := by
  let done : Case := ⟨strayRequest, false,
    some ⟨.invalidToken, "token does not resolve to a known subject"⟩⟩
  have hdone : (bare.evaluate .general (.ofRequest strayRequest)).result = .ok done := by
    rfl
  obtain ⟨hreported, hexit⟩ := reported_evaluate hdone
  refine ⟨done, hdone, hreported, rfl, ?_⟩
  rw [hexit Surroundings.bare strayCall Surroundings.calls_strayCall]
  rfl

end Registrar
