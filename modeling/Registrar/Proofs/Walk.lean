import Registrar.Proofs.Judging

/-!
# The walk through a pipeline

A pipeline walks through its stages.  Each stage is handed the request that the one before it gave
back, and the walk ends at the first stage that does not let the request go on, or after the last
one.

* `Visit`: a stage with the request that it is handed; `Visit.outcome` is what the pipeline comes to
  when the walk ends there.
* `Walk`: the visits of a walk, in order, and the last of them; `Walk.append` puts two walks
  together.
* `Pipeline.handOn?`: what a row of stages hands on, if all of them let the request go on.
* `Walk.run_eq`: a pipeline asks what is asked on its walk, and comes to the outcome of the last
  visit.
* `Pipeline.run_build`: **what a pipeline does is what happens on its walk**, so that stages behind
  the end of the walk play no part, and two rows of stages, one behind the other, are two walks.
-/

namespace Registrar

/-- A stage, and the request that it is handed. -/
structure Visit where
  /-- The stage. -/
  stage : Stage
  /-- The request. -/
  request : Request

namespace Visit

/-- What the stage makes of the request. -/
def reply (v : Visit) : Consult Interruption Reply := v.stage.handle v.request

/-- The request that is handed on to the next stage, if the stage lets it go on. -/
def handsOn? (v : Visit) : Option Request :=
  match v.reply.result with
  | .ok ⟨r, .proceed⟩ => some r
  | _ => none

/-- What the pipeline comes to when no stage is visited after this one. -/
def outcome (v : Visit) : Except RunError Case :=
  match v.reply.result with
  | .ok ⟨r, .proceed⟩ => .ok ⟨r, true, none⟩
  | .ok ⟨r, .approve⟩ => .ok ⟨r, true, none⟩
  | .ok ⟨r, .reject reason⟩ => .ok ⟨r, false, some reason⟩
  | .error cause => .error (.interrupted cause)

theorem handsOn?_eq_some_iff {v : Visit} {r : Request} :
    v.handsOn? = some r ↔ v.reply.result = .ok ⟨r, .proceed⟩ := by
  unfold handsOn?
  split
  · next h => simp [h]
  · next hne =>
    simp only [reduceCtorEq, false_iff]
    exact fun h => hne r h

end Visit

/-- The walk of a request through stages: all visits, in order, and the last one. -/
inductive Walk : List Stage → Request → List Visit → Visit → Prop
  /-- It ends at a stage that does not let the request go on, whatever comes behind it. -/
  | stop {s : Stage} {ss : List Stage} {r : Request} :
      (Visit.mk s r).handsOn? = none → Walk (s :: ss) r [⟨s, r⟩] ⟨s, r⟩
  /-- It ends at the last stage. -/
  | finish {s : Stage} {r r₁ : Request} :
      (Visit.mk s r).handsOn? = some r₁ → Walk [s] r [⟨s, r⟩] ⟨s, r⟩
  /-- The next stage is handed what the one before it gave back. -/
  | next {s : Stage} {ss : List Stage} {r r₁ : Request} {visits : List Visit} {last : Visit} :
      (Visit.mk s r).handsOn? = some r₁ → Walk ss r₁ visits last →
        Walk (s :: ss) r (⟨s, r⟩ :: visits) last

namespace Walk

variable {ss more : List Stage} {r r₁ : Request} {visits : List Visit} {last : Visit}

/-- There is a walk through every row of stages. -/
theorem exists_walk (s : Stage) (ss : List Stage) (r : Request) :
    ∃ visits last, Walk (s :: ss) r visits last := by
  induction ss generalizing s r with
  | nil =>
    cases h : (Visit.mk s r).handsOn? with
    | none => exact ⟨_, _, .stop h⟩
    | some r₁ => exact ⟨_, _, .finish h⟩
  | cons t ss ih =>
    cases h : (Visit.mk s r).handsOn? with
    | none => exact ⟨_, _, .stop h⟩
    | some r₁ =>
      obtain ⟨visits, last, hwalk⟩ := ih t r₁
      exact ⟨_, _, .next h hwalk⟩

/-- The stages that are visited are the first ones, in their order. -/
theorem isPrefix (h : Walk ss r visits last) : visits.map (·.stage) <+: ss := by
  induction h with
  | stop _ => exact List.prefix_append _ _
  | finish _ => exact List.prefix_rfl
  | next _ _ ih => exact (List.prefix_cons_inj _).2 ih

theorem visited (h : Walk ss r visits last) : Walk (visits.map (·.stage)) r visits last := by
  induction h with
  | stop hstop => exact .stop hstop
  | finish hgoes => exact .finish hgoes
  | next hgoes _ ih => exact .next hgoes ih

/-- A walk that ends early does not notice more stages. -/
theorem append_of_stop (h : Walk ss r visits last) (hstop : last.handsOn? = none)
    (more : List Stage) : Walk (ss ++ more) r visits last := by
  induction h with
  | stop hnone => exact .stop hnone
  | finish hgoes => simp [hgoes] at hstop
  | next hgoes _ ih => exact .next hgoes (ih hstop)

/-- **A walk that does not end early goes on** with the stages that come behind. -/
theorem append (h : Walk ss r visits last) (hgoes : last.handsOn? = some r₁)
    {visits' : List Visit} {last' : Visit} (h' : Walk more r₁ visits' last') :
    Walk (ss ++ more) r (visits ++ visits') last' := by
  induction h with
  | stop hstop => simp [hstop] at hgoes
  | finish hlast =>
    obtain rfl := Option.some.inj (hlast.symm.trans hgoes)
    exact .next hlast h'
  | next hnext _ ih => exact .next hnext (ih hgoes)

end Walk

/-! ### What is handed on -/

namespace Pipeline

/-- The request that stages hand on, one after the other, if all of them let it go on. -/
def handOn? (ss : List Stage) (r : Request) : Option Request :=
  ss.foldlM (fun r s => (Visit.mk s r).handsOn?) r

theorem handOn?_cons (s : Stage) (ss : List Stage) (r : Request) :
    handOn? (s :: ss) r = (Visit.mk s r).handsOn?.bind (handOn? ss) :=
  List.foldlM_cons ..

theorem handOn?_cons_eq_some_iff {s : Stage} {ss : List Stage} {r r' : Request} :
    handOn? (s :: ss) r = some r' ↔
      ∃ r₁, (s.handle r).result = .ok ⟨r₁, .proceed⟩ ∧ handOn? ss r₁ = some r' := by
  rw [handOn?_cons, Option.bind_eq_some_iff]
  simp only [Visit.handsOn?_eq_some_iff, Visit.reply]

end Pipeline

/-- Stages hand on what the last one that is visited does. -/
theorem Walk.handOn?_eq {ss : List Stage} {r : Request} {visits : List Visit} {last : Visit}
    (h : Walk ss r visits last) : Pipeline.handOn? ss r = last.handsOn? := by
  induction h with
  | stop hstop => rw [Pipeline.handOn?_cons, hstop, Option.bind_none]
  | finish hgoes =>
    rw [Pipeline.handOn?_cons, hgoes]
    rfl
  | next hgoes _ ih => rw [Pipeline.handOn?_cons, hgoes, Option.bind_some, ih]

/-! ### What a pipeline does on its walk -/

namespace Pipeline

/-- The case with the verdict that stages came to. -/
def conclude : Except Interruption (Request × Verdict) → Except RunError Case
  | .ok (r, v) => .ok ((Case.ofRequest r).close v)
  | .error cause => .error (.interrupted cause)

theorem run_eq_judge {p : Pipeline} {c : Case} (hc : c.isDecided = false) :
    p.run c = ⟨(judge p.stages c.request).lookups, conclude (judge p.stages c.request).result⟩ := by
  rw [run_of_undecided p hc]
  cases h : (judge p.stages c.request).result with
  | ok done =>
    have hmap : ((judge p.stages c.request).mapError RunError.interrupted).result = .ok done :=
      Consult.result_mapError_eq_ok.2 h
    rw [Consult.bind_of_ok _ hmap]
    simp [conclude]
  | error cause =>
    have hmap : ((judge p.stages c.request).mapError RunError.interrupted).result =
        .error (.interrupted cause) := Consult.result_mapError_eq_error.2 ⟨cause, h, rfl⟩
    rw [Consult.bind_of_error _ hmap]
    rfl

theorem judge_of_handsOn {s : Stage} {r r₁ : Request} (h : (Visit.mk s r).handsOn? = some r₁)
    (ss : List Stage) :
    judge (s :: ss) r =
      ⟨(Visit.mk s r).reply.lookups ++ (judge ss r₁).lookups, (judge ss r₁).result⟩ := by
  have hreply : (s.handle r).result = .ok ⟨r₁, .proceed⟩ := Visit.handsOn?_eq_some_iff.1 h
  rw [judge, Consult.bind_of_ok _ hreply]
  rfl

theorem judge_of_stop {s : Stage} {r : Request} (h : (Visit.mk s r).handsOn? = none)
    (ss : List Stage) :
    (judge (s :: ss) r).lookups = (Visit.mk s r).reply.lookups ∧
      conclude (judge (s :: ss) r).result = (Visit.mk s r).outcome := by
  have hstop : ∀ r₁, (s.handle r).result ≠ .ok ⟨r₁, .proceed⟩ := by
    intro r₁ hreply
    have hgoes : (Visit.mk s r).handsOn? = some r₁ := Visit.handsOn?_eq_some_iff.2 hreply
    rw [hgoes] at h
    cases h
  refine ⟨lookups_judge_of_not_proceed hstop, ?_⟩
  rw [judge]
  cases hreply : (s.handle r).result with
  | error cause =>
    rw [Consult.bind_of_error _ hreply]
    simp [Visit.outcome, Visit.reply, hreply, conclude]
  | ok reply =>
    obtain ⟨r₁, outcome⟩ := reply
    rw [Consult.bind_of_ok _ hreply]
    cases outcome with
    | proceed => exact absurd hreply (hstop r₁)
    | approve =>
      rw [Visit.outcome, Visit.reply, hreply]
      rfl
    | reject reason =>
      rw [Visit.outcome, Visit.reply, hreply]
      rfl

end Pipeline

namespace Walk

variable {ss : List Stage} {r : Request} {visits : List Visit} {last : Visit}

theorem judge_eq (h : Walk ss r visits last) :
    (Pipeline.judge ss r).lookups = visits.flatMap (·.reply.lookups) ∧
      Pipeline.conclude (Pipeline.judge ss r).result = last.outcome := by
  induction h with
  | stop hstop =>
    rw [List.flatMap_singleton]
    exact Pipeline.judge_of_stop hstop _
  | finish hgoes =>
    rw [Pipeline.judge_of_handsOn hgoes, Visit.outcome, Visit.handsOn?_eq_some_iff.1 hgoes,
      List.flatMap_singleton]
    exact ⟨List.append_nil _, rfl⟩
  | next hgoes _ ih =>
    rw [Pipeline.judge_of_handsOn hgoes, List.flatMap_cons, ih.1]
    exact ⟨rfl, ih.2⟩

/-- **A pipeline asks what is asked on its walk**, in that order, and comes to the outcome of the
last visit. -/
theorem run_eq {p : Pipeline} {c : Case} (hc : c.isDecided = false)
    (h : Walk p.stages c.request visits last) :
    p.run c = ⟨visits.flatMap (·.reply.lookups), last.outcome⟩ := by
  rw [Pipeline.run_eq_judge hc, h.judge_eq.1, h.judge_eq.2]

end Walk

namespace Pipeline

/-- The stages behind the end of a walk can be replaced by any others. -/
theorem run_congr_of_stop {p q : Pipeline} {c : Case} (hc : c.isDecided = false)
    {visits : List Visit} {last : Visit} (h : Walk p.stages c.request visits last)
    (hstop : last.handsOn? = none) (hq : visits.map (·.stage) <+: q.stages) :
    q.run c = p.run c := by
  obtain ⟨more, hmore⟩ := hq
  -- The walk is one through the visited stages alone, and so one with any others behind them.
  have hwalk := h.visited.append_of_stop hstop more
  rw [hmore] at hwalk
  rw [hwalk.run_eq hc, h.run_eq hc]

/-- Two rows of stages, one behind the other, are two pipelines, of which the second one judges what
the first one hands on. -/
theorem run_append {p : Pipeline} (q : Pipeline) {c : Case} (hc : c.isDecided = false)
    {visits : List Visit} {last : Visit} (h : Walk p.stages c.request visits last) :
    (p.append q).run c =
      match last.handsOn? with
      | none => p.run c
      | some r => ⟨(p.run c).lookups ++ (q.run (.ofRequest r)).lookups,
          (q.run (.ofRequest r)).result⟩ := by
  cases hlast : last.handsOn? with
  | none =>
    have hprefix : visits.map (·.stage) <+: (p.append q).stages := by
      rw [stages_append]
      exact h.isPrefix.trans (List.prefix_append _ _)
    exact run_congr_of_stop hc h hlast hprefix
  | some r =>
    obtain ⟨visits', last', hq⟩ := Walk.exists_walk q.first q.others r
    have hwalk : Walk (p.append q).stages c.request (visits ++ visits') last' := by
      rw [stages_append]
      exact h.append hlast hq
    have hrest : q.run (.ofRequest r) = ⟨visits'.flatMap (·.reply.lookups), last'.outcome⟩ :=
      Walk.run_eq rfl hq
    rw [hwalk.run_eq hc, h.run_eq hc, List.flatMap_append]
    dsimp only
    rw [hrest]

/-- **What a pipeline does is what happens on its walk.**  It visits the stages of which it was put
together in their order, each with the request that the one before it handed on, up to the first
that does not hand one on; it asks what these stages ask, and comes to the outcome of the last one.
So the stages that are not visited can be replaced by any others, and when more stages are put at
the end they judge what the last stage hands on, if it does. -/
theorem run_build (name : String) (first : Stage) (others : List Stage) {c : Case}
    (hc : c.isDecided = false) :
    let p := build name first others
    p.stageNames = (first :: others).map (·.name) ∧
    ∃ visits last, Walk (first :: others) c.request visits last ∧
      visits.map (·.stage) <+: first :: others ∧
      p.run c = ⟨visits.flatMap (·.reply.lookups), last.outcome⟩ ∧
      (last.handsOn? = none →
        ∀ q : Pipeline, visits.map (·.stage) <+: q.stages → q.run c = p.run c) ∧
      ∀ q : Pipeline, (p.append q).run c =
        match last.handsOn? with
        | none => p.run c
        | some r => ⟨(p.run c).lookups ++ (q.run (.ofRequest r)).lookups,
            (q.run (.ofRequest r)).result⟩ := by
  intro p
  have hstages : p.stages = first :: others := stages_build name first others
  obtain ⟨visits, last, hwalk⟩ := Walk.exists_walk first others c.request
  have hp : Walk p.stages c.request visits last := hstages.symm ▸ hwalk
  refine ⟨congrArg (·.map (·.name)) hstages, visits, last, hwalk, hwalk.isPrefix, hp.run_eq hc,
    fun hstop q hq => run_congr_of_stop hc hp hstop hq, fun q => run_append q hc hp⟩

/-- A stage that lets every request go on. -/
def smallFirst : Stage := .fixed "first" (some .student) [] .proceed

/-- A stage that refuses every request, and one that is always interrupted. -/
def smallOthers : List Stage :=
  [.fixed "second" none [("seen", .bool true)] (.reject ⟨.permissionDenied, "no"⟩),
    .failing "third" (.backend "down")]

/-- The third stage is not visited. -/
theorem run_build_small :
    let c := Case.ofRequest (.new "r" "t" "course" "view")
    c.isDecided = false ∧
      (build "small" smallFirst smallOthers).stageNames = ["first", "second", "third"] ∧
      ∃ visits last, Walk (smallFirst :: smallOthers) c.request visits last ∧
        visits.map (·.stage.name) = ["first", "second"] ∧
        (build "small" smallFirst smallOthers).run c =
          ⟨visits.flatMap (·.reply.lookups), last.outcome⟩ := by
  intro c
  obtain ⟨hnames, visits, last, hwalk, -, hrun, -⟩ :=
    run_build "small" smallFirst smallOthers (c := c) rfl
  refine ⟨rfl, hnames, visits, last, hwalk, ?_, hrun⟩
  cases hwalk with
  | stop hstop => cases hstop
  | next _ hrest =>
    cases hrest with
    | stop _ => rfl
    | next hgoes _ => cases hgoes

end Pipeline

end Registrar
