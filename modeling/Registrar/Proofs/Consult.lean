import Registrar.Records
import Registrar.Roster

/-!
# Results, questions and outages

A consult carries its questions beside its result.  This file says how the two follow from the
parts of a consult, and ties the result to the answers of the records.

* `Consult.result_bind_eq_ok`, `Consult.result_bind_eq_error`: when a chain of two steps has a
  result, and when it is broken off.
* `Records.outage?`: why the records do not answer a question.
* `Consult.Candid`: outages are neither hidden nor made up.  A candid consult that has a result
  got an answer to every question, and one that is broken off got an answer to all but the last,
  whose outage it reports.
* `Consult.Candid.exists_result`: a candid consult whose questions are all answered has a result.
-/

namespace Registrar

variable {ε ε' α β : Type}

@[simp] theorem mapError_ok (g : ε → ε') (a : α) :
    (.ok a : Except ε α).mapError g = .ok a := rfl

@[simp] theorem mapError_error (g : ε → ε') (e : ε) :
    (.error e : Except ε α).mapError g = .error (g e) := rfl

namespace Consult

/-! ### Results and questions -/

@[simp] theorem result_pure (a : α) : (Pure.pure a : Consult ε α).result = .ok a := rfl

@[simp] theorem lookups_pure (a : α) : (Pure.pure a : Consult ε α).lookups = [] := rfl

@[simp] theorem result_fail (e : ε) : (fail e : Consult ε α).result = .error e := rfl

@[simp] theorem lookups_fail (e : ε) : (fail e : Consult ε α).lookups = [] := rfl

theorem bind_of_ok {x : Consult ε α} {a : α} (f : α → Consult ε β) (h : x.result = .ok a) :
    x >>= f = ⟨x.lookups ++ (f a).lookups, (f a).result⟩ := by
  change Consult.bind x f = _
  simp only [Consult.bind, h]

theorem bind_of_error {x : Consult ε α} {e : ε} (f : α → Consult ε β) (h : x.result = .error e) :
    x >>= f = ⟨x.lookups, .error e⟩ := by
  change Consult.bind x f = _
  simp only [Consult.bind, h]

theorem result_bind_eq_ok {x : Consult ε α} {f : α → Consult ε β} {b : β} :
    (x >>= f).result = .ok b ↔ ∃ a, x.result = .ok a ∧ (f a).result = .ok b := by
  cases h : x.result with
  | ok a => simp [bind_of_ok f h]
  | error e => simp [bind_of_error f h]

theorem result_bind_eq_error {x : Consult ε α} {f : α → Consult ε β} {e : ε} :
    (x >>= f).result = .error e ↔
      x.result = .error e ∨ ∃ a, x.result = .ok a ∧ (f a).result = .error e := by
  cases h : x.result with
  | ok a => simp [bind_of_ok f h]
  | error e' => simp [bind_of_error f h]

theorem id_map (x : Consult ε α) : id <$> x = x := by
  obtain ⟨asked, result⟩ := x
  cases result with
  | ok a => exact congrArg (mk · _) (List.append_nil asked)
  | error e => rfl

theorem bind_assoc {γ : Type} (x : Consult ε α) (f : α → Consult ε β) (g : β → Consult ε γ) :
    x >>= f >>= g = x >>= fun a => f a >>= g := by
  cases hx : x.result with
  | error e =>
    rw [bind_of_error f hx, bind_of_error _ hx]
    rfl
  | ok a =>
    rw [bind_of_ok f hx, bind_of_ok _ hx]
    cases hf : (f a).result with
    | error e =>
      rw [bind_of_error g hf]
      rfl
    | ok b =>
      rw [bind_of_ok g hf, ← List.append_assoc]
      rfl

instance : LawfulMonad (Consult ε) :=
  .mk' _ id_map (fun _ f => bind_of_ok f rfl) bind_assoc

theorem mem_lookups_bind {x : Consult ε α} {q : Lookup} (h : q ∈ x.lookups)
    (f : α → Consult ε β) : q ∈ (x >>= f).lookups := by
  cases hx : x.result with
  | ok a =>
    rw [bind_of_ok f hx]
    exact List.mem_append_left _ h
  | error e => rwa [bind_of_error f hx]

theorem lookups_bind_of_silent {x : Consult ε α} {f : α → Consult ε β}
    (h : ∀ a, (f a).lookups = []) : (x >>= f).lookups = x.lookups := by
  cases hx : x.result with
  | ok a => simp [bind_of_ok f hx, h]
  | error e => simp [bind_of_error f hx]

@[simp] theorem lookups_mapError (g : ε → ε') (x : Consult ε α) :
    (x.mapError g).lookups = x.lookups := rfl

theorem result_mapError_eq_ok {g : ε → ε'} {x : Consult ε α} {a : α} :
    (x.mapError g).result = .ok a ↔ x.result = .ok a := by
  change x.result.mapError g = _ ↔ _
  cases x.result <;> simp

theorem result_mapError_eq_error {g : ε → ε'} {x : Consult ε α} {e' : ε'} :
    (x.mapError g).result = .error e' ↔ ∃ e, x.result = .error e ∧ g e = e' := by
  change x.result.mapError g = _ ↔ _
  cases x.result <;> simp

theorem mapError_map (g : ε → ε') (f : α → β) (x : Consult ε α) :
    (f <$> x).mapError g = f <$> x.mapError g := by
  obtain ⟨asked, result⟩ := x
  cases result <;> rfl

@[simp] theorem lookups_ask (stage : String) (question : Lookup) (answer : Except Outage α) :
    (ask stage question answer).lookups = [question] := rfl

theorem result_ask_eq_ok {stage : String} {question : Lookup} {answer : Except Outage α} {a : α} :
    (ask stage question answer).result = .ok a ↔ answer = .ok a := by
  change answer.mapError _ = _ ↔ _
  cases answer <;> simp

end Consult

/-! ### Outages -/

/-- Why there is no answer, when there is none. -/
def outageOf {α : Type} : Except Outage α → Option Outage
  | .ok _ => none
  | .error outage => some outage

/-- Why the records do not answer a question, when they do not. -/
def Records.outage? (records : Records) : Lookup → Option Outage
  | .subject token => outageOf (records.subject token)
  | .modality course => outageOf (records.modality course)
  | .enrollment course => outageOf (records.enrollment course)
  | .period course => outageOf (records.period course)

/-- The name of the stage that asks a question. -/
def Lookup.stage : Lookup → String
  | subject _ => "token"
  | period _ => "schedule"
  | modality _ | enrollment _ => "seat_capacity"

theorem Roster.outage?_records (r : Roster) (q : Lookup) : r.records.outage? q = none := by
  cases q <;> rfl

namespace Consult

variable {records : Records}

/-- Outages are neither hidden nor made up. -/
structure Candid (records : Records) (x : Consult Interruption α) : Prop where
  /-- With a result, every question was answered. -/
  answered : ∀ a, x.result = .ok a → ∀ q ∈ x.lookups, records.outage? q = none
  /-- Without a result, the last question alone was not answered, and its outage is reported
  under the name of the stage that asks it. -/
  broken : ∀ e, x.result = .error e → ∃ asked q, x.lookups = asked ++ [q] ∧
    (∀ p ∈ asked, records.outage? p = none) ∧ records.outage? q = some e.outage ∧
      e.stage = q.stage

namespace Candid

theorem pure (records : Records) (a : α) : Candid records (Pure.pure a) where
  answered _ _ q hq := by simp at hq
  broken e he := by simp at he

theorem ask {stage : String} {question : Lookup} {answer : Except Outage α}
    (hs : stage = question.stage) (h : records.outage? question = outageOf answer) :
    Candid records (Consult.ask stage question answer) where
  answered a ha q hq := by
    obtain rfl : q = question := by simpa [Consult.ask] using hq
    rw [h, result_ask_eq_ok.1 ha]
    rfl
  broken e he := by
    refine ⟨[], question, rfl, by simp, ?_⟩
    cases answer with
    | ok a => simp [Consult.ask] at he
    | error o =>
      obtain rfl : ⟨stage, o⟩ = e := by simpa [Consult.ask] using he
      exact ⟨h, hs⟩

theorem bind {x : Consult Interruption α} {f : α → Consult Interruption β}
    (hx : x.Candid records) (hf : ∀ a, (f a).Candid records) : (x >>= f).Candid records := by
  cases h : x.result with
  | ok a =>
    rw [bind_of_ok f h]
    refine ⟨fun b hb q hq => ?_, fun e he => ?_⟩
    · rcases List.mem_append.1 hq with hq | hq
      · exact hx.answered a h q hq
      · exact (hf a).answered b hb q hq
    · obtain ⟨asked, q, hl, ha, hq⟩ := (hf a).broken e he
      refine ⟨x.lookups ++ asked, q, by simp [hl], fun p hp => ?_, hq⟩
      rcases List.mem_append.1 hp with hp | hp
      · exact hx.answered a h p hp
      · exact ha p hp
  | error e =>
    rw [bind_of_error f h]
    exact ⟨fun b hb => by simp at hb, fun e' he' => hx.broken e' (by simpa [h] using he')⟩

/-- **A candid consult whose questions are all answered has a result.** -/
theorem exists_result {x : Consult Interruption α} (hx : x.Candid records)
    (h : ∀ q ∈ x.lookups, records.outage? q = none) : ∃ a, x.result = .ok a := by
  cases hr : x.result with
  | ok a => exact ⟨a, rfl⟩
  | error e =>
    obtain ⟨asked, q, hl, -, hq, -⟩ := hx.broken e hr
    have hnone := h q (by simp [hl])
    rw [hq] at hnone
    cases hnone

end Candid

end Consult

end Registrar
