import Registrar.Proofs.Authoring

/-!
# Who owns a course that was authored

A caller may write anything on a request: another subject's number, an owner in any form, a note
that the owner was assigned.  None of it survives unless it is true
(`Service.owner_of_authoring_approved`).
-/

namespace Registrar

namespace Request

variable {r r₁ : Request} {role : Role} {subject owner : Int64} {assigned : Bool}

theorem OwnerSettled.congr (h : r₁.OwnerSettled role subject owner assigned)
    (hf : r₁.fact? .ownerIdRequested = r.fact? .ownerIdRequested) :
    r.OwnerSettled role subject owner assigned where
  staff := h.staff
  own := h.own
  named := by
    rw [← hf]
    exact h.named
  assigned_iff := by
    rw [← hf]
    exact h.assigned_iff

theorem OwnedAs.exists_owner (h : r.OwnedAs role subject r₁) (hauthors : r.Authors) :
    ∃ owner assigned, r.OwnerSettled role subject owner assigned ∧ r₁.role = r.role ∧
      r₁.metadata.get? Fact.ownerIdRequested.name = some (.int owner.toInt) ∧
      r₁.metadata.get? Fact.autoAssigned.name = some (.bool assigned) := by
  rcases h with ⟨-, hnot⟩ | ⟨owner, assigned, hs, rfl⟩
  · exact absurd hauthors hnot
  · refine ⟨owner, assigned, hs, rfl, ?_, ?_⟩
    · rw [get?_metadata_note_of_ne _ (by decide), get?_metadata_note_self]
    · rw [get?_metadata_note_self]

end Request

namespace Service

variable {s : Service} {c done : Case}

/-- **Whoever was allowed to author a course has its owner settled**: the token belongs to a
teacher or an admin; the owner of the course is that teacher, or has the positive number that the
admin gave; and the owner is noted as assigned exactly when a teacher named none.  This holds
whatever the tables say and whatever else the caller wrote on the request. -/
theorem owner_of_authoring_approved (hd : (s.evaluate .courseAuthoring c).result = .ok done)
    (ha : done.isApproved = true) (hauthors : c.request.Authors) :
    ∃ subject owner assigned, s.records.Know c.request subject ∧
      c.request.OwnerSettled (c.request.roleOf subject) subject.id owner assigned ∧
      done.request.role = some (c.request.roleOf subject) ∧
      done.request.metadata.get? "ownerIdRequested" = some (.int owner.toInt) ∧
      done.request.metadata.get? "autoAssigned" = some (.bool assigned) := by
  obtain ⟨-, v, hj, hv⟩ := (Pipeline.result_run_eq_ok _).1 hd
  obtain rfl := Case.eq_approved_of_verdict hv ha
  obtain ⟨subject, hk, hj⟩ := hj.approved_access
  obtain ⟨r₁, hn, -, hj⟩ := hj.approved_cons (Stage.enforces_academicPeriod s.today)
  have hr := hn.readied
  obtain ⟨r₂, ho, -, hj⟩ := hj.approved_cons (Stage.enforces_assignOwner hr.role hr.subjectId)
  have hauthors₁ : r₁.Authors := by rwa [Request.Authors, hr.verb]
  obtain ⟨owner, assigned, hs, hrole, hown, hauto⟩ := ho.exists_owner hauthors₁
  cases hj
  exact ⟨subject, owner, assigned, hk, hs.congr hr.owner, hrole.trans hr.role, hown, hauto⟩

/-- The teacher of the small campus creates a course under the number of somebody else. -/
def smallForgery : Case :=
  .ofRequest ((((Request.new "r1" "teacher" "course.create" "create").note
    .periodRequested (.string "August-December 2026")).note .ownerIdRequested .null).note
    .subjectId (.int 9))

/-- The course is that teacher's own all the same. -/
theorem owner_of_smallForgery :
    ∃ done, (small.evaluate .courseAuthoring smallForgery).result = .ok done ∧
      done.isApproved = true ∧ smallForgery.request.Authors ∧
      ∃ subject owner assigned, small.records.Know smallForgery.request subject ∧
        smallForgery.request.OwnerSettled (smallForgery.request.roleOf subject) subject.id owner
          assigned ∧
        done.request.role = some (smallForgery.request.roleOf subject) ∧
        done.request.metadata.get? "ownerIdRequested" = some (.int owner.toInt) ∧
        done.request.metadata.get? "autoAssigned" = some (.bool assigned) := by
  have hauthors : smallForgery.request.Authors := .inl (by decide +kernel)
  have hk : (small.evaluate .courseAuthoring smallForgery).result.toOption.map (·.isApproved) =
      some true := by
    decide +kernel
  cases hd : (small.evaluate .courseAuthoring smallForgery).result with
  | error e =>
    rw [hd] at hk
    cases hk
  | ok done =>
    rw [hd] at hk
    have ha : done.isApproved = true := Option.some.inj hk
    exact ⟨done, rfl, ha, hauthors, owner_of_authoring_approved hd ha hauthors⟩

end Service

end Registrar
