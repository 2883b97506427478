import Registrar.Proofs.Entries
import Registrar.Proofs.JsonForm
import Registrar.Proofs.Reported

/-!
# What is shown is what is in force

The policy tables, refusals and subjects are read back from their JSON forms as they were, whatever
they hold.  So whoever reads the policy that a process prints has the very tables in force.

* `RejectionKind.form`, `Rejection.form`, `Subject.form`: refusals and subjects.
* `RoleMap.foldl_set_of_perm`, `Tables.form_roles`: maps from roles, whose fields are the names of
  the roles.
* `Capacity.form`, `Provenance.form`, `Tables.form`: the policy tables.
* `Tables.printed?`, `Tables.printed?_jsonReport`: the policy that is printed.
* `Surroundings.Shows`, `Surroundings.forms_read_back`: **forms are read back, and a process that shows the
  policy prints the tables in force.**
-/

namespace Registrar

open Json (Form ReadsBack)

/-! ### Refusals and subjects -/

theorem Role.form : Form 0 toJson ofJson? := .word fun r => by cases r <;> rfl

theorem PeriodIssue.form : Form 0 toJson ofJson? := .word fun i => by cases i <;> rfl

theorem RejectionKind.form : Form 1 toJson ofJson? where
  plain k room := by
    cases k with
    | invalidPeriod issue =>
      exact .object (List.forall_mem_singleton.2 (PeriodIssue.form.plain issue room))
    | _ => exact .string _
  read_eq {k v} hv := by
    cases k with
    | invalidPeriod issue =>
      obtain ⟨w, rfl, hw⟩ := hv.exists_field
      exact congrArg (Option.map invalidPeriod) (PeriodIssue.form.read_eq hw)
    | _ =>
      cases hv
      rfl

/-- **Refusals** are written as records, with the issue of a period inside the kind. -/
theorem Rejection.form : Form 2 toJson ofJson? where
  plain r room := by
    refine .object ?_
    simp only [List.forall_mem_cons]
    exact ⟨RejectionKind.form.plain r.kind room, .string _, nofun⟩
  read_eq {r v} hv := by
    obtain ⟨given, hgiven, hanswers⟩ := hv.fields? ["kind", "message"] 0 (.refl _) (by decide)
    have hkind := hanswers.field? RejectionKind.form (n := "kind") (a := r.kind) (by simp)
    have hmessage := hanswers.field? .text (n := "message") (a := r.message) (by simp)
    rw [ofJson?, hgiven, Option.bind_eq_bind, Option.bind_some, hkind, hmessage]
    rfl

theorem Subject.form : Form 1 toJson ofJson? where
  plain s room := by
    refine .object ?_
    simp only [List.forall_mem_cons]
    exact ⟨.string _, Form.int64.plain s.id room, .string _, Role.form.plain s.role room, nofun⟩
  read_eq {s v} hv := by
    have hperm : ["email", "id", "name", "role"].Perm ["id", "name", "email", "role"] := by decide
    obtain ⟨given, hgiven, hanswers⟩ := hv.fields? _ 0 hperm (by decide)
    have hid := hanswers.field? .int64 (n := "id") (a := s.id) (by simp)
    have hname := hanswers.field? .text (n := "name") (a := s.name) (by simp)
    have hemail := hanswers.field? .text (n := "email") (a := s.email) (by simp)
    have hrole := hanswers.field? Role.form (n := "role") (a := s.role) (by simp)
    rw [ofJson?, hgiven, Option.bind_eq_bind, Option.bind_some, hid, hname, hemail, hrole]
    rfl

/-! ### Sets and maps of roles -/

namespace RoleSet

theorem ofList_toList (s : RoleSet) : ofList s.toList = s := by
  refine ext_contains fun r => ?_
  have hall : r ∈ Role.all := by cases r <;> decide
  have hempty : empty.contains r = false := by cases r <;> rfl
  rw [ofList, contains_addAll, hempty, Bool.false_or, Bool.eq_iff_iff, List.contains_iff_mem, toList,
    List.mem_filter]
  exact and_iff_right hall

theorem form : Form 1 toJson ofJson? := Role.form.listOf.map ofList_toList

end RoleSet

namespace TextSet

theorem ofList_toList (s : TextSet) : ofList s.toList = s := by
  refine ext_contains fun text => ?_
  have hempty : Table.contains (Table.empty : TextSet) text = false := rfl
  rw [ofList, contains_addAll, hempty, Bool.false_or, Bool.eq_iff_iff, List.contains_iff_mem, toList,
    Table.mem_keys_iff]
  rfl

theorem form : Form 1 toJson ofJson? := Form.text.listOf.map ofList_toList

end TextSet

namespace RoleMap

variable {α : Type}

theorem nodup_keys (m : RoleMap α) : (m.entries.map (·.1)).Nodup := by
  obtain ⟨a, b, c⟩ := m
  cases a <;> cases b <;> cases c <;> simp [entries, get?, Role.all]

theorem get?_foldl_set {es : List (Role × α)} (h : (es.map (·.1)).Nodup) (m : RoleMap α) (r : Role)
    (v : α) : (es.foldl (fun m e => m.set e.1 e.2) m).get? r = some v ↔
      (r, v) ∈ es ∨ r ∉ es.map (·.1) ∧ m.get? r = some v := by
  induction es generalizing m with
  | nil => simp
  | cons e es ih =>
    rw [List.map_cons, List.nodup_cons] at h
    rw [List.foldl_cons, ih h.2, get?_set]
    by_cases hr : r = e.1
    · subst hr
      have hfresh : (e.1, v) ∉ es := fun hmem => h.1 (List.mem_map.2 ⟨_, hmem, rfl⟩)
      simp [hfresh, h.1, Prod.ext_iff, eq_comm]
    · simp [hr, Prod.ext_iff]

theorem foldl_set_of_perm {m : RoleMap α} {es : List (Role × α)} (h : es.Perm m.entries) :
    es.foldl (fun m e => m.set e.1 e.2) empty = m := by
  refine ext_get? fun r => Option.ext fun v => ?_
  have hempty : (empty : RoleMap α).get? r = none := by cases r <;> rfl
  rw [get?_foldl_set ((h.map _).nodup_iff.2 m.nodup_keys), hempty, h.mem_iff, ← get?_eq_some_iff]
  simp

end RoleMap

/-! ### The policy tables -/

theorem UnresolvedCourse.form : Form 0 toJson ofJson? := .word fun p => by cases p <;> rfl

theorem Source.form : Form 0 toJson ofJson? := .word fun s => by cases s <;> rfl

theorem Provenance.form : Form 1 toJson ofJson? where
  plain p room := by
    refine .object ?_
    simp only [List.forall_mem_cons]
    exact ⟨.string _, Source.form.plain p.source room, nofun⟩
  read_eq {p v} hv := by
    obtain ⟨given, hgiven, hanswers⟩ := hv.fields? ["path", "source"] 0 (.refl _) (by decide)
    have hpath := hanswers.field? .text (n := "path") (a := p.path) (by simp)
    have hsource := hanswers.field? Source.form (n := "source") (a := p.source) (by simp)
    rw [ofJson?, hgiven, Option.bind_eq_bind, Option.bind_some, hpath, hsource]
    rfl

theorem Capacity.form : Form 2 toJson ofJson? where
  plain c room := by
    refine .object ?_
    simp only [List.forall_mem_cons]
    exact ⟨Form.word32.plain c.defaultLimit _, Form.word32.tableOf.plain c.limits room,
      UnresolvedCourse.form.plain c.unresolvedCourse _, nofun⟩
  read_eq {c v} hv := by
    have hperm : ["default_limit", "limits", "unresolved_course"].Perm
        ["limits", "default_limit", "unresolved_course"] := by decide
    obtain ⟨given, hgiven, hanswers⟩ := hv.fields? _ 0 hperm (by decide)
    have hlimits := hanswers.field? Form.word32.tableOf (n := "limits") (a := c.limits) (by simp)
    have hdefault := hanswers.field? .word32 (n := "default_limit") (a := c.defaultLimit) (by simp)
    have hunresolved := hanswers.field? UnresolvedCourse.form (n := "unresolved_course")
      (a := c.unresolvedCourse) (by simp)
    rw [ofJson?, hgiven, Option.bind_eq_bind, Option.bind_some, hlimits, hdefault, hunresolved]
    rfl

namespace Tables

theorem perm_entries_roles (m : RoleMap TextSet) :
    (Table.ofList (m.entries.map fun (r, s) => (r.name, TextSet.toJson s))).entries.Perm
      (m.entries.map fun (r, s) => (r.name, TextSet.toJson s)) := by
  refine Table.perm_entries_ofList ?_
  have hnames := m.nodup_keys.map (f := Role.name) fun _ _ => Role.name_injective
  rw [List.map_map] at hnames ⊢
  exact hnames

/-- The entry as which a field of a map from roles is read. -/
def roleField? (field : String × Json) : Option (Role × TextSet) := do
  return (← Role.named? field.1, ← TextSet.ofJson? field.2)

theorem rolesOfJson?_object (fields : List (String × Json)) :
    rolesOfJson? (.object fields) = (fields.mapM roleField?).bind fun es =>
      some (es.foldl (fun m e => m.set e.1 e.2) .empty) := rfl

theorem roleField?_eq {r : Role} {s : TextSet} {v : Json} (h : v.Shuffled s.toJson) :
    roleField? (r.name, v) = some (r, s) := by
  have hrole : Role.named? r.name = some r := by cases r <;> rfl
  rw [roleField?, hrole, TextSet.form.read_eq h]
  rfl

/-- **Maps from roles** are written as objects whose fields are the names of the roles. -/
theorem form_roles : Form 2 rolesToJson rolesOfJson? where
  plain m room := by
    refine .object fun f hf => ?_
    obtain ⟨e, -, rfl⟩ := List.mem_map.1 ((perm_entries_roles m).mem_iff.1 hf)
    exact TextSet.form.plain e.2 room
  read_eq {m v} hv := by
    obtain ⟨fields, -, rfl, -⟩ := hv.exists_fields
    obtain ⟨es, hes, hperm⟩ :=
      Form.mapM_fields roleField? (fun _ _ => roleField?_eq) (perm_entries_roles m) hv
    rw [rolesOfJson?_object, hes]
    exact congrArg some (RoleMap.foldl_set_of_perm hperm)

/-- **The policy tables** are written as one record. -/
theorem form : Form 3 toJson ofJson? where
  plain t room := by
    refine .object ?_
    simp only [List.forall_mem_cons]
    exact ⟨Form.text.tableOf.plain t.actionPermissions _, Capacity.form.plain t.capacity room,
      Provenance.form.tableOf.plain t.provenance room,
      RoleSet.form.tableOf.plain t.resourceRoles room, Form.word64.plain t.revision _,
      form_roles.plain t.rolePermissions room, nofun⟩
  read_eq {t v} hv := by
    have hperm : ["action_permissions", "capacity", "provenance", "resource_roles", "rev",
        "role_permissions"].Perm ["rev", "resource_roles", "role_permissions",
        "action_permissions", "capacity", "provenance"] := by decide
    obtain ⟨given, hgiven, hanswers⟩ := hv.fields? _ 1 hperm (by decide)
    have hrevision := hanswers.field? .word64 (n := "rev") (a := t.revision) (by simp)
    have hresources := hanswers.field? RoleSet.form.tableOf (n := "resource_roles")
      (a := t.resourceRoles) (by simp)
    have hroles := hanswers.field? form_roles (n := "role_permissions") (a := t.rolePermissions)
      (by simp)
    have hactions := hanswers.field? Form.text.tableOf (n := "action_permissions")
      (a := t.actionPermissions) (by simp)
    have hcapacity := hanswers.field? Capacity.form (n := "capacity") (a := t.capacity) (by simp)
    have hprovenance := hanswers.fieldOr Provenance.form.tableOf (n := "provenance")
      (a := t.provenance) (by simp) .empty
    rw [ofJson?, hgiven, Option.bind_eq_bind, Option.bind_some, hrevision, hresources, hroles,
      hactions, hcapacity, hprovenance]
    rfl

/-! ### The policy that is printed -/

/-- The tables that are reported together with the files that they were loaded from. -/
def ofReport? (v : Json) : Option Tables := do
  Markup.field? (← v.fields? ["policy", "sources"] 0) "policy" ofJson?

/-- The tables that the output of a process shows. -/
def printed? (output : String) : Option Tables := (Json.read? output).bind ofReport?

theorem form_report (sources : List String) :
    Form 4 (fun t => .object [("policy", t.toJson), ("sources", .strings sources)]) ofReport? where
  plain t room := by
    refine .object ?_
    simp only [List.forall_mem_cons]
    exact ⟨form.plain t room, Form.text.listOf.plain sources _, nofun⟩
  read_eq {t v} hv := by
    obtain ⟨given, hgiven, hanswers⟩ := hv.fields? ["policy", "sources"] 0 (.refl _) (by decide)
    rw [ofReport?, hgiven, Option.bind_eq_bind, Option.bind_some]
    exact hanswers.field? form (n := "policy") (a := t) (by simp)

theorem printed?_jsonReport (sources : List String) (t : Tables) :
    printed? (t.jsonReport sources) = some t := by
  have hplain := (form_report sources).plain_maxOpen (by decide) t
  rw [printed?, jsonReport, hplain.read?_pretty_newline, Option.bind_some]
  exact (form_report sources).read_eq hplain.shuffled_refl

end Tables

namespace Surroundings

variable {m : Type → Type} [Monad m]

/-- A process is called to show a policy as JSON. -/
inductive Shows (s : Surroundings m) (args : List String) : Tables → Prop
  /-- The arguments ask for it, and all that they and the configuration name can be read. -/
  | intro {i : Invocation} {c : Configuration} {t : Tables} :
      Invocation.read args = .ok i → i.command = .showPolicy true →
      s.configuration i.config = pure c →
      (!i.debug && (LogLevel.read? ((i.logLevel <|> c.logLevel).getD "warn")).isNone) = false →
      s.policy c = pure t → Shows s args t

variable [LawfulMonad m] {s : Surroundings m} {args : List String} {t : Tables}

/-- A process that is called to show a policy prints it. -/
theorem run_of_shows (h : s.Shows args t) :
    ∃ sources, s.run args = pure ⟨0, t.jsonReport sources, none⟩ := by
  cases h with
  | @intro i c _ hread hcommand hconfiguration hlevel hpolicy =>
    have hperform : s.perform i = pure ⟨0, t.jsonReport c.policyPaths, none⟩ := by
      rw [perform, hconfiguration, pure_bind, hcommand]
      dsimp only
      rw [hlevel, showPolicy, hpolicy, pure_bind]
      rfl
    exact ⟨c.policyPaths, run_of_perform hread hperform⟩

/-- **Forms are read back**, from values and from texts, and so is the policy that a process prints
when it is called to show it. -/
theorem forms_read_back :
    (∀ t : Tables, ReadsBack Tables.toJson Tables.ofJson? t) ∧
      (∀ r : Rejection, ReadsBack Rejection.toJson Rejection.ofJson? r) ∧
      (∀ s : Subject, ReadsBack Subject.toJson Subject.ofJson? s) ∧
      ∀ (s : Surroundings m) (args : List String) (t : Tables), s.Shows args t →
        ∃ output, s.run args = pure ⟨0, output, none⟩ ∧ Tables.printed? output = some t := by
  refine ⟨Tables.form.readsBack (by decide), Rejection.form.readsBack (by decide),
    Subject.form.readsBack (by decide), fun s args t h => ?_⟩
  obtain ⟨sources, hrun⟩ := run_of_shows h
  exact ⟨_, hrun, Tables.printed?_jsonReport sources t⟩

/-- A call that asks for the policy as JSON. -/
def policyCall : List String := ["policy", "show", "--json"]

theorem shows_policyCall : bare.Shows policyCall .initial := by
  have hread : Invocation.read policyCall = .ok ⟨none, none, false, .showPolicy true⟩ := by
    decide +kernel
  have hconfiguration : bare.configuration none = pure .blank := rfl
  exact .intro hread rfl hconfiguration (by decide) policy_bare

/-- With nothing around it, a process prints the built-in tables. -/
theorem forms_read_back_policyCall :
    ∃ output, bare.run policyCall = pure ⟨0, output, none⟩ ∧
      Tables.printed? output = some .initial :=
  (forms_read_back (m := Id)).2.2.2 bare policyCall .initial shows_policyCall

end Surroundings

end Registrar
