import Registrar.Proofs.Enumeration
import Registrar.Proofs.Upkeep

/-!
# Amendments, one by one and in a row

An amendment is about one entry of the tables.  It changes the answers to the questions about that
entry, and its note, and nothing else but the count of the changes.  Those that add to a set of
roles or permissions can be made in any order and as often as one likes.

* `Question`, `Tables.answer`: what can be asked, and about which entry.
* `Amendment.TakesEffect`, `Tables.Amended`: what the tables answer after an amendment;
  `Tables.amended_amend` says so of one step.
* `Amendment.Adds`, `Tables.amend_right_comm`: an amendment that only adds can be made earlier or
  later.
* `Tables.Includes`: nothing is left to be added; `Tables.Includes.amend` says that it stays so.
* `Tables.Within`: all roles and permissions are still there.
* `Tables.Exact`, `Tables.exact_amendAll`: **amendments in a row are exact.**
-/

namespace Registrar

/-! ### Questions -/

/-- A question to the tables, by the type of its answer. -/
inductive Question : Type → Type where
  /-- Which roles is a resource open to? -/
  | allowedRoles (resource : String) : Question (Option RoleSet)
  /-- Which permissions does a role hold? -/
  | permissions (role : Role) : Question (Option TextSet)
  /-- Does a role hold a permission? -/
  | hasPermission (role : Role) (permission : String) : Question Bool
  /-- Does a role hold every permission? -/
  | hasAllPermissions (role : Role) : Question Bool
  /-- Which permission does an action need? -/
  | requiredPermission (action : String) : Question (Option String)
  /-- How many seats does a course of a modality have? -/
  | seatLimit (modality : Modality) : Question UInt32
  /-- How many seats do courses of all other modalities have? -/
  | defaultLimit : Question UInt32
  /-- What happens to courses that cannot be found? -/
  | unresolvedCourse : Question UnresolvedCourse

variable {α : Type}

/-- The entry that a question is about. -/
def Question.target : Question α → Target
  | allowedRoles resource => .resource (Text.trim resource)
  | permissions role | hasPermission role _ | hasAllPermissions role => .role role
  | requiredPermission action => .action (actionKey action)
  | seatLimit modality => .limit modality.key
  | defaultLimit => .defaultLimit
  | unresolvedCourse => .unresolvedCourse

/-- The answer of the tables. -/
def Tables.answer (t : Tables) : Question α → α
  | .allowedRoles resource => t.allowedRoles resource
  | .permissions role => t.permissions role
  | .hasPermission role permission => t.hasPermission role permission
  | .hasAllPermissions role => t.hasAllPermissions role
  | .requiredPermission action => t.requiredPermission action
  | .seatLimit modality => t.seatLimit modality
  | .defaultLimit => t.capacity.defaultLimit
  | .unresolvedCourse => t.capacity.unresolvedCourse

/-! ### One amendment -/

/-- What the amendment is for: the second tables answer the questions about its entry as the first
ones did, with what is added, or as they are told to from now on. -/
def Amendment.TakesEffect (t t' : Tables) : Amendment → Prop
  | openResource resource roles => ∀ other, Text.trim other = Text.trim resource →
    ∃ after, t'.allowedRoles other = some after ∧ ∀ r, after.contains r = true ↔
      (∃ before, t.allowedRoles other = some before ∧ before.contains r = true) ∨ r ∈ roles
  | grant role permissions => ∃ after, t'.permissions role = some after ∧
    ∀ p, after.contains p = true ↔
      (∃ before, t.permissions role = some before ∧ before.contains p = true) ∨ p ∈ permissions
  | require action permission => ∀ other, actionKey other = actionKey action →
    t'.requiredPermission other = some permission
  | limitSeats modality limit => ∀ other : Modality, other.key = modality.key →
    t'.seatLimit other = limit
  | treatUnresolved policy => t'.capacity.unresolvedCourse = policy

namespace Tables

/-- The second tables are the first ones after an amendment. -/
structure Amended (t : Tables) (a : Amendment) (t' : Tables) : Prop where
  /-- The amendment does what it is for. -/
  takesEffect : a.TakesEffect t t'
  /-- Every question about something else has its old answer. -/
  answer_of_ne : ∀ {α : Type} (q : Question α), q.target ≠ a.target → t'.answer q = t.answer q
  /-- Every other entry is the old one, whatever it is kept under. -/
  held?_of_ne : ∀ x, x ≠ a.target → t'.held? x = t.held? x
  /-- The entry is noted as changed by an admin, and every other note is the old one. -/
  provenance : ∀ path, t'.provenance.get? path =
    if path = a.target.path then some ⟨path, .admin⟩ else t.provenance.get? path
  /-- The change is counted. -/
  revision : t'.revision.toNat = min (t.revision.toNat + 1) (2 ^ 64 - 1)

variable (t : Tables) (a : Amendment)

@[simp] theorem target_change : (a.change t).target = a.target := by
  cases a <;> rfl

theorem held?_amend (x : Target) :
    (t.amend a).held? x = if x = a.target then some (a.change t) else t.held? x := by
  rw [amend_eq_apply, held?_apply, target_change]

theorem provenance_amend :
    (t.amend a).provenance = t.provenance.insert a.target.path ⟨a.target.path, .admin⟩ := by
  cases a <;> rfl

/-- What is answered depends on the entry that is asked about and, where there is none, on the
number of seats of all other modalities. -/
theorem answer_congr {t t' : Tables} (q : Question α)
    (hentry : t'.held? q.target = t.held? q.target)
    (hdefault : t'.capacity.defaultLimit = t.capacity.defaultLimit) :
    t'.answer q = t.answer q := by
  cases q with
  | allowedRoles resource =>
    simp only [Question.target] at hentry
    simp only [answer, allowedRoles_eq, hentry]
  | permissions role =>
    simp only [Question.target] at hentry
    simp only [answer, permissions_eq, hentry]
  | hasPermission role permission =>
    simp only [Question.target] at hentry
    simp only [answer, hasPermission, permissions_eq, hentry]
  | hasAllPermissions role =>
    simp only [Question.target] at hentry
    simp only [answer, hasAllPermissions, hasPermission, permissions_eq, hentry]
  | requiredPermission action =>
    simp only [Question.target] at hentry
    simp only [answer, requiredPermission_eq, hentry]
  | seatLimit modality =>
    simp only [Question.target] at hentry
    simp only [answer, seatLimit_eq, hentry, hdefault]
  | defaultLimit => exact hdefault
  | unresolvedCourse =>
    simp only [held?, Question.target, Option.some.injEq, Change.unresolvedCourse.injEq] at hentry
    exact hentry

theorem answer_amend_of_ne (q : Question α) (h : q.target ≠ a.target) :
    (t.amend a).answer q = t.answer q := by
  have hentry : (t.amend a).held? q.target = t.held? q.target := by rw [held?_amend, if_neg h]
  have hdefault : (t.amend a).capacity.defaultLimit = t.capacity.defaultLimit := by
    cases a <;> rfl
  exact answer_congr q hentry hdefault

theorem takesEffect_amend : a.TakesEffect t (t.amend a) := by
  cases a with
  | openResource resource roles =>
    intro other hother
    refine ⟨((t.allowedRoles other).getD .empty).addAll roles, ?_, fun r => ?_⟩
    · have hsame : t.allowedRoles other = t.allowedRoles resource := by
        rw [allowedRoles, allowedRoles, hother]
      have hwrite := t.allowedRoles_openResource resource other roles
      rw [if_pos hother, ← hsame] at hwrite
      exact hwrite
    · rw [RoleSet.contains_addAll, Bool.or_eq_true, List.contains_iff_mem]
      cases t.allowedRoles other with
      | none => cases r <;> simp [RoleSet.empty, RoleSet.contains]
      | some before => simp
  | grant role permissions =>
    refine ⟨((t.permissions role).getD .empty).addAll permissions, ?_, fun p => ?_⟩
    · exact (RoleMap.get?_set ..).trans (if_pos rfl)
    · rw [TextSet.contains_addAll, Bool.or_eq_true, List.contains_iff_mem]
      cases t.permissions role with
      | none => simp [Table.contains]
      | some before => simp
  | require action permission =>
    intro other hother
    have hget := Table.get?_insert t.actionPermissions (actionKey action) (actionKey other)
      permission
    rw [if_pos hother] at hget
    exact hget
  | limitSeats modality limit =>
    intro other hother
    have hwrite := t.seatLimit_limitSeats modality other limit
    rw [if_pos hother] at hwrite
    exact hwrite
  | treatUnresolved policy => rfl

/-- **An amendment is about its entry** and about nothing else. -/
theorem amended_amend : t.Amended a (t.amend a) where
  takesEffect := t.takesEffect_amend a
  answer_of_ne q h := t.answer_amend_of_ne a q h
  held?_of_ne x h := by rw [held?_amend, if_neg h]
  provenance path := by
    rw [provenance_amend, Table.get?_insert]
    split
    · next h => rw [h]
    · rfl
  revision := by rw [amend_eq_apply, toNat_revision_apply]

end Tables

/-! ### Amendments that only add -/

/-- The amendment adds to a set: roles to those of a resource, or permissions to those of a role. -/
def Amendment.Adds : Amendment → Prop
  | openResource _ _ | grant _ _ => True
  | require _ _ | limitSeats _ _ | treatUnresolved _ => False

instance : DecidablePred Amendment.Adds
  | .openResource _ _ | .grant _ _ => .isTrue trivial
  | .require _ _ | .limitSeats _ _ | .treatUnresolved _ => .isFalse id

theorem RoleSet.addAll_right_comm (s : RoleSet) (xs ys : List Role) :
    (s.addAll xs).addAll ys = (s.addAll ys).addAll xs := by
  refine ext_contains fun r => ?_
  simp only [contains_addAll]
  exact Bool.or_right_comm ..

theorem RoleSet.addAll_addAll_self (s : RoleSet) (xs : List Role) :
    (s.addAll xs).addAll xs = s.addAll xs := by
  refine ext_contains fun r => ?_
  rw [contains_addAll, contains_addAll, Bool.or_assoc, Bool.or_self]

theorem TextSet.addAll_right_comm (s : TextSet) (xs ys : List String) :
    (s.addAll xs).addAll ys = (s.addAll ys).addAll xs := by
  refine ext_contains fun text => ?_
  simp only [contains_addAll]
  exact Bool.or_right_comm ..

theorem TextSet.addAll_addAll_self (s : TextSet) (xs : List String) :
    (s.addAll xs).addAll xs = s.addAll xs := by
  refine ext_contains fun text => ?_
  rw [contains_addAll, contains_addAll, Bool.or_assoc, Bool.or_self]

namespace Tables

variable {t : Tables} {a : Amendment}

theorem write_right_comm (ha : a.Adds) (t : Tables) (b : Amendment) :
    (t.write a).write b = (t.write b).write a := by
  cases a with
  | openResource resource roles =>
    cases b with
    | openResource other more =>
      refine congrArg (fun resources => { t with resourceRoles := resources }) ?_
      by_cases h : Text.trim resource = Text.trim other
      · simp only [write, ← h, Table.get?_insert, if_pos, Option.getD_some, Table.insert_insert]
        rw [RoleSet.addAll_right_comm]
      · simp only [write, Table.get?_insert, if_neg h, if_neg (Ne.symm h)]
        exact Table.insert_right_comm _ h ..
    | _ => rfl
  | grant role permissions =>
    cases b with
    | grant other more =>
      refine congrArg (fun held => { t with rolePermissions := held }) ?_
      refine RoleMap.ext_get? fun r => ?_
      simp only [write, RoleMap.get?_set]
      by_cases h : role = other
      · subst h
        simp only [if_pos, Option.getD_some]
        rw [TextSet.addAll_right_comm]
        split <;> rfl
      · simp only [if_neg h, if_neg (Ne.symm h)]
        by_cases hr : r = other
        · rw [if_pos hr, if_neg fun hrole => h (hrole.symm.trans hr), if_pos hr]
        · rw [if_neg hr, if_neg hr]
    | _ => rfl
  | _ => exact ha.elim

theorem write_write_self (ha : a.Adds) (t : Tables) : (t.write a).write a = t.write a := by
  cases a with
  | openResource resource roles =>
    refine congrArg (fun resources => { t with resourceRoles := resources }) ?_
    simp only [write, Table.get?_insert, if_pos, Option.getD_some, Table.insert_insert]
    rw [RoleSet.addAll_addAll_self]
  | grant role permissions =>
    refine congrArg (fun held => { t with rolePermissions := held }) ?_
    refine RoleMap.ext_get? fun r => ?_
    simp only [write, RoleMap.get?_set, if_pos, Option.getD_some]
    rw [TextSet.addAll_addAll_self]
    split <;> rfl
  | _ => exact ha.elim

theorem write_record (t : Tables) (x : Target) (source : Source) (b : Amendment) :
    (t.record x source).write b = (t.write b).record x source := by
  cases b <;> rfl

/-- **An amendment that only adds** can be made earlier or later. -/
theorem amend_right_comm (ha : a.Adds) (t : Tables) (b : Amendment) :
    (t.amend a).amend b = (t.amend b).amend a := by
  simp only [amend, write_record]
  rw [write_right_comm ha, record_right_comm]

/-- The tables hold all that an amendment adds, and the entry is noted as changed by an admin. -/
structure Includes (t : Tables) (a : Amendment) : Prop where
  /-- Nothing is left to be added. -/
  write_eq : t.write a = t
  /-- The entry is noted. -/
  noted : t.provenance.get? a.target.path = some ⟨a.target.path, .admin⟩

theorem includes_amend (ha : a.Adds) (t : Tables) : (t.amend a).Includes a where
  write_eq := by rw [amend, write_record, write_write_self ha]
  noted := by rw [provenance_amend, Table.get?_insert, if_pos rfl]

theorem Includes.amend (h : t.Includes a) (ha : a.Adds) (b : Amendment) :
    (t.amend b).Includes a where
  write_eq := by rw [Tables.amend, write_record, ← write_right_comm ha, h.write_eq]
  noted := by
    rw [provenance_amend, Table.get?_insert]
    split
    · next hpath => rw [hpath]
    · exact h.noted

/-- **An amendment that adds nothing new** is counted and leaves all else as it was. -/
theorem Includes.amend_eq (h : t.Includes a) :
    t.amend a = { t with revision := (t.amend a).revision } := by
  rw [Tables.amend, h.write_eq, record, setProvenance]
  exact congrArg (fun notes => { t.raiseRevision with provenance := notes })
    (Table.insert_eq_self _ h.noted)

/-! ### Amendments in a row -/

variable (t) (steps : List Amendment)

theorem amendAll_append (later : List Amendment) :
    t.amendAll (steps ++ later) = (t.amendAll steps).amendAll later :=
  List.foldl_append ..

theorem answer_amendAll_of_forall_ne (q : Question α) (h : ∀ a ∈ steps, q.target ≠ a.target) :
    (t.amendAll steps).answer q = t.answer q := by
  induction steps generalizing t with
  | nil => rfl
  | cons a steps ih =>
    obtain ⟨ha, hsteps⟩ := List.forall_mem_cons.1 h
    exact (ih (t.amend a) hsteps).trans (t.answer_amend_of_ne a q ha)

/-- **The entries that are amended** are noted as changed by an admin, and all other notes are the
old ones. -/
theorem get?_provenance_amendAll (path : String) :
    (t.amendAll steps).provenance.get? path =
      if path ∈ steps.map (·.target.path) then some ⟨path, .admin⟩
      else t.provenance.get? path := by
  induction steps generalizing t with
  | nil => rfl
  | cons a steps ih =>
    have hstep := (t.amended_amend a).provenance path
    change ((t.amend a).amendAll steps).provenance.get? path = _
    rw [ih, hstep, List.map_cons]
    by_cases hlater : path ∈ steps.map (·.target.path)
    · rw [if_pos hlater, if_pos (List.mem_cons_of_mem _ hlater)]
    · by_cases hpath : path = a.target.path
      · rw [if_neg hlater, if_pos hpath, if_pos (hpath ▸ List.mem_cons_self)]
      · rw [if_neg hlater, if_neg hpath, if_neg (List.not_mem_cons_of_ne_of_not_mem hpath hlater)]

theorem toNat_revision_amendAll :
    (t.amendAll steps).revision.toNat = min (t.revision.toNat + steps.length) (2 ^ 64 - 1) := by
  induction steps generalizing t with
  | nil =>
    have hlt := t.revision.toNat_lt
    simp only [amendAll, List.foldl_nil, List.length_nil]
    omega
  | cons a steps ih =>
    change ((t.amend a).amendAll steps).revision.toNat = _
    rw [ih, (t.amended_amend a).revision, List.length_cons]
    omega

/-- All roles and permissions in the first tables are in the second ones. -/
structure Within (t t' : Tables) : Prop where
  /-- The roles of a resource. -/
  roles : ∀ resource before, t.allowedRoles resource = some before →
    ∃ after, t'.allowedRoles resource = some after ∧
      ∀ r, before.contains r = true → after.contains r = true
  /-- The permissions of a role. -/
  permissions : ∀ role before, t.permissions role = some before →
    ∃ after, t'.permissions role = some after ∧
      ∀ p, before.contains p = true → after.contains p = true

variable {t}

theorem Within.refl (t : Tables) : t.Within t where
  roles _ before h := ⟨before, h, fun _ => id⟩
  permissions _ before h := ⟨before, h, fun _ => id⟩

theorem Within.trans {t' t'' : Tables} (h : t.Within t') (h' : t'.Within t'') : t.Within t'' where
  roles resource before hbefore := by
    obtain ⟨between, hbetween, hle⟩ := h.roles resource before hbefore
    obtain ⟨after, hafter, hle'⟩ := h'.roles resource between hbetween
    exact ⟨after, hafter, fun r hr => hle' r (hle r hr)⟩
  permissions role before hbefore := by
    obtain ⟨between, hbetween, hle⟩ := h.permissions role before hbefore
    obtain ⟨after, hafter, hle'⟩ := h'.permissions role between hbetween
    exact ⟨after, hafter, fun p hp => hle' p (hle p hp)⟩

theorem within_amend (t : Tables) (a : Amendment) : t.Within (t.amend a) where
  roles resource before hbefore := by
    have hother := t.answer_amend_of_ne a (.allowedRoles resource)
    have heffect := t.takesEffect_amend a
    cases a with
    | openResource opened roles =>
      by_cases h : Text.trim resource = Text.trim opened
      · obtain ⟨after, hafter, hmem⟩ := heffect resource h
        exact ⟨after, hafter, fun r hr => (hmem r).2 (.inl ⟨before, hbefore, hr⟩)⟩
      · have hsame := hother fun htarget => h (Target.resource.inj htarget)
        exact ⟨before, hsame.trans hbefore, fun _ => id⟩
    | _ => exact ⟨before, (hother nofun).trans hbefore, fun _ => id⟩
  permissions role before hbefore := by
    have hother := t.answer_amend_of_ne a (.permissions role)
    have heffect := t.takesEffect_amend a
    cases a with
    | grant holder permissions =>
      by_cases h : role = holder
      · subst h
        obtain ⟨after, hafter, hmem⟩ := heffect
        exact ⟨after, hafter, fun p hp => (hmem p).2 (.inl ⟨before, hbefore, hp⟩)⟩
      · have hsame := hother fun htarget => h (Target.role.inj htarget)
        exact ⟨before, hsame.trans hbefore, fun _ => id⟩
    | _ => exact ⟨before, (hother nofun).trans hbefore, fun _ => id⟩

/-- **No role and no permission is ever taken away.** -/
theorem within_amendAll (t : Tables) (steps : List Amendment) : t.Within (t.amendAll steps) := by
  induction steps generalizing t with
  | nil => exact .refl t
  | cons a steps ih => exact (within_amend t a).trans (ih (t.amend a))

variable {steps}

/-- **Amendments that only add can be made in any order.** -/
theorem amendAll_perm (t : Tables) {steps' : List Amendment} (hadds : ∀ a ∈ steps, a.Adds)
    (hperm : steps.Perm steps') : t.amendAll steps = t.amendAll steps' :=
  hperm.foldl_eq' (fun _ ha b _ t => amend_right_comm (hadds _ ha) t b) t

theorem Includes.amendAll (h : t.Includes a) (ha : a.Adds) (steps : List Amendment) :
    (t.amendAll steps).Includes a := by
  induction steps generalizing t with
  | nil => exact h
  | cons b steps ih => exact ih (h.amend ha b)

theorem includes_amendAll (t : Tables) (hmem : a ∈ steps) (ha : a.Adds) :
    (t.amendAll steps).Includes a := by
  obtain ⟨earlier, later, rfl⟩ := List.append_of_mem hmem
  rw [amendAll_append]
  exact (includes_amend ha _).amendAll ha later

/-- What amendments in a row come to. -/
structure Exact (t : Tables) (steps : List Amendment) : Prop where
  /-- Each of them is about its entry and about nothing else, whatever was amended before. -/
  each : ∀ earlier a later, steps = earlier ++ a :: later →
    (t.amendAll earlier).Amended a (t.amendAll (earlier ++ [a]))
  /-- Questions that none of them is about are answered as before. -/
  answer : ∀ {α : Type} (q : Question α), (∀ a ∈ steps, q.target ≠ a.target) →
    (t.amendAll steps).answer q = t.answer q
  /-- The entries that they are about, and no others, are noted as changed by an admin. -/
  provenance : ∀ path, (t.amendAll steps).provenance.get? path =
    if path ∈ steps.map (·.target.path) then some ⟨path, .admin⟩ else t.provenance.get? path
  /-- All of them are counted, as long as the number can grow. -/
  revision : (t.amendAll steps).revision.toNat =
    min (t.revision.toNat + steps.length) (2 ^ 64 - 1)
  /-- None of them takes a role or a permission away. -/
  within : t.Within (t.amendAll steps)
  /-- Those that only add can be made in any order. -/
  order : (∀ a ∈ steps, a.Adds) → ∀ steps', steps.Perm steps' →
    t.amendAll steps = t.amendAll steps'
  /-- One that only adds, when it was made before, is counted again and changes nothing else. -/
  again : ∀ a ∈ steps, a.Adds → t.amendAll (steps ++ [a]) =
    { t.amendAll steps with revision := (t.amendAll (steps ++ [a])).revision }

/-- **Amendments in a row are exact.**  Each is about its own entry, all are counted, and those that
add to a set never take from it and depend neither on their order nor on how often they are made. -/
theorem exact_amendAll (t : Tables) (steps : List Amendment) : t.Exact steps where
  each earlier a _ _ := by
    rw [amendAll_append]
    exact (t.amendAll earlier).amended_amend a
  answer q h := t.answer_amendAll_of_forall_ne steps q h
  provenance path := t.get?_provenance_amendAll steps path
  revision := t.toNat_revision_amendAll steps
  within := within_amendAll t steps
  order hadds _ hperm := amendAll_perm t hadds hperm
  again a hmem ha := by
    rw [amendAll_append]
    exact (includes_amendAll t hmem ha).amend_eq

end Tables

end Registrar
