import Mathlib.Algebra.Group.Nat.Defs
import Registrar.Policy.Builtin
import Registrar.Policy.Change

/-!
# The tables, entry by entry

A change replaces one entry of the tables, and with it go the note of where the entry came from and
the count of the changes.  All that the tables answer is read off their entries, so what changes do
to the answers is said once, for entries.

* `Target.path_injective`: different entries are noted under different paths.
* `Tables.held?`: the entry at a target, as the change that writes it; `Tables.allowedRoles_eq` and
  its kin read the answers off it.
* `Tables.held?_apply`, `Tables.get?_provenance_apply`, `Tables.toNat_revision_apply`: **a change
  replaces its entry and the note of it, leaves all others as they are, and is counted.**
* `Tables.held?_initial`, `Tables.get?_provenance_initial`: what there is before any change.
-/

namespace Registrar

/-! ### Paths -/

theorem Role.name_injective {r q : Role} (h : r.name = q.name) : r = q := by
  cases r <;> cases q <;> first | rfl | simp [Role.name] at h

namespace Target

/-- What the paths of all entries of a kind begin with. -/
def field : Target → String
  | resource _ => "resource_roles."
  | role _ => "role_permissions."
  | action _ => "action_permissions."
  | limit _ => "capacity.limits."
  | defaultLimit => "capacity.default_limit"
  | unresolvedCourse => "capacity.unresolved_course"

/-- The kind of an entry shows in the first ten characters of its path. -/
theorem take_path (x : Target) : x.path.toList.take 10 = x.field.toList.take 10 := by
  have take_append (s u : String) (h : 10 ≤ s.toList.length) :
      (s ++ u).toList.take 10 = s.toList.take 10 := by
    rw [String.toList_append, List.take_append_of_le_length h]
  cases x with
  | resource name => exact take_append "resource_roles." name (by decide)
  | role r => exact take_append "role_permissions." r.name (by decide)
  | action verb => exact take_append "action_permissions." verb (by decide)
  | limit key => exact take_append "capacity.limits." key (by decide)
  | defaultLimit => rfl
  | unresolvedCourse => rfl

/-- **Different entries have different paths.** -/
theorem path_injective {x y : Target} (h : x.path = y.path) : x = y := by
  have hfield : x.field.toList.take 10 = y.field.toList.take 10 := by
    rw [← take_path, ← take_path, h]
  -- Entries of different kinds are told apart by the field, those of one kind by what follows it.
  cases x <;> cases y <;> simp [field] at hfield
  · exact congrArg resource ((String.append_right_inj _).1 h)
  · exact congrArg role (Role.name_injective ((String.append_right_inj _).1 h))
  · exact congrArg action ((String.append_right_inj _).1 h)
  · exact congrArg limit ((String.append_right_inj _).1 h)
  · rfl
  · rfl

end Target

/-! ### What a change writes -/

namespace Change

/-- The roles, when it is a resource that is changed. -/
def roles? : Change → Option RoleSet
  | resource _ roles => some roles
  | _ => none

/-- The permissions, when it is a role that is changed. -/
def permissions? : Change → Option TextSet
  | role _ permissions => some permissions
  | _ => none

/-- The permission, when it is an action that is changed. -/
def permission? : Change → Option String
  | action _ permission => some permission
  | _ => none

/-- The number of seats, when it is a limit that is changed. -/
def seats? : Change → Option UInt32
  | limit _ seats | defaultLimit seats => some seats
  | _ => none

/-- What happens from now on to courses that cannot be found, when it is that which is changed. -/
def treatment? : Change → Option UnresolvedCourse
  | unresolvedCourse policy => some policy
  | _ => none

end Change

namespace Tables

/-! ### The answers, read off the entries -/

/-- The entry at a target, as the change that writes it. -/
def held? (t : Tables) : Target → Option Change
  | .resource name => (t.resourceRoles.get? name).map (.resource name)
  | .role r => (t.rolePermissions.get? r).map (.role r)
  | .action verb => (t.actionPermissions.get? verb).map (.action verb)
  | .limit key => (t.capacity.limits.get? key).map (.limit key)
  | .defaultLimit => some (.defaultLimit t.capacity.defaultLimit)
  | .unresolvedCourse => some (.unresolvedCourse t.capacity.unresolvedCourse)

section Answers

variable (t : Tables)

theorem allowedRoles_eq (resource : String) :
    t.allowedRoles resource = (t.held? (.resource (Text.trim resource))).bind (·.roles?) := by
  rw [allowedRoles, held?]
  cases t.resourceRoles.get? (Text.trim resource) <;> rfl

theorem permissions_eq (role : Role) :
    t.permissions role = (t.held? (.role role)).bind (·.permissions?) := by
  rw [permissions, held?]
  cases t.rolePermissions.get? role <;> rfl

theorem requiredPermission_eq (action : String) :
    t.requiredPermission action = (t.held? (.action (actionKey action))).bind (·.permission?) := by
  rw [requiredPermission, held?]
  cases t.actionPermissions.get? (actionKey action) <;> rfl

theorem seatLimit_eq (modality : Modality) :
    t.seatLimit modality =
      ((t.held? (.limit modality.key)).bind (·.seats?)).getD t.capacity.defaultLimit := by
  rw [seatLimit, held?]
  cases t.capacity.limits.get? modality.key <;> rfl

end Answers

/-! ### One change -/

variable (t : Tables) (source : Source) (c : Change)

/-- **A change replaces its entry** and no other. -/
theorem held?_apply (target : Target) :
    (t.apply source c).held? target = if target = c.target then some c else t.held? target := by
  -- Only entries of the same kind can be the same entry, and only of these anything is left to say.
  cases c <;> cases target <;>
    simp [apply, put, record, raiseRevision, setProvenance, held?, Change.target, Table.get?_insert,
      RoleMap.get?_set]
  all_goals
    split
    · simp_all
    · rfl

theorem get?_provenance_apply (target : Target) :
    (t.apply source c).provenance.get? target.path =
      if target = c.target then some ⟨target.path, source⟩
      else t.provenance.get? target.path := by
  have hprovenance : (t.apply source c).provenance =
      t.provenance.insert c.target.path ⟨c.target.path, source⟩ := by
    cases c <;> rfl
  rw [hprovenance, Table.get?_insert]
  by_cases h : target = c.target
  · rw [if_pos h, if_pos (congrArg Target.path h), h]
  · rw [if_neg h, if_neg fun hpath => h (Target.path_injective hpath)]

/-- **A change is counted**, as long as the number can grow. -/
theorem toNat_revision_apply :
    (t.apply source c).revision.toNat = min (t.revision.toNat + 1) (2 ^ 64 - 1) := by
  have hrevision : (t.apply source c).revision = t.raiseRevision.revision := by
    cases c <;> rfl
  have hlt := t.revision.toNat_lt
  rw [hrevision, raiseRevision]
  dsimp only
  split
  · next h => simp [h]
  · next h =>
    have hne : t.revision.toNat ≠ 2 ^ 64 - 1 := fun hn => h (UInt64.toNat_inj.1 hn)
    rw [UInt64.toNat_add]
    simp
    omega

/-! ### Before any change -/

/-- The notes of where the built-in entries came from change nothing else. -/
theorem initial_eq {α : Type} {q : Tables → α}
    (h : ∀ t path source, q (t.setProvenance path source) = q t) : q initial = q builtin := by
  have hkeep (targets : List Target) (t : Tables) :
      q (targets.foldl (fun t target => t.setProvenance target.path .builtin) t) = q t := by
    induction targets generalizing t with
    | nil => rfl
    | cons x xs ih => rw [List.foldl_cons, ih, h]
  exact hkeep builtin.targets builtin

theorem held?_initial : initial.held? = builtin.held? := initial_eq fun _ _ _ => rfl

theorem revision_initial : initial.revision = 1 := initial_eq (q := revision) fun _ _ _ => rfl

/-- All built-in entries, and no others, are noted as built in. -/
theorem get?_provenance_initial (target : Target) :
    initial.provenance.get? target.path =
      if target ∈ builtin.targets then some ⟨target.path, .builtin⟩ else none := by
  have hnoted (targets : List Target) (t : Tables) :
      (targets.foldl (fun t target => t.setProvenance target.path .builtin) t).provenance.get?
          target.path =
        if target ∈ targets then some ⟨target.path, .builtin⟩
        else t.provenance.get? target.path := by
    induction targets generalizing t with
    | nil => rfl
    | cons x xs ih =>
      rw [List.foldl_cons, ih]
      by_cases hxs : target ∈ xs
      · simp [hxs]
      · by_cases hx : target = x
        · simp [hx, setProvenance, Table.get?_insert]
        · have hpath : target.path ≠ x.path := fun hpath => hx (Target.path_injective hpath)
          simp [hxs, hx, hpath, setProvenance, Table.get?_insert]
  exact hnoted builtin.targets builtin

end Tables

end Registrar
