import Registrar.Text.Basic

/-!
# Roles

A subject acts in one of three roles.  `Role.read` accepts the names that people use for them;
`RoleSet` and `RoleMap` are the sets of roles and the maps from roles, which need no search
because there are only three.
-/

namespace Registrar

/-- The role in which a subject acts. -/
inductive Role where
  /-- Takes courses. -/
  | student
  /-- Gives courses. -/
  | teacher
  /-- Runs the campus. -/
  | admin
  deriving DecidableEq, Inhabited

/-- No role has this name. -/
structure UnknownRole where
  /-- The name, trimmed and in lower case. -/
  name : String
  deriving DecidableEq

/-- What the caller is told. -/
def UnknownRole.message (e : UnknownRole) : String := "unknown role: " ++ e.name

namespace Role

/-- The roles, in the order in which they are listed. -/
def all : List Role := [student, teacher, admin]

/-- The name of a role. -/
def name : Role → String
  | student => "student"
  | teacher => "teacher"
  | admin => "admin"

/-- The role with this name, in any letter case and with blanks around it.  Professors are
teachers and administrators are admins. -/
def read (raw : String) : Except UnknownRole Role :=
  let word := Text.lowerAscii (Text.trim raw)
  if word = "student" then .ok student
  else if word = "teacher" ∨ word = "professor" then .ok teacher
  else if word = "admin" ∨ word = "administrator" then .ok admin
  else .error ⟨word⟩

/-- The role with exactly this name. -/
def named? (name : String) : Option Role := all.find? (·.name = name)

end Role

/-! ### Sets of roles -/

/-- A set of roles. -/
structure RoleSet where
  /-- Students are members. -/
  student : Bool
  /-- Teachers are members. -/
  teacher : Bool
  /-- Admins are members. -/
  admin : Bool
  deriving DecidableEq, Inhabited

namespace RoleSet

/-- The set without members. -/
def empty : RoleSet := ⟨false, false, false⟩

/-- The role is a member. -/
def contains (s : RoleSet) : Role → Bool
  | .student => s.student
  | .teacher => s.teacher
  | .admin => s.admin

/-- The set with one more member. -/
def add (s : RoleSet) : Role → RoleSet
  | .student => { s with student := true }
  | .teacher => { s with teacher := true }
  | .admin => { s with admin := true }

/-- The set with more members. -/
def addAll (s : RoleSet) (roles : List Role) : RoleSet := roles.foldl add s

/-- The set of the roles in a list. -/
def ofList (roles : List Role) : RoleSet := addAll empty roles

/-- The members, in the order of `Role.all`. -/
def toList (s : RoleSet) : List Role := Role.all.filter s.contains

theorem contains_add (s : RoleSet) (r q : Role) :
    (s.add r).contains q = (s.contains q || r == q) := by
  cases r <;> cases q <;> simp [add, contains]

theorem contains_addAll (s : RoleSet) (roles : List Role) (q : Role) :
    (s.addAll roles).contains q = (s.contains q || roles.contains q) := by
  induction roles generalizing s with
  | nil => simp [addAll]
  | cons r rs ih =>
    rw [addAll, List.foldl_cons, ← addAll, ih, contains_add, List.contains_cons, Bool.or_assoc,
      Bool.beq_comm (a := r)]

theorem ext_contains {s t : RoleSet} (h : ∀ r, s.contains r = t.contains r) : s = t := by
  obtain ⟨a, b, c⟩ := s
  obtain ⟨a', b', c'⟩ := t
  simp only [RoleSet.mk.injEq]
  exact ⟨h .student, h .teacher, h .admin⟩

end RoleSet

/-! ### Maps from roles -/

/-- A map that has a value for some of the roles. -/
structure RoleMap (α : Type) where
  /-- The value for students. -/
  student : Option α
  /-- The value for teachers. -/
  teacher : Option α
  /-- The value for admins. -/
  admin : Option α
  deriving DecidableEq, Inhabited

namespace RoleMap

variable {α : Type}

/-- The map without values. -/
def empty : RoleMap α := ⟨none, none, none⟩

/-- The value for a role, when there is one. -/
def get? (m : RoleMap α) : Role → Option α
  | .student => m.student
  | .teacher => m.teacher
  | .admin => m.admin

/-- The map with the value for a role set. -/
def set (m : RoleMap α) (r : Role) (v : α) : RoleMap α :=
  match r with
  | .student => { m with student := some v }
  | .teacher => { m with teacher := some v }
  | .admin => { m with admin := some v }

/-- The roles that have a value, with it, in the order of `Role.all`. -/
def entries (m : RoleMap α) : List (Role × α) :=
  Role.all.filterMap fun r => (m.get? r).map (r, ·)

theorem get?_set (m : RoleMap α) (r q : Role) (v : α) :
    (m.set r v).get? q = if q = r then some v else m.get? q := by
  cases r <;> cases q <;> simp [set, get?]

theorem get?_eq_some_iff {m : RoleMap α} {r : Role} {v : α} :
    m.get? r = some v ↔ (r, v) ∈ m.entries := by
  have hall : r ∈ Role.all := by cases r <;> decide
  simp [entries, hall]

theorem ext_get? {m n : RoleMap α} (h : ∀ r, m.get? r = n.get? r) : m = n := by
  obtain ⟨a, b, c⟩ := m
  obtain ⟨a', b', c'⟩ := n
  simp only [RoleMap.mk.injEq]
  exact ⟨h .student, h .teacher, h .admin⟩

end RoleMap

end Registrar
