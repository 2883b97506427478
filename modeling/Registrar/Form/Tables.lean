import Registrar.Form.Basic
import Registrar.Policy.Tables

/-!
# The JSON form of the policy tables

The tables are written as one record, their maps as objects and their sets as arrays in order.
Everything is read back except that the note of where entries came from may be missing.
-/

namespace Registrar

namespace UnresolvedCourse

/-- What happens is written as its name. -/
def toJson (p : UnresolvedCourse) : Json := .string p.name

/-- What happens, by its name. -/
def ofJson? (v : Json) : Option UnresolvedCourse := v.choice?.bind named?

end UnresolvedCourse

namespace Source

/-- A source is written as its name. -/
def toJson (s : Source) : Json := .string s.name

/-- The source with the given name. -/
def ofJson? (v : Json) : Option Source := v.choice?.bind fun name => all.find? (·.name = name)

end Source

namespace Provenance

/-- A note of where an entry came from is written as a record. -/
def toJson (p : Provenance) : Json :=
  .object [("path", .string p.path), ("source", p.source.toJson)]

/-- The note that is written. -/
def ofJson? (v : Json) : Option Provenance := do
  let fields ← v.fields? ["path", "source"] 0
  return ⟨← Markup.field? fields "path" Json.string?,
    ← Markup.field? fields "source" Source.ofJson?⟩

end Provenance

namespace Capacity

/-- Seats are written as a record. -/
def toJson (c : Capacity) : Json :=
  .object [("default_limit", .int c.defaultLimit.toNat),
    ("limits", .ofTable (c.limits.map fun n => .int n.toNat)),
    ("unresolved_course", c.unresolvedCourse.toJson)]

/-- What is written about seats. -/
def ofJson? (v : Json) : Option Capacity := do
  let fields ← v.fields? ["limits", "default_limit", "unresolved_course"] 0
  return {
    limits := ← Markup.field? fields "limits" (Json.tableOf? Markup.word32?)
    defaultLimit := ← Markup.field? fields "default_limit" Markup.word32?
    unresolvedCourse := ← Markup.field? fields "unresolved_course" UnresolvedCourse.ofJson? }

end Capacity

namespace RoleSet

/-- A set of roles is written as the array of its members. -/
def toJson (s : RoleSet) : Json := .array (s.toList.map Role.toJson)

/-- The set of the roles that are written. -/
def ofJson? (v : Json) : Option RoleSet := (v.listOf? Role.ofJson?).map ofList

end RoleSet

namespace TextSet

/-- A set of texts is written as the array of its members. -/
def toJson (s : TextSet) : Json := .strings s.toList

/-- The set of the texts that are written. -/
def ofJson? (v : Json) : Option TextSet := (v.listOf? Json.string?).map ofList

end TextSet

namespace Tables

/-- The map from roles is written as an object whose fields have the names of the roles. -/
def rolesToJson (m : RoleMap TextSet) : Json :=
  .ofTable (.ofList (m.entries.map fun (r, s) => (r.name, TextSet.toJson s)))

/-- The map from roles that is written. -/
def rolesOfJson? (v : Json) : Option (RoleMap TextSet) := do
  let entries ← (← v.object?).mapM fun (name, value) => do
    return (← Role.named? name, ← TextSet.ofJson? value)
  return entries.foldl (fun m e => m.set e.1 e.2) .empty

/-- The revision number that is written. -/
def revisionOfJson? (v : Json) : Option UInt64 :=
  v.integer?.bind fun n => if 0 ≤ n ∧ n ≤ 18446744073709551615 then some (.ofNat n.toNat) else none

/-- Tables are written as a record. -/
def toJson (t : Tables) : Json :=
  .object [("action_permissions", .ofTable (t.actionPermissions.map .string)),
    ("capacity", t.capacity.toJson),
    ("provenance", .ofTable (t.provenance.map Provenance.toJson)),
    ("resource_roles", .ofTable (t.resourceRoles.map RoleSet.toJson)),
    ("rev", .int t.revision.toNat),
    ("role_permissions", rolesToJson t.rolePermissions)]

/-- The tables that are written. -/
def ofJson? (v : Json) : Option Tables := do
  let fields ← v.fields?
    ["rev", "resource_roles", "role_permissions", "action_permissions", "capacity", "provenance"] 1
  return {
    revision := ← Markup.field? fields "rev" revisionOfJson?
    resourceRoles := ← Markup.field? fields "resource_roles" (Json.tableOf? RoleSet.ofJson?)
    rolePermissions := ← Markup.field? fields "role_permissions" rolesOfJson?
    actionPermissions := ← Markup.field? fields "action_permissions" (Json.tableOf? Json.string?)
    capacity := ← Markup.field? fields "capacity" Capacity.ofJson?
    provenance :=
      ← Markup.fieldOr fields "provenance" (Json.tableOf? Provenance.ofJson?) .empty }

end Tables

end Registrar
