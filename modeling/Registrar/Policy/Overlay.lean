import Registrar.Markup
import Registrar.Policy.Change

/-!
# Policy files

A policy file, and the variable that holds a policy, is an overlay: lists of roles, permissions
and seat limits that replace entries of the tables.  `Overlay.read?` reads one in any format and
`Overlay.changes` gives the changes that it asks for, in order: resources, roles, actions, seat
limits, and within each of them by the name as it is written in the file.
-/

namespace Registrar

/-- What an overlay says about seats. -/
structure CapacityOverlay where
  /-- Seat limits by the name of a modality. -/
  limits : Table String UInt32
  /-- The seat limit of all other modalities. -/
  defaultLimit : Option UInt32
  /-- What happens to enrollments in courses that cannot be found. -/
  unresolvedCourse : Option UnresolvedCourse
  deriving DecidableEq

/-- What a policy file says, in the words of the file. -/
structure Overlay where
  /-- Names of roles, by the name of a resource. -/
  resourceRoles : Table String (List String)
  /-- Permissions, by the name of a role. -/
  rolePermissions : Table String (List String)
  /-- A permission, by the name of an action. -/
  actionPermissions : Table String String
  /-- What is said about seats. -/
  capacity : Option CapacityOverlay
  deriving DecidableEq

open Markup in
/-- What a part of a file says about seats. -/
def CapacityOverlay.read? {δ : Type} [Markup δ] (d : δ) : Option CapacityOverlay := do
  let fields ← record? ["limits", "default_limit", "unresolved_course"] d
  let limits ← fieldOr fields "limits" (entriesOf? word32?) []
  let defaultLimit ← fieldOpt fields "default_limit" word32?
  let unresolvedCourse ← fieldOpt fields "unresolved_course" fun d =>
    (choice? d).bind UnresolvedCourse.named?
  return ⟨.ofList limits, defaultLimit, unresolvedCourse⟩

namespace Overlay

open Markup in
/-- What a file says.  Every field may be missing and no others may be there. -/
def read? {δ : Type} [Markup δ] (d : δ) : Option Overlay := do
  let fields ←
    record? ["resource_roles", "role_permissions", "action_permissions", "capacity"] d
  let resources ← fieldOr fields "resource_roles" (entriesOf? (listOf? text?)) []
  let roles ← fieldOr fields "role_permissions" (entriesOf? (listOf? text?)) []
  let actions ← fieldOr fields "action_permissions" (entriesOf? text?) []
  let capacity ← fieldOpt fields "capacity" CapacityOverlay.read?
  return ⟨.ofList resources, .ofList roles, .ofList actions, capacity⟩

/-- The role with a name. -/
def role (name : String) : Except LoadError Role :=
  (Role.read name).mapError fun e => .invalidValue (.unknownRole e)

/-- The change of the roles of a resource. -/
def resourceChange (resource : String) (roles : List String) : Except LoadError Change := do
  return .resource (Text.trim resource) (.ofList (← roles.mapM role))

/-- The change of the permissions of a role. -/
def roleChange (name : String) (permissions : List String) : Except LoadError Change := do
  return .role (← role name) (.ofList (permissions.map Text.trim))

/-- The change of the permission of an action. -/
def actionChange (action permission : String) : Except LoadError Change :=
  .ok (.action (actionKey action) (Text.trim permission))

/-- The changes of seat limits. -/
def capacityChanges (c : CapacityOverlay) : Except LoadError (List Change) := do
  let limits ← c.limits.entries.mapM fun (modality, seats) => limitChange modality (.ok seats)
  return limits ++ (c.defaultLimit.map .defaultLimit).toList ++
    (c.unresolvedCourse.map .unresolvedCourse).toList

/-- The changes that an overlay asks for, in the order in which they are made. -/
def changes (o : Overlay) : Except LoadError (List Change) := do
  let resources ← o.resourceRoles.entries.mapM fun (k, v) => resourceChange k v
  let roles ← o.rolePermissions.entries.mapM fun (k, v) => roleChange k v
  let actions ← o.actionPermissions.entries.mapM fun (k, v) => actionChange k v
  let seats ← match o.capacity with
    | some c => capacityChanges c
    | none => .ok []
  return resources ++ roles ++ actions ++ seats

end Overlay

end Registrar
