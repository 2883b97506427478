import Registrar.Policy.Tables
import Registrar.Stage.Basic

/-!
# Access by role and by permission

Two stages ask the policy tables.  One refuses roles to which the resource is closed; the other
refuses roles that lack the permission the action needs.  What the tables do not mention is open
to all.
-/

namespace Registrar.Stage

/-- What the tables say about the role and the resource. -/
def roleReply (tables : Tables) (r : Request) : Reply :=
  match tables.allowedRoles r.resource with
  | none => .proceed r
  | some allowed =>
    match r.role with
    | none => .reject r .roleNotAuthorized ("no role resolved for resource '" ++ r.resource ++ "'")
    | some role =>
      if allowed.contains role then .proceed r
      else .reject r .roleNotAuthorized
        ("role '" ++ role.name ++ "' is not allowed on resource '" ++ r.resource ++ "'")

/-- Refuses roles to which the resource is closed. -/
def role (tables : Tables) : Stage := .ofReply "role" (roleReply tables)

/-- What the tables say about the role and the action. -/
def permissionReply (tables : Tables) (r : Request) : Reply :=
  match r.role with
  | none => .reject r .permissionDenied
      ("no role resolved for " ++ r.action ++ " on '" ++ r.resource ++ "'")
  | some role =>
    if tables.hasAllPermissions role then .proceed r
    else match tables.requiredPermission r.action with
      | none => .proceed r
      | some required =>
        if tables.hasPermission role required then .proceed r
        else .reject r .permissionDenied
          ("role '" ++ role.name ++ "' may not " ++ r.action ++ " on '" ++ r.resource ++
            "': missing permission '" ++ required ++ "'")

/-- Refuses roles that lack the permission. -/
def permission (tables : Tables) : Stage := .ofReply "permission" (permissionReply tables)

end Registrar.Stage
