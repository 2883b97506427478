import Registrar.Json.Writer
import Registrar.Policy.Tables

/-!
# Changes by policy files and variables

Policy files and variables replace entries of the tables.  A `Change` is one such replacement
with everything about it already normalised, so that carrying it out cannot fail;
`Tables.apply` carries it out and notes it.  `LoadError` lists what can be wrong with a file or a
variable.
-/

namespace Registrar

/-- What is wrong with a value in a file or a variable. -/
inductive ValueError where
  /-- No role has this name. -/
  | unknownRole (error : UnknownRole)
  /-- The value is no whole number. -/
  | notInteger (value : Json)
  /-- The number does not fit 32 bits. -/
  | tooLarge (value : Int)
  /-- The value does not say what happens to courses that cannot be found. -/
  | notTreatment (value : Json)

/-- What the caller is told. -/
def ValueError.message : ValueError → String
  | unknownRole e => e.message
  | notInteger v => "expected integer, got " ++ v.compact
  | tooLarge n => "value " ++ Text.numeral n ++ " exceeds u32"
  | notTreatment v => "expected \"allow\" or \"reject\", got " ++ v.compact

/-- Why policy tables cannot be loaded. -/
inductive LoadError where
  /-- A file or a variable does not hold a policy. -/
  | malformed
  /-- No text can be read from a file. -/
  | unreadable
  /-- There is no entry at a path. -/
  | unsupportedPath (path : String)
  /-- An entry cannot have a value. -/
  | invalidValue (error : ValueError)

/-- What the caller is told.  What follows the colon of the first two is not said here. -/
def LoadError.message : LoadError → String
  | malformed => "invalid policy:"
  | unreadable => "io error:"
  | unsupportedPath path => "unsupported policy path: " ++ path
  | invalidValue e => "invalid value: " ++ e.message

/-- The replacement of one entry of the tables. -/
inductive Change where
  /-- The roles that a resource, given trimmed, is open to. -/
  | resource (name : String) (roles : RoleSet)
  /-- The permissions that a role holds. -/
  | role (role : Role) (permissions : TextSet)
  /-- The permission that an action, given as `actionKey`, needs. -/
  | action (verb permission : String)
  /-- The seat limit of the modality with this key. -/
  | limit (key : String) (seats : UInt32)
  /-- The seat limit of all other modalities. -/
  | defaultLimit (seats : UInt32)
  /-- What happens to enrollments in courses that cannot be found. -/
  | unresolvedCourse (policy : UnresolvedCourse)
  deriving DecidableEq

/-- The entry that is replaced. -/
def Change.target : Change → Target
  | resource name _ => .resource name
  | role r _ => .role r
  | action verb _ => .action verb
  | limit key _ => .limit key
  | defaultLimit _ => .defaultLimit
  | unresolvedCourse _ => .unresolvedCourse

namespace Tables

/-- The tables with an entry replaced, without a note of the change. -/
def put (t : Tables) : Change → Tables
  | .resource name roles => { t with resourceRoles := t.resourceRoles.insert name roles }
  | .role role permissions =>
    { t with rolePermissions := t.rolePermissions.set role permissions }
  | .action verb permission =>
    { t with actionPermissions := t.actionPermissions.insert verb permission }
  | .limit key seats => { t with capacity.limits := t.capacity.limits.insert key seats }
  | .defaultLimit seats => { t with capacity.defaultLimit := seats }
  | .unresolvedCourse policy => { t with capacity.unresolvedCourse := policy }

/-- The tables with an entry replaced by a source. -/
def apply (t : Tables) (source : Source) (c : Change) : Tables := (t.put c).record c.target source

/-- The tables after changes by a source, one after the other. -/
def applyAll (t : Tables) (source : Source) (cs : List Change) : Tables :=
  cs.foldl (·.apply source ·) t

end Tables

/-- The seat limit of a modality that is named by a text; the text may not be empty. -/
def limitChange (modality : String) (seats : Except LoadError UInt32) : Except LoadError Change :=
  if modality = "" then .error (.unsupportedPath "capacity.limits.")
  else do return .limit (Modality.read modality).key (← seats)

end Registrar
