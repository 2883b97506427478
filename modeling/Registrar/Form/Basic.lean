import Registrar.Json.Basic
import Registrar.Json.Markup
import Registrar.Role
import Registrar.Rejection
import Registrar.Subject

/-!
# JSON forms

How the things of this library are written as JSON values, and how they are read back.  A thing
that is one of several is written as its name, or as an object with one field if it carries
something; a record is written as an object and may be read from the array of its fields.
Fields that are not known are skipped.

Each type has `toJson` and `ofJson?`.
-/

namespace Registrar

/-- The fields of a record, by name; the last `spare` of the names need not be given. -/
def Json.fields? (names : List String) (spare : Nat) : Json → Option (List (String × Json))
  | .object fields =>
    let known := fields.filter (names.contains ·.1)
    if Markup.wellNamed names known then some known else none
  | .array items =>
    if names.length - spare ≤ items.length ∧ items.length ≤ names.length then
      some (names.zip items)
    else none
  | _ => none

/-- A list whose items are all read. -/
def Json.listOf? {α : Type} (read : Json → Option α) (v : Json) : Option (List α) :=
  v.array?.bind (·.mapM read)

/-- An object whose values are all read. -/
def Json.tableOf? {α : Type} (read : Json → Option α) (v : Json) : Option (Table String α) := do
  let entries ← (← v.object?).mapM fun (name, value) => (read value).map (name, ·)
  return .ofList entries

namespace Role

/-- A role is written as its name. -/
def toJson (r : Role) : Json := .string r.name

/-- The role with the given name; letter case matters. -/
def ofJson? (v : Json) : Option Role := v.choice?.bind named?

end Role

namespace PeriodIssue

/-- An issue is written as its name. -/
def toJson (i : PeriodIssue) : Json := .string i.code

/-- The issue with the given name. -/
def ofJson? (v : Json) : Option PeriodIssue :=
  v.choice?.bind fun name => all.find? (·.code = name)

end PeriodIssue

namespace RejectionKind

/-- A kind is written as its name, with the issue if it carries one. -/
def toJson : RejectionKind → Json
  | invalidPeriod issue => .object [("invalid_period", issue.toJson)]
  | kind => .string kind.code

/-- The kind that is written. -/
def ofJson? : Json → Option RejectionKind
  | .object [("invalid_period", issue)] => (PeriodIssue.ofJson? issue).map invalidPeriod
  | v => v.choice?.bind fun name => plain.find? (·.code = name)

end RejectionKind

namespace Rejection

/-- A refusal is written as its kind and its message. -/
def toJson (r : Rejection) : Json :=
  .object [("kind", r.kind.toJson), ("message", .string r.message)]

/-- The refusal that is written. -/
def ofJson? (v : Json) : Option Rejection := do
  let fields ← v.fields? ["kind", "message"] 0
  return ⟨← Markup.field? fields "kind" RejectionKind.ofJson?,
    ← Markup.field? fields "message" Json.string?⟩

end Rejection

namespace Subject

/-- A subject is written as a record. -/
def toJson (s : Subject) : Json :=
  .object [("email", .string s.email), ("id", .int s.id.toInt), ("name", .string s.name),
    ("role", s.role.toJson)]

/-- The subject that is written. -/
def ofJson? (v : Json) : Option Subject := do
  let fields ← v.fields? ["id", "name", "email", "role"] 0
  return {
    id := ← Markup.field? fields "id" Markup.int64?
    name := ← Markup.field? fields "name" Json.string?
    email := ← Markup.field? fields "email" Json.string?
    role := ← Markup.field? fields "role" Role.ofJson? }

end Subject

end Registrar
