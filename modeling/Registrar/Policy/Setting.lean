import Registrar.FileContent
import Registrar.Json.Reader
import Registrar.Policy.Change

/-!
# Settings in the environment

A variable whose name starts with `COURSEGATE_POLICY__` sets one number or word of the tables.
The rest of its name, cut at double underscores, is the path of the entry.

* `Setting.list`: the settings of an environment, by path.
* `Setting.change`: the change that a setting asks for.
-/

namespace Registrar

/-- A value for the entry at a path. -/
structure Setting where
  /-- The path of the entry. -/
  path : String
  /-- The value. -/
  value : Json

namespace Setting

/-- The beginning of the names of the variables that are settings. -/
def mark : String := "COURSEGATE_POLICY__"

/-- The pieces of a name between double underscores. -/
def pieces : List Char → List (List Char)
  | [] => [[]]
  | '_' :: '_' :: cs => [] :: pieces cs
  | c :: cs =>
    match pieces cs with
    | [] => [[c]]
    | p :: ps => (c :: p) :: ps

/-- The path that the name of a variable stands for, when the variable is a setting: its pieces
in lower case, the empty ones left out, with points between them. -/
def path? (name : String) : Option String := do
  let rest ← Text.after? mark.toList name.toList
  let words := (pieces rest).filter (· ≠ [])
  if words = [] then none
  else some (".".intercalate (words.map fun w => Text.lowerAscii (.ofList w)))

/-- The value that the text of a variable stands for: JSON if it is that, else a number if it is
one with a sign or zeros in front, else the text itself.  An empty text is null. -/
def valueOf (raw : String) : Json :=
  if raw = "" then .null
  else match Json.read? raw with
    | some v => v.canonical
    | none =>
      match Text.int64? raw.toList with
      | some n => .int n.toInt
      | none => .string raw

/-- The settings of an environment in ascending order of their paths; those with one path stay
in the order of the environment. -/
def list (env : Environment) : List Setting :=
  (env.filterMap fun (name, raw) => (path? name).map (⟨·, valueOf raw⟩)).mergeSort
    fun a b => a.path ≤ b.path

/-- The value as a number of seats. -/
def seats (value : Json) : Except LoadError UInt32 :=
  match value.integer? with
  | some n =>
    if n < 0 then .error (.invalidValue (.notInteger value))
    else match Text.word32OfInt? n with
      | some w => .ok w
      | none => .error (.invalidValue (.tooLarge n))
  | none => .error (.invalidValue (.notInteger value))

/-- The value as a word for what happens to courses that cannot be found, in any letter case and
with blanks around it. -/
def treatment (value : Json) : Except LoadError UnresolvedCourse :=
  match value.string?.bind fun s =>
      UnresolvedCourse.named? (Text.lowerAscii (Text.trim s)) with
  | some policy => .ok policy
  | none => .error (.invalidValue (.notTreatment value))

/-- The change that a setting asks for. -/
def change (s : Setting) : Except LoadError Change :=
  if s.path = Target.defaultLimit.path then (seats s.value).map .defaultLimit
  else if s.path = Target.unresolvedCourse.path then (treatment s.value).map .unresolvedCourse
  else match Text.after? "capacity.limits.".toList s.path.toList with
    | some modality => limitChange (.ofList modality) (seats s.value)
    | none => .error (.unsupportedPath s.path)

end Setting

end Registrar
