/-!
# Reading files of any format

Policies, directories and settings are written in files of more than one format.  `Markup` is
what a reader of such files needs to know about a format; everything else, the names of the
fields and what they mean, is said once for all formats.

* `Markup.field?`, `Markup.fieldOr`: a field that must be there, and one that need not.
* `Markup.listOf?`, `Markup.entriesOf?`: lists, and maps with names for keys.
-/

namespace Registrar

/-- A format in which files are written, with values of type `δ`. -/
class Markup (δ : Type) where
  /-- The value as a text. -/
  text? : δ → Option String
  /-- The value as a whole number that is not negative and fits 32 bits. -/
  word32? : δ → Option UInt32
  /-- The value as a whole number that fits 64 bits with a sign. -/
  int64? : δ → Option Int64
  /-- The value as one of several fixed words. -/
  choice? : δ → Option String
  /-- The value, unless it stands for nothing; not every value can be told. -/
  optional? : δ → Option (Option δ)
  /-- The values in a row. -/
  items? : δ → Option (List δ)
  /-- The values with names, in the order of the file; a name may be repeated. -/
  entries? : δ → Option (List (String × δ))
  /-- The values of a record whose fields have the given names.  A field is given at most once,
  and no other fields are given. -/
  record? : List String → δ → Option (List (String × δ))

namespace Markup

variable {δ : Type} [Markup δ] {α : Type}

/-- The value of the field with a name, when it is given. -/
def given? (fields : List (String × δ)) (name : String) : Option δ :=
  (fields.find? (·.1 = name)).map (·.2)

/-- A field that must be given. -/
def field? (fields : List (String × δ)) (name : String) (read : δ → Option α) : Option α :=
  (given? fields name).bind read

/-- A field that has a value of its own when it is not given. -/
def fieldOr (fields : List (String × δ)) (name : String) (read : δ → Option α)
    (default : α) : Option α :=
  match given? fields name with
  | some d => read d
  | none => some default

/-- A field that may be missing or stand for nothing. -/
def fieldOpt (fields : List (String × δ)) (name : String) (read : δ → Option α) :
    Option (Option α) :=
  match given? fields name with
  | some d => do
    match ← optional? d with
    | some d => (read d).map some
    | none => some none
  | none => some none

/-- A list whose items are all read. -/
def listOf? (read : δ → Option α) (d : δ) : Option (List α) := do
  (← items? d).mapM read

/-- A map with names for keys whose values are all read. -/
def entriesOf? (read : δ → Option α) (d : δ) : Option (List (String × α)) := do
  (← entries? d).mapM fun (name, value) => (read value).map (name, ·)

/-- Only the named fields are given, and each of them at most once. -/
def wellNamed (names : List String) (fields : List (String × δ)) : Bool :=
  fields.all (names.contains ·.1) &&
    names.all fun n => (fields.filter (·.1 = n)).length ≤ 1

end Markup

end Registrar
