import Registrar.Json.Basic
import Registrar.Markup

/-!
# JSON as a file format

A record is an object, or the array of the values of its first fields in order.  One of several
fixed words is a text, or an object whose only field has that name and is null.
-/

namespace Registrar.Json

/-- One of several fixed words. -/
def choice? : Json → Option String
  | string s => some s
  | object [(name, null)] => some name
  | _ => none

/-- The fields of a record with their names. -/
def record? (names : List String) : Json → Option (List (String × Json))
  | object fields => if Markup.wellNamed names fields then some fields else none
  | array items => if items.length ≤ names.length then some (names.zip items) else none
  | _ => none

instance : Markup Json where
  text? := string?
  word32? v := v.integer?.bind Text.word32OfInt?
  int64? v := v.integer?.bind Text.int64OfInt?
  choice? := choice?
  optional? v := some (if v.isNull then none else some v)
  items? := array?
  entries? := object?
  record? := record?

end Registrar.Json
