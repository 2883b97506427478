import Registrar.Json.Token

/-!
# Reading JSON

`Json.read?` reads one value from a text.  The tokens are taken one after the other by a machine
whose stack holds the arrays and objects that are still open, innermost first.  At most 127 of
them may be open at once.
-/

namespace Registrar.Json

/-- An array or an object that is still open, with what it holds so far in reverse order. -/
inductive Frame where
  /-- An open array. -/
  | array (items : List Json)
  /-- An open object that waits for the value of the field `name`. -/
  | object (fields : List (String × Json)) (name : String)

/-- What may come next. -/
inductive Expect where
  /-- A value. -/
  | value
  /-- A value, or the end of the array that was just opened. -/
  | firstItem
  /-- The name of a field, or the end of the object that was just opened. -/
  | firstName
  /-- The name of a further field, after these fields in reverse order. -/
  | name (fields : List (String × Json))
  /-- The colon after the name of a field. -/
  | colon (fields : List (String × Json)) (name : String)
  /-- What follows a value. -/
  | after (value : Json)

/-- The most arrays and objects that may be open at once. -/
def maxOpen : Nat := 127

/-- The machine at the start of a value. -/
def stepValue (stack : List Frame) : Token → Option (Expect × List Frame)
  | .literal v => some (.after v, stack)
  | .text s => some (.after (.string s), stack)
  | .openArray => if stack.length < maxOpen then some (.firstItem, .array [] :: stack) else none
  | .openObject => if stack.length < maxOpen then some (.firstName, stack) else none
  | _ => none

/-- The machine after a value that stands in the innermost open array or object. -/
def stepAfter (v : Json) : List Frame → Token → Option (Expect × List Frame)
  | .array items :: stack, .comma => some (.value, .array (v :: items) :: stack)
  | .array items :: stack, .closeArray => some (.after (.array (v :: items).reverse), stack)
  | .object fields n :: stack, .comma => some (.name ((n, v) :: fields), stack)
  | .object fields n :: stack, .closeObject =>
    some (.after (.object ((n, v) :: fields).reverse), stack)
  | _, _ => none

/-- The machine takes one token. -/
def step : Expect × List Frame → Token → Option (Expect × List Frame)
  | (.value, stack), t => stepValue stack t
  | (.firstItem, .array _ :: stack), .closeArray => some (.after (.array []), stack)
  | (.firstItem, stack), t => stepValue stack t
  | (.firstName, stack), .closeObject => some (.after (.object []), stack)
  | (.firstName, stack), .text n => some (.colon [] n, stack)
  | (.name fields, stack), .text n => some (.colon fields n, stack)
  | (.colon fields n, stack), .colon => some (.value, .object fields n :: stack)
  | (.after v, stack), t => stepAfter v stack t
  | _, _ => none

/-- The machine takes all the tokens of a text. -/
def run (start : Expect × List Frame) (tokens : List Token) : Option (Expect × List Frame) :=
  tokens.foldlM step start

/-- The value that the tokens spell: one value, and nothing after it. -/
def ofTokens? (tokens : List Token) : Option Json :=
  match run (.value, []) tokens with
  | some (.after v, []) => some v
  | _ => none

/-- The value that a text spells, its objects with the fields as they are written. -/
def read? (text : String) : Option Json := (Token.list? text.toList).bind ofTokens?

end Registrar.Json
