import Registrar.Decimal.Shortest
import Registrar.Table
import Registrar.Text.Numeral

/-!
# JSON values

The values that requests carry and files are written in.

* `Json`: a value.  An object is a list of fields; a text may repeat a field, a canonical value
  does not.
* `Json.canonical`: the value in which every object has each of its fields once, with the value
  it was given last, in ascending order of the names.
* `Json.int64?`: the whole number that a value stands for, also when it is written as a text.
-/

namespace Registrar

/-- A number: whole and within 64 bits, or a double. -/
inductive Number where
  /-- A whole number from `-2 ^ 63` to `2 ^ 64 - 1`. -/
  | integer (value : Int)
  /-- Any other number, rounded to a double. -/
  | double (value : Double)
  deriving DecidableEq

/-- The text of a number. -/
def Number.text : Number → String
  | integer n => Text.numeral n
  | double x => x.text

/-- A JSON value. -/
inductive Json where
  /-- Nothing. -/
  | null
  /-- Yes or no. -/
  | bool (value : Bool)
  /-- A number. -/
  | number (value : Number)
  /-- A text. -/
  | string (value : String)
  /-- Values in a row. -/
  | array (items : List Json)
  /-- Named values. -/
  | object (fields : List (String × Json))
  deriving Inhabited

namespace Json

/-- A whole number as a value. -/
def int (n : Int) : Json := .number (.integer n)

/-- A list of texts as a value. -/
def strings (texts : List String) : Json := .array (texts.map .string)

/-- A table as an object. -/
def ofTable (t : Table String Json) : Json := .object t.entries

/-- The value is null. -/
def isNull : Json → Bool
  | null => true
  | _ => false

/-- The text, when the value is one. -/
def string? : Json → Option String
  | string s => some s
  | _ => none

/-- The truth value, when the value is one. -/
def bool? : Json → Option Bool
  | bool b => some b
  | _ => none

/-- The whole number, when the value is one. -/
def integer? : Json → Option Int
  | number (.integer n) => some n
  | _ => none

/-- The items, when the value is an array. -/
def array? : Json → Option (List Json)
  | array items => some items
  | _ => none

/-- The fields, when the value is an object. -/
def object? : Json → Option (List (String × Json))
  | object fields => some fields
  | _ => none

/-- The whole number of at most 64 bits, with a sign, that the value stands for: an integer, or
a text that is a numeral between blanks. -/
def int64? : Json → Option Int64
  | number (.integer n) => Text.int64OfInt? n
  | string s => Text.int64? (Text.trimChars s.toList)
  | _ => none

mutual

/-- The value with every object's fields sorted by name, each with the value it was given
last. -/
def canonical : Json → Json
  | array items => array (canonicalItems items)
  | object fields => ofTable (canonicalFields Table.empty fields)
  | value => value

/-- The items in canonical form. -/
def canonicalItems : List Json → List Json
  | [] => []
  | item :: items => canonical item :: canonicalItems items

/-- The table with the fields put into it one after the other, in canonical form. -/
def canonicalFields (t : Table String Json) : List (String × Json) → Table String Json
  | [] => t
  | (name, value) :: fields => canonicalFields (t.insert name (canonical value)) fields

end

end Json

end Registrar
