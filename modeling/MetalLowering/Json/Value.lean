import MetalLowering.Decimal.Binary64
import MetalLowering.Text.Basic

/-!
# JSON values

The dynamic values of metadata documents. Integers and floating-point numbers are apart, and the
members of an object stand in the order of the first occurrence of their keys.

* `Value.get?` looks a member up;
* `Value.isKey` and `Value.sameKey` say which values can be the key of a table, and which two are
  one key: numbers and truth values by their numeric value, all else by equality.
-/

namespace MetalLowering.Json

/-- A JSON value. -/
inductive Value
  | null
  | bool (b : Bool)
  | int (n : Int)
  | float (x : Binary64)
  | text (t : Text)
  | list (items : List Value)
  | object (members : List (Text × Value))
  deriving Repr, Inhabited

namespace Value

/-- The member of an object under a key. -/
def get? (key : Text) : Value → Option Value
  | .object members => (members.find? (·.1 = key)).map (·.2)
  | _ => none

/-- The text, if the value is one. -/
def text? : Value → Option Text
  | .text t => some t
  | _ => none

/-- Whether the value can be a key of a table: lists and objects cannot. -/
def isKey : Value → Bool
  | .list _ | .object _ => false
  | _ => true

/-- The integer that a truth value or an integer counts as. -/
def wholeNumber? : Value → Option Int
  | .bool b => some (if b then 1 else 0)
  | .int n => some n
  | _ => none

/-- Whether two values are the same key of a table. -/
def sameKey : Value → Value → Bool
  | .null, .null => true
  | .text a, .text b => a = b
  | .float x, .float y => x.same y
  | .float x, v | v, .float x => v.wholeNumber?.any x.equalsInt
  | a, b =>
    match a.wholeNumber?, b.wholeNumber? with
    | some m, some n => m = n
    | _, _ => false

/-- The values that stepping through the value gives: the items of a list, the keys of an object,
the characters of a text. -/
def elements? : Value → Option (List Value)
  | .list items => some items
  | .object members => some (members.map fun m => .text m.1)
  | .text t => some (t.map fun c => .text [c])
  | _ => none

end Value

end MetalLowering.Json
