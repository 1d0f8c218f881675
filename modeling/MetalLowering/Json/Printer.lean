import MetalLowering.Decimal.Shortest
import MetalLowering.Json.Value
import MetalLowering.Text.Digit
import MetalLowering.Text.Quoted

/-!
# Values in messages and generated code

A text shows as itself; inside a list or an object it is quoted. The absent value is `None`, truth
values are capitalised, lists stand in brackets and objects in braces.
-/

namespace MetalLowering.Json.Value

mutual

/-- The value as it shows inside a list or an object. -/
def shown : Value → Text
  | .null => "None".toList
  | .bool b => if b then "True".toList else "False".toList
  | .int n => Text.ofInt n
  | .float x => x.text
  | .text t => Text.quoted t
  | .list items => '[' :: shownItems items ++ [']']
  | .object members => '\x7b' :: shownMembers members ++ ['\x7d']

/-- The items of a list, separated by a comma and a space. -/
def shownItems : List Value → Text
  | [] => []
  | [v] => shown v
  | v :: w :: rest => shown v ++ ", ".toList ++ shownItems (w :: rest)

/-- The members of an object, separated by a comma and a space. -/
def shownMembers : List (Text × Value) → Text
  | [] => []
  | [(k, v)] => Text.quoted k ++ ": ".toList ++ shown v
  | (k, v) :: m :: rest =>
    Text.quoted k ++ ": ".toList ++ shown v ++ ", ".toList ++ shownMembers (m :: rest)

end

/-- The value as it shows in a message or in generated code. -/
def display : Value → Text
  | .text t => t
  | v => v.shown

@[simp] theorem display_text (t : Text) : (Value.text t).display = t := rfl

end MetalLowering.Json.Value
