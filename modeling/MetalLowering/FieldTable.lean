import MetalLowering.Error
import MetalLowering.Log
import MetalLowering.Text.Substitute
import MetalLowering.Text.Word

/-!
# Field tables

Inside an entry point, names of the shader source have moved into structs. A field table says how
each of them is written now. The first registration of a name counts; later ones are ignored, with a
warning if they differ.

`FieldTable.lower` replaces the registered names of a line in one pass. A name counts only where no
word character and no point stands before it and a boundary lies behind it; of several names the
longest is taken. A name that is also the owner of some field (the part before the first point of a
registered access) stays as it is when a point follows, so that a line which is lowered already is
left alone.

A `PreparedTable` is a table in use: it keeps the order in which the names are tried from one line
to the next, and makes it anew only after a name was added.
-/

namespace MetalLowering

open Json (Value)

/-- Names and what they are replaced by, in order of registration. -/
structure FieldTable where
  /-- Each name with its access. -/
  entries : List (Value × Text) := []

namespace FieldTable

/-- The access registered for a name. -/
def find? (table : FieldTable) (name : Value) : Option Text :=
  (table.entries.find? (·.1.sameKey name)).map (·.2)

/-- The table after a registration. -/
def register (table : FieldTable) (name : Value) (access : Text) : FieldTable :=
  match table.find? name with
  | some _ => table
  | none => ⟨table.entries ++ [(name, access)]⟩

/-- The warning of a registration that is ignored. -/
def warnings (table : FieldTable) (name : Value) (access : Text) : List Entry :=
  match table.find? name with
  | some existing =>
    if existing = access then []
    else [⟨.warning, "Identifier '" ++ name.display ++ "' already maps to '" ++ existing ++
      "', ignoring '" ++ access ++ "'"⟩]
  | none => []

/-- A registration with its warning. Lists and objects cannot be registered. -/
def registerTraced (table : FieldTable) (name : Value) (access : Text) :
    Traced Failure FieldTable :=
  if name.isKey then ⟨table.warnings name access, .ok (table.register name access)⟩
  else Traced.fail .shape

/-- The table of several registrations, in order. -/
def build : FieldTable → List (Value × Text) → Traced Failure FieldTable
  | table, [] => pure table
  | table, (name, access) :: rest => do
    let table ← table.registerTraced name access
    build table rest

/-- Names and accesses, if all names are texts. -/
def texts? (table : FieldTable) : Option (List (Text × Text)) :=
  table.entries.mapM fun entry => entry.1.text?.map fun name => (name, entry.2)

/-- Puts a pair before those whose names are not longer. -/
def insertByLength (pair : Text × Text) : List (Text × Text) → List (Text × Text)
  | [] => [pair]
  | other :: rest =>
    if pair.1.length < other.1.length then other :: insertByLength pair rest
    else pair :: other :: rest

/-- The pairs from the longest name to the shortest, equal lengths in their order. -/
def longestFirst (pairs : List (Text × Text)) : List (Text × Text) :=
  pairs.foldr insertByLength []

/-- The owners of fields: what stands before the first point of an access. -/
def owners (pairs : List (Text × Text)) : List Text :=
  pairs.filterMap fun pair => if pair.2.contains '.' then some (pair.2.takeWhile (· ≠ '.')) else none

/-- Whether a name may start after this character. -/
def mayStartAfter (before : Option Char) : Bool :=
  !before.any fun c => Text.isWordChar c || c = '.'

/-- The rule that replaces names, given from the longest to the shortest. -/
def rule (pairs : List (Text × Text)) (owners : List Text) : Text.Rule := fun before text =>
  if mayStartAfter before then
    (pairs.find? fun pair => Text.startsWithWord before pair.1 text).map fun pair =>
      let name := pair.1
      if owners.contains name && (text.drop name.length).head? = some '.' then ⟨name.length, name⟩
      else ⟨name.length, pair.2⟩
  else none

/-- A line with the given names replaced. -/
def lowerWith (pairs : List (Text × Text)) (line : Text) : Text :=
  Text.substitute (rule (longestFirst pairs) (owners pairs)) line

/-- A line with the registered names replaced. A name that is no text cannot be looked for. -/
def lower (table : FieldTable) (line : Text) : Except Failure Text :=
  match table.texts? with
  | some pairs => .ok (lowerWith pairs line)
  | none => .error .shape

/-- The names from the longest to the shortest, if all of them are texts. -/
def order? (table : FieldTable) : Option (List Text) :=
  table.texts?.map fun pairs => (longestFirst pairs).map (·.1)

/-- The given names with what the table holds for them. -/
def inOrder (table : FieldTable) (names : List Text) : List (Text × Text) :=
  names.filterMap fun name => (table.find? (.text name)).map fun access => (name, access)

/-- Each name as it shows, with its access. -/
def shown (table : FieldTable) : List (Text × Text) :=
  table.entries.map fun entry => (entry.1.display, entry.2)

end FieldTable

/-- A table in use, with the order in which its names are tried once a line was lowered. -/
structure PreparedTable where
  /-- The names and their accesses. -/
  table : FieldTable := {}
  /-- The names in the order of the last search, unless a name was added since. -/
  order : Option (List Text) := none

namespace PreparedTable

/-- The table after a registration. A new name makes the order invalid. -/
def register (t : PreparedTable) (name : Value) (access : Text) : PreparedTable :=
  match t.table.find? name with
  | some _ => t
  | none => { table := t.table.register name access }

/-- A line with the registered names replaced, and the table after it. The order is made if there is
none; accesses and owners are always those of the table as it is. -/
def lower (t : PreparedTable) (line : Text) : Except Failure Text × PreparedTable :=
  if t.table.entries.isEmpty then (.ok line, t)
  else
    match t.order.or t.table.order? with
    | some names =>
      let rule := FieldTable.rule (t.table.inOrder names) (FieldTable.owners t.table.shown)
      (.ok (Text.substitute rule line), { t with order := some names })
    | none => (.error .shape, t)

end PreparedTable

end MetalLowering
