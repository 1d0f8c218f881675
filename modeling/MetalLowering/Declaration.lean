import MetalLowering.Error
import MetalLowering.Log
import MetalLowering.Text.Digit
import MetalLowering.Text.Line
import MetalLowering.Text.Word

/-!
# Attribute and varying declarations

A declaration is a whole line `<keyword> <type> <name>;`, with a comment after it at most. If the
comment starts with a tag in double brackets, the tag belongs to the declaration, and the first
number in it is the slot. Without a number, the slot counts the declarations before it; an attribute
without a tag gets one made from its slot.

`Declaration.collect` reads the declarations of one kind in order, up to the first line that starts
with the keyword and has another form.
-/

namespace MetalLowering

/-- A declaration of a vertex source. -/
structure Declaration where
  /-- Attribute or varying. -/
  kind : DeclarationKind
  /-- The type as written. -/
  type : Text
  /-- The declared name. -/
  name : Text
  /-- The binding slot. -/
  slot : Nat
  /-- The tag in double brackets, if any. -/
  tag : Option Text
  deriving Repr, DecidableEq

namespace Declaration

/-- Whether a character can stand between the brackets of a tag. -/
def isTagChar (c : Char) : Bool :=
  Text.isWordChar c || c = '(' || c = ')' || c = ',' || c = ' '

/-- Whether a text is a tag: something between double brackets. -/
def isTag (t : Text) : Bool :=
  match Text.after? "[[" t with
  | some rest => rest.takeWhile isTagChar ≠ [] && rest.dropWhile isTagChar = "]]".toList
  | none => false

/-- The tag that a comment starts with. -/
def tagOf (comment : Text) : Option Text :=
  match Text.words comment with
  | word :: _ => if isTag word then some word else none
  | [] => none

/-- Type, name and tag of a line in the form of a declaration. -/
def parts? (line : Text) : Option (Text × Text × Option Text) :=
  let (code, comment) := Text.cutAt "//" line
  match (Text.trim code).reverse with
  | ';' :: reversed =>
    match Text.words reversed.reverse with
    | [_, type, name] =>
      if Text.isIdentifier type && Text.isIdentifier name then
        some (type, name, tagOf (comment.getD []))
      else none
    | _ => none
  | _ => none

/-- The most digits of a slot. -/
def maxSlotDigits : Nat := 4300

/-- The slot that a tag gives, or else the number of declarations before this one. -/
def slotOf (tag : Option Text) (ordinal : Nat) : Except Failure Nat :=
  let digits := Text.firstDigits (tag.getD [])
  if digits = [] then .ok ordinal
  else if maxSlotDigits < digits.length then .error (.tooManyDigits digits.length)
  else .ok (Text.numberOf digits)

/-- The tag of an attribute that has none in its source. -/
def attributeTag (slot : Nat) : Text := "[[attribute(" ++ Text.ofNat slot ++ ")]]"

/-- The tag of a declaration whose source gives the tag `tag`. -/
def finalTag (kind : DeclarationKind) (slot : Nat) (tag : Option Text) : Option Text :=
  match tag, kind with
  | none, .attribute => some (attributeTag slot)
  | tag, _ => tag

/-- Reads the declaration on a line, the `ordinal`-th of its kind. -/
def ofLine (kind : DeclarationKind) (stage : Stage) (lineNumber ordinal : Nat) (line : Text) :
    Except Failure Declaration :=
  match parts? line with
  | none => .error (.shader (.malformed kind stage lineNumber line))
  | some (type, name, tag) =>
    match slotOf tag ordinal with
    | .error e => .error e
    | .ok slot => .ok ⟨kind, type, name, slot, finalTag kind slot tag⟩

/-- What is noted of a declaration. -/
def note (d : Declaration) : Text :=
  "Collected " ++ d.kind.keyword ++ ": " ++ d.type ++ " " ++ d.name ++ ", slot: " ++
    Text.ofNat d.slot ++ ", annotation: " ++ d.tag.getD "None".toList

/-- Whether a line starts with the keyword of a kind. -/
def startsWith (kind : DeclarationKind) (line : Text) : Bool :=
  (Text.words line).head? = some kind.keyword

/-- The declarations of a kind on lines numbered from `lineNumber`, after `ordinal` others. -/
def collectFrom (kind : DeclarationKind) (stage : Stage) :
    (lineNumber ordinal : Nat) → List Text → Traced Failure (List Declaration)
  | _, _, [] => pure []
  | lineNumber, ordinal, line :: rest =>
    if startsWith kind line then do
      let d ← Traced.ofExcept (ofLine kind stage lineNumber ordinal line)
      Traced.note .debug d.note
      let ds ← collectFrom kind stage (lineNumber + 1) (ordinal + 1) rest
      return d :: ds
    else collectFrom kind stage (lineNumber + 1) ordinal rest

/-- The declarations of a kind in a source, in order. -/
def collect (source : Text) (kind : DeclarationKind) (stage : Stage) :
    Traced Failure (List Declaration) :=
  collectFrom kind stage 1 0 (Text.lines source)

end Declaration

end MetalLowering
