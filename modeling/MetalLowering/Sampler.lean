import MetalLowering.Error
import MetalLowering.Log
import MetalLowering.Table
import MetalLowering.Text.Line
import MetalLowering.Text.Word

/-!
# Sampler declarations and texture kinds

A fragment source declares a sampler on a line `uniform <sampler type> <name>;`, with precision
qualifiers anywhere between the words. Only the first three other words of the line count, and
semicolons in the third are ignored. The last declaration of a name gives its type.

A bound texture without a declaration is two-dimensional.
-/

namespace MetalLowering

/-- The kinds of bound textures. -/
inductive TextureKind
  | plane
  | cube
  deriving Repr, DecidableEq

/-- The Metal type of a texture. -/
def TextureKind.metalType : TextureKind → Text
  | .plane => "texture2d"
  | .cube => "texturecube"

namespace Sampler

/-- Qualifiers that may stand in a sampler declaration. -/
def precisionQualifiers : List Text := ["lowp", "mediump", "highp"]

/-- Type and name on a line that declares a sampler; the name need not be an identifier. -/
def parts? (line : Text) : Option (Text × Text) :=
  match Text.words line with
  | first :: rest =>
    if first = "uniform".toList then
      match rest.filter (!precisionQualifiers.contains ·) with
      | type :: more =>
        if (Text.after? "sampler" type).isSome then
          some (type, (more.head?.getD []).filter (· ≠ ';'))
        else none
      | [] => none
    else none
  | [] => none

/-- The sampler types on lines numbered from `lineNumber`, put into a table. -/
def collectFrom : (lineNumber : Nat) → List (Text × Text) → List Text →
    Traced Failure (List (Text × Text))
  | _, types, [] => pure types
  | lineNumber, types, line :: rest =>
    match parts? line with
    | none => collectFrom (lineNumber + 1) types rest
    | some (type, name) =>
      if Text.isIdentifier name then do
        Traced.note .debug ("Collected sampler: " ++ name ++ ", type: " ++ type)
        collectFrom (lineNumber + 1) (Table.put name type types) rest
      else Traced.fail (.shader (.malformed .sampler .fragment lineNumber line))

/-- The declared sampler type of every name in a fragment source. -/
def collect (fragment : Text) : Traced Failure (List (Text × Text)) :=
  collectFrom 1 [] (Text.lines fragment)

/-- The texture kind that a sampler type binds. -/
def kindOf? (type : Text) : Option TextureKind :=
  if type = "sampler2D".toList then some .plane
  else if type = "samplerCube".toList then some .cube
  else none

/-- The kind of a bound texture. -/
def resolve (name : Text) (types : List (Text × Text)) : Except Failure TextureKind :=
  match Table.get? name types with
  | none => .ok .plane
  | some type =>
    match kindOf? type with
    | some kind => .ok kind
    | none => .error (.shader (.samplerKind name type))

end Sampler

end MetalLowering
