import MetalLowering.Declaration
import MetalLowering.Metadata
import MetalLowering.Vocabulary

/-!
# The structs and the head of a generated source

A generated source starts with its includes, the requested definitions and the helper functions.
Three structs follow: the uniforms, the vertex attributes, and what goes from the vertex to the
fragment stage, whose first field is the position.
-/

namespace MetalLowering.Metal

/-- A field of a struct. -/
structure Field where
  /-- The Metal type. -/
  type : Text
  /-- The name. -/
  name : Text
  /-- The tag behind the name; an empty one is left out. -/
  tag : Option Text := none
  deriving Repr, DecidableEq

/-- The line of a field. -/
def Field.line (f : Field) : Text :=
  match f.tag with
  | none | some [] => "    " ++ f.type ++ " " ++ f.name ++ ";"
  | some tag => "    " ++ f.type ++ " " ++ f.name ++ " " ++ tag ++ ";"

/-- The field of a declaration. -/
def Field.ofDeclaration (d : Declaration) : Field :=
  ⟨Vocabulary.mapTypes d.type, d.name, d.tag⟩

/-- A struct of the generated source. -/
structure Struct where
  /-- The name. -/
  name : Text
  /-- The fields in order. -/
  fields : List Field
  deriving Repr, DecidableEq

/-- The lines of a struct. -/
def Struct.lines (s : Struct) : List Text :=
  ("struct " ++ s.name ++ " \x7b") :: s.fields.map Field.line ++ ["\x7d;".toList]

/-- The lines of a struct, noted. -/
def Struct.emit {ε : Type} (s : Struct) : Traced ε (List Text) :=
  ⟨[⟨.debug, "Emitted struct " ++ s.name ++ " with " ++ Text.ofNat s.fields.length ++ " fields"⟩],
    .ok s.lines⟩

/-- The line that defines a symbol to one. -/
def definition (symbol : Text) : Text := "#define " ++ symbol ++ " 1"

/-- The lines before the structs. -/
def head (defines : List Text) : List Text :=
  includes ++ defines.map definition ++ matrixHelpers ++ [levelDefinition]

/-- The struct of the uniforms. -/
def uniforms (metadata : Metadata) : Except Failure Struct := do
  let fields ← metadata.uniforms.mapM fun u => u.metalType.map fun type => ⟨type, u.name.display, none⟩
  return ⟨uniformsStruct, fields⟩

/-- The struct of the vertex attributes. -/
def vertexInputs (attributes : List Declaration) : Struct :=
  ⟨vertexStruct, attributes.map Field.ofDeclaration⟩

/-- The struct of what the vertex stage puts out. -/
def rasterizer (varyings : List Declaration) : Struct :=
  ⟨rasterizerStruct,
    ⟨"float4", positionField, some "[[position]]".toList⟩ :: varyings.map Field.ofDeclaration⟩

end MetalLowering.Metal
