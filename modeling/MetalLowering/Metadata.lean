import MetalLowering.Error

/-!
# Uniform kinds and shader metadata

A renderer describes the uniforms of a shader pair and the textures bound to it. The order of the
uniforms is the layout of their struct, the order of the textures gives the binding slots.

The metadata comes as a JSON document, whose values are taken as they are: the name of a uniform and
the name of a texture can be any value. `Metadata.ofJson` steps through `uniforms` and `images`, and
reads `kind` before `name` in each entry.
-/

namespace MetalLowering

open Json (Value)

/-- The uniform kinds that a renderer knows. -/
inductive UniformKind
  | float1
  | float2
  | float3
  | float4
  | int1
  | int2
  | int3
  | int4
  | mat4
  deriving Repr, DecidableEq

namespace UniformKind

/-- All kinds. -/
def all : List UniformKind :=
  [.float1, .float2, .float3, .float4, .int1, .int2, .int3, .int4, .mat4]

/-- The name of a kind, in capital letters. -/
def name : UniformKind → Text
  | .float1 => "FLOAT1"
  | .float2 => "FLOAT2"
  | .float3 => "FLOAT3"
  | .float4 => "FLOAT4"
  | .int1 => "INT1"
  | .int2 => "INT2"
  | .int3 => "INT3"
  | .int4 => "INT4"
  | .mat4 => "MAT4"

/-- The kind with a given name. -/
def ofName? (t : Text) : Option UniformKind := all.find? (·.name = t)

/-- The Metal type of a field of this kind; integer kinds have none. -/
def metalType? : UniformKind → Option Text
  | .float1 => some "float"
  | .float2 => some "float2"
  | .float3 => some "float3"
  | .float4 => some "float4"
  | .mat4 => some "float4x4"
  | .int1 | .int2 | .int3 | .int4 => none

end UniformKind

/-- The kind that a uniform is given with: a known one, or any other value. -/
inductive GivenKind
  | known (kind : UniformKind)
  | other (value : Value)

/-- A given kind in messages. -/
def GivenKind.display : GivenKind → Text
  | .known kind => "UniformType." ++ kind.name
  | .other value => value.display

/-- A uniform of the metadata. -/
structure Uniform where
  /-- The name, as it stands in the metadata. -/
  name : Value
  /-- The kind, which decides the type of the field. -/
  kind : GivenKind

/-- The Metal type of a uniform. -/
def Uniform.metalType (u : Uniform) : Except Failure Text :=
  match u.kind with
  | .known kind =>
    match kind.metalType? with
    | some type => .ok type
    | none => .error (.shader (.uniformKind u.name u.kind.display))
  | .other value =>
    if value.isKey then .error (.shader (.uniformKind u.name u.kind.display)) else .error .shape

/-- What a renderer says about a shader pair. -/
structure Metadata where
  /-- The uniforms in the order of their fields. -/
  uniforms : List Uniform := []
  /-- The names of the bound textures in the order of their slots. -/
  images : List Value := []

namespace Metadata

/-- The names of uniforms and textures that are texts. -/
def names (m : Metadata) : List Text :=
  (m.uniforms.map (·.name) ++ m.images).filterMap Value.text?

/-- Every uniform has a Metal type, or the failure of the first one that has none. -/
def validate (m : Metadata) : Except Failure Unit :=
  m.uniforms.forM fun u => u.metalType.map fun _ => ()

/-- The capital form of a character, as far as it is spelled in ASCII letters. Any other character
stays, and so spells no kind. -/
def capital (c : Char) : Text :=
  match c with
  | 'ß' => "SS"
  | 'ı' => "I"
  | 'ſ' => "S"
  | 'ﬀ' => "FF"
  | 'ﬁ' => "FI"
  | 'ﬂ' => "FL"
  | 'ﬃ' => "FFI"
  | 'ﬄ' => "FFL"
  | 'ﬅ' | 'ﬆ' => "ST"
  | c => [c.toUpper]

/-- The kind that a text names, in small or capital letters. -/
def kindNamed? (t : Text) : Option UniformKind := UniformKind.ofName? (t.flatMap capital)

/-- A member that an entry needs. -/
def member (entry : Value) (key : Text) : Except Failure Value :=
  match entry with
  | .object _ =>
    match entry.get? key with
    | some value => .ok value
    | none => .error (.missingMember key)
  | _ => .error .shape

/-- The uniform that an entry of the metadata describes. -/
def uniformOf (entry : Value) : Except Failure Uniform := do
  let kind ← member entry "kind"
  let name ← member entry "name"
  match kindNamed? kind.display with
  | some known => return ⟨name, .known known⟩
  | none => throw (.shader (.uniformKind name kind.display))

/-- The values that a member of the document steps through; none if the member is absent. -/
def items (document : Value) (key : Text) : Except Failure (List Value) :=
  match document.get? key with
  | none => .ok []
  | some value =>
    match value.elements? with
    | some values => .ok values
    | none => .error .shape

/-- The metadata that a document describes. -/
def ofJson (document : Value) : Except Failure Metadata :=
  match document with
  | .object _ => do
    let uniforms ← (← items document "uniforms").mapM uniformOf
    let images ← items document "images"
    return ⟨uniforms, images⟩
  | _ => .error .notObject

end Metadata

end MetalLowering
