import MetalLowering.Metal.Names
import MetalLowering.Sampler
import MetalLowering.Text.Blank
import MetalLowering.Text.Digit
import MetalLowering.Text.Word

/-!
# Entry points

A stage source marks its entry point with `void main()`, or `void main(void)`, with blanks between
the words; `void` starts at a boundary. `EntryPoint.isMarked` finds the mark in a line.

`EntryPoint.signature` gives the lines that stand in its place: the Metal function with its
parameters, an opening brace and the declaration of the output variable. A fragment function has two
parameters for each bound texture, the texture and its sampler, in the slot of the texture.
-/

namespace MetalLowering.EntryPoint

/-- Whether a text starts with the mark. -/
def startsWithMark (text : Text) : Bool :=
  match Text.after? "void" text with
  | some (c :: rest) =>
    match Text.isBlank c, Text.after? "main" (Text.trimLeft rest) with
    | true, some rest =>
      match Text.trimLeft rest with
      | '(' :: rest =>
        let rest := Text.trimLeft rest
        (Text.trimLeft ((Text.after? "void" rest).getD rest)).head? = some ')'
      | _ => false
    | _, _ => false
  | _ => false

/-- Whether the mark stands in the rest of a line after the character `before`. -/
def isMarkedFrom (before : Option Char) : Text → Bool
  | [] => false
  | c :: rest =>
    (Text.isBoundary before (some c) && startsWithMark (c :: rest)) || isMarkedFrom (some c) rest

/-- Whether a line marks the entry point. -/
def isMarked (line : Text) : Bool := isMarkedFrom none line

/-- A texture bound to the fragment stage. -/
structure BoundTexture where
  /-- Its name. -/
  name : Text
  /-- Its kind. -/
  kind : TextureKind
  deriving Repr, DecidableEq

/-- The parameter through which both stages read the uniforms. -/
def uniformsParameter : Text :=
  "    constant " ++ Metal.uniformsStruct ++ "& " ++ Metal.uniformsInput ++ " [[buffer(0)]]"

/-- The two parameters of each texture, from the given slot on. -/
def textureParameters : (slot : Nat) → List BoundTexture → List Text
  | _, [] => []
  | slot, t :: rest =>
    ("    " ++ t.kind.metalType ++ "<float> " ++ t.name ++ " [[texture(" ++ Text.ofNat slot ++ ")]]") ::
    ("    sampler " ++ t.name ++ Metal.samplerSuffix ++ " [[sampler(" ++ Text.ofNat slot ++ ")]]") ::
    textureParameters (slot + 1) rest

/-- The lines with a comma behind each but the last. -/
def separated : List Text → List Text
  | [] => []
  | [p] => [p]
  | p :: q :: rest => (p ++ ",") :: separated (q :: rest)

/-- The parameters of the function of a stage. -/
def parameters (stage : Stage) (textures : List BoundTexture) : List Text :=
  match stage with
  | .vertex =>
    ["    " ++ Metal.vertexStruct ++ " " ++ Metal.vertexInput ++ " [[stage_in]]", uniformsParameter]
  | .fragment =>
    ("    " ++ Metal.rasterizerStruct ++ " " ++ Metal.fragmentInput ++ " [[stage_in]]") ::
      uniformsParameter :: textureParameters 0 textures

/-- The line before the parameters. -/
def opening : Stage → Text
  | .vertex => "vertex " ++ Metal.rasterizerStruct ++ " vertexShader("
  | .fragment => "fragment float4 fragmentShader("

/-- The type of the output variable. -/
def outputType : Stage → Text
  | .vertex => Metal.rasterizerStruct
  | .fragment => "float4"

/-- The lines that stand for the mark of a stage. -/
def signature (stage : Stage) (textures : List BoundTexture) : List Text :=
  opening stage :: separated (parameters stage textures) ++
    [") \x7b".toList, "    " ++ outputType stage ++ " " ++ Metal.output stage ++ ";"]

end MetalLowering.EntryPoint
