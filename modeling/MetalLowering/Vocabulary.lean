import MetalLowering.Metal.Names
import MetalLowering.Text.Blank
import MetalLowering.Text.Substitute
import MetalLowering.Text.Word

/-!
# The words that differ between both languages

Type names and two built-in functions are spelled differently in Metal, and `mat3(...)` becomes a
call of the matrix helper. Each is a pass over whole words of a line: a name counts only between two
boundaries. The three passes of `mapLine` run in this order, so that a matrix constructor is seen
before its name is taken for a type.
-/

namespace MetalLowering.Vocabulary

open Text (Hit Rule)

/-- Type names and their Metal spellings. -/
def typeNames : List (Text × Text) := [
  ("float", "float"),
  ("vec2", "float2"), ("vec3", "float3"), ("vec4", "float4"),
  ("ivec2", "int2"), ("ivec3", "int3"), ("ivec4", "int4"),
  ("bvec2", "bool2"), ("bvec3", "bool3"), ("bvec4", "bool4"),
  ("mat2", "float2x2"), ("mat3", "float3x3"), ("mat4", "float4x4")]

/-- Built-in functions and their Metal spellings. -/
def functionNames : List (Text × Text) := [("dFdx", "dfdx"), ("dFdy", "dfdy")]

/-- A whole word that the table names is replaced by its spelling. -/
def wordRule (names : List (Text × Text)) : Rule := fun before text =>
  if Text.isBoundary before text.head? then
    (names.find? fun entry => Text.startsWithWord before entry.1 text).map fun entry =>
      ⟨entry.1.length, entry.2⟩
  else none

/-- The matrix type before an opening bracket, blanks between them allowed, is replaced by the
helper. -/
def matrixRule : Rule := fun before text =>
  match Text.after? "mat3" text with
  | some rest =>
    if Text.isBoundary before text.head? && (Text.trimLeft rest).head? = some '(' then
      some ⟨4, Metal.matrixHelper⟩
    else none
  | none => none

/-- A line with its type names in Metal spelling. -/
def mapTypes (line : Text) : Text := Text.substitute (wordRule typeNames) line

/-- A line with its built-in functions in Metal spelling. -/
def mapFunctions (line : Text) : Text := Text.substitute (wordRule functionNames) line

/-- A line with its matrix constructors sent to the helper. -/
def mapMatrixConstructors (line : Text) : Text := Text.substitute matrixRule line

/-- The passes that every kept line of a stage goes through. -/
def mapLine (stage : Stage) (line : Text) : Text :=
  let mapped := mapTypes (mapMatrixConstructors line)
  match stage with
  | .vertex => mapped
  | .fragment => mapFunctions mapped

end MetalLowering.Vocabulary
