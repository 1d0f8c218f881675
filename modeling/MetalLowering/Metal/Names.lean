import MetalLowering.Text.Basic

/-!
# Fixed names and lines of the generated Metal source

The structs, functions, parameters and helper definitions that every generated source holds, and
the stages of a shader.
-/

namespace MetalLowering

/-- The stages of a shader pair. -/
inductive Stage
  | vertex
  | fragment
  deriving Repr, DecidableEq

/-- The name of a stage in messages. -/
def Stage.name : Stage → Text
  | .vertex => "vertex"
  | .fragment => "fragment"

/-- The stage with a given name. -/
def Stage.ofName? (name : Text) : Option Stage :=
  [Stage.vertex, .fragment].find? (·.name = name)

namespace Metal

/-- The lines before the requested definitions. -/
def includes : List Text := ["#include <metal_stdlib>", "using namespace metal;"]

/-- The function that builds a 3x3 matrix from columns or from a 4x4 matrix. -/
def matrixHelper : Text := "sm_to_m3"

/-- The two forms of the matrix function. -/
def matrixHelpers : List Text := [
  "float3x3 sm_to_m3(float3 v0, float3 v1, float3 v2) \x7breturn float3x3(v0, v1, v2);\x7d",
  "float3x3 sm_to_m3(float4x4 m) \x7breturn float3x3(m[0].xyz, m[1].xyz, m[2].xyz);\x7d"]

/-- The definition through which shaders pass an explicit level of detail. -/
def levelDefinition : Text := "#define sm_level(x) level(x)"

/-- The struct of all uniforms. -/
def uniformsStruct : Text := "Uniforms"

/-- The struct of the vertex attributes. -/
def vertexStruct : Text := "Vertex"

/-- The struct that goes from the vertex to the fragment stage. -/
def rasterizerStruct : Text := "RasterizerData"

/-- The parameter that holds the vertex attributes. -/
def vertexInput : Text := "v"

/-- The parameter that holds the uniforms. -/
def uniformsInput : Text := "uniforms"

/-- The parameter that holds what the vertex stage has put out. -/
def fragmentInput : Text := "in"

/-- The variable that an entry point returns. -/
def output : Stage → Text
  | .vertex => "msl_vertex_out"
  | .fragment => "msl_out_color"

/-- The clip-space position among the fields of the rasterizer struct. -/
def positionField : Text := "position"

/-- The ending of the sampler that belongs to a texture. -/
def samplerSuffix : Text := "Smplr"

/-- The variable that a shader source assigns its result to. -/
def builtinOutput : Stage → Text
  | .vertex => "gl_Position"
  | .fragment => "gl_FragColor"

/-- A field of a struct: `owner.field`. -/
def member (owner field : Text) : Text := owner ++ "." ++ field

end Metal

end MetalLowering
