import MetalLowering.Lowering
import MetalLowering.Metal.Struct

/-!
# Lowering a shader pair

`lowerPair` turns the two stage sources into one Metal source: the head with the requested
definitions, the three structs, the vertex function and the fragment function. Uniform kinds are
checked first, then the declarations of both sources, then the textures, and at last the entry
points of both stages.
-/

namespace MetalLowering

/-- The lines as one text, each with a line feed behind it. -/
def code (lines : List Text) : Text := lines.flatMap (· ++ ['\n'])

/-- The Metal source of a shader pair. -/
def lowerPair (fragment vertex : Text) (metadata : Metadata) (defines : List Text) :
    Traced Failure Text := do
  Traced.ofExcept metadata.validate
  let attributes ← Declaration.collect vertex .attribute .vertex
  let varyings ← Declaration.collect vertex .varying .vertex
  let samplers ← Sampler.collect fragment
  Traced.note .debug ("Transpiling shader: " ++ Text.ofNat metadata.uniforms.length ++ " uniforms, " ++
    Text.ofNat attributes.length ++ " attributes, " ++ Text.ofNat varyings.length ++ " varyings, " ++
    Text.ofNat metadata.images.length ++ " textures")
  let uniforms ← Traced.ofExcept (Metal.uniforms metadata)
  let uniformLines ← uniforms.emit
  let vertexLines ← (Metal.vertexInputs attributes).emit
  let rasterizerLines ← (Metal.rasterizer varyings).emit
  let varyingNames := varyings.map (·.name)
  let vertexStage ← Lowering.vertex metadata (attributes.map (·.name)) varyingNames
  let fragmentStage ← Lowering.fragment metadata varyingNames samplers
  let vertexFunction ← vertexStage.run vertex
  let fragmentFunction ← fragmentStage.run fragment
  return code (Metal.head defines ++ uniformLines ++ vertexLines ++ rasterizerLines ++
    vertexFunction ++ fragmentFunction)

end MetalLowering
