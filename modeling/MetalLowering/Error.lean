import MetalLowering.Json.Printer
import MetalLowering.Metal.Names
import MetalLowering.Template
import MetalLowering.Text.Blank
import MetalLowering.Text.Quoted

/-!
# Why a shader pair cannot be lowered

A `ShaderError` is a fault of the sources or the metadata that is reported with its place. The other
causes of a `Failure` are values of a shape that the work on them does not allow, numbers that are
too long, and texture names that are no valid templates.

Each cause has its wording in one function: `Diagnostic.text` for a fault with a place,
`Failure.message` for all of them.
-/

namespace MetalLowering

open Json (Value)

/-- The kinds of declaration lines. -/
inductive DeclarationKind
  | attribute
  | varying
  | sampler
  deriving Repr, DecidableEq

/-- The word that a kind is called by; attributes and varyings are declared with it. -/
def DeclarationKind.keyword : DeclarationKind → Text
  | .attribute => "attribute"
  | .varying => "varying"
  | .sampler => "sampler"

/-- A message with the place it speaks of, as far as it is known. -/
structure Diagnostic where
  /-- What is wrong. -/
  message : Text
  /-- The stage of the source. -/
  stage : Option Stage := none
  /-- The number of the line, from one. -/
  lineNumber : Option Int := none
  /-- The line itself. -/
  line : Option Text := none
  deriving Repr, DecidableEq

/-- The message followed by its place: stage, line number and the trimmed line in quotes. -/
def Diagnostic.text (d : Diagnostic) : Text :=
  let stage : Text := match d.stage with
    | some s => " in " ++ s.name ++ " stage"
    | none => []
  let number : Text := match d.lineNumber with
    | some n => " at line " ++ Text.ofInt n
    | none => []
  let line : Text := match d.line with
    | some l => ": " ++ Text.quoted (Text.trim l)
    | none => []
  d.message ++ stage ++ number ++ line

/-- A fault of a shader source or of the metadata that goes with it. -/
inductive ShaderError
  /-- A uniform of a kind without a Metal type. -/
  | uniformKind (name : Value) (kind : Text)
  /-- A bound texture that is declared with another sampler than 2D or cube. -/
  | samplerKind (name spelling : Text)
  /-- A line that starts like a declaration and is none. -/
  | malformed (kind : DeclarationKind) (stage : Stage) (lineNumber : Int) (line : Text)
  /-- A stage without an entry point. -/
  | missingEntryPoint (stage : Stage)

/-- The fault with its place. -/
def ShaderError.diagnostic : ShaderError → Diagnostic
  | .uniformKind name kind =>
    { message := "Unsupported uniform kind " ++ kind ++ " for uniform '" ++ name.display ++ "'" }
  | .samplerKind name spelling =>
    { message := "Unsupported sampler kind '" ++ spelling ++ "' for texture '" ++ name ++ "'"
      stage := some .fragment }
  | .malformed kind stage lineNumber line =>
    { message := "Malformed " ++ kind.keyword ++ " declaration"
      stage := some stage
      lineNumber := some lineNumber
      line := some line }
  | .missingEntryPoint stage =>
    { message := "Entry point 'void main()' not found", stage := some stage }

/-- Why a shader pair cannot be lowered. -/
inductive Failure
  /-- A fault of the sources or the metadata. -/
  | shader (e : ShaderError)
  /-- A number with more digits than can be converted. -/
  | tooManyDigits (count : Nat)
  /-- A stage that is neither the vertex nor the fragment stage. -/
  | unknownStage (stage : Value)
  /-- A value of a shape that its use does not allow. -/
  | shape
  /-- A metadata entry without a member it needs. -/
  | missingMember (key : Text)
  /-- Metadata that is no object. -/
  | notObject
  /-- A texture name that is no valid template. -/
  | template (e : TemplateError)

/-- The wording for a number that is too long. -/
def tooManyDigitsMessage (count : Nat) : Text :=
  "Exceeds the limit (" ++ Text.ofNat 4300 ++ " digits) for integer string conversion: value has " ++
    Text.ofNat count ++ " digits; use sys.set_int_max_str_digits() to increase the limit"

/-- The wording of a failure; a cause without a wording of its own shows as a tag. -/
def Failure.message : Failure → Text
  | .shader e => e.diagnostic.text
  | .tooManyDigits count => tooManyDigitsMessage count
  | .unknownStage stage => "Unsupported stage: " ++ stage.display
  | .shape => "<TypeError>"
  | .missingMember key => Text.quoted key
  | .notObject => "<AttributeError>"
  | .template e => e.message

end MetalLowering
