import MetalLowering.Error
import MetalLowering.Metal.Names
import MetalLowering.Text.Blank
import MetalLowering.Text.Substitute
import MetalLowering.Text.Word

/-!
# Sampling calls

A call `texture2D(t, ...)`, `textureCube(t, ...)` or `textureCubeLod(t, ...)` on a bound texture `t`
becomes `t.sample(tSmplr, ...)`. The function is a whole word, blanks may stand around the bracket,
and the texture ends at a boundary. The replacement is a template made from the texture's name.
-/

namespace MetalLowering.Sampling

open Text (Hit Rule)

/-- The functions that sample a texture. -/
def functions : List Text := ["texture2D", "textureCube", "textureCubeLod"]

/-- The template of a call on a texture. -/
def template (texture : Text) : Text :=
  texture ++ ".sample(" ++ texture ++ Metal.samplerSuffix

/-- How many characters of `text` are at most `blanks` blanks and then the texture, with a boundary
behind it; as many blanks as possible are tried first. `before` is the character before `text`. -/
def argumentLength (texture : Text) (before : Char) (text : Text) : (blanks : Nat) → Option Nat
  | 0 => if Text.startsWithWord (some before) texture text then some texture.length else none
  | blanks + 1 =>
    let taken := text.take (blanks + 1)
    if Text.startsWithWord (Text.lastOr (some before) taken) texture (text.drop (blanks + 1)) then
      some (blanks + 1 + texture.length)
    else argumentLength texture before text blanks

/-- How many characters a call of the function on the texture takes up to the end of the texture. -/
def callLength (texture text function : Text) : Option Nat :=
  match Text.after? function text with
  | none => none
  | some rest =>
    match Text.trimLeft rest with
    | '(' :: inner =>
      let opened := text.length - inner.length
      let blanks := (inner.takeWhile Text.isBlank).length
      (argumentLength texture '(' inner blanks).map (opened + ·)
    | _ => none

/-- The rule that replaces the calls on a texture. -/
def rule (texture : Text) (parts : List Template.Part) : Rule := fun before text =>
  if Text.isBoundary before text.head? then
    (functions.findSome? (callLength texture text)).map fun length =>
      ⟨length, Template.expand (text.take length) parts⟩
  else none

/-- A line with the calls on one texture replaced. -/
def lower (texture line : Text) : Except Failure Text :=
  match Template.parse (template texture) with
  | .ok parts => .ok (Text.substitute (rule texture parts) line)
  | .error e => .error (.template e)

end MetalLowering.Sampling
