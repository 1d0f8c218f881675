import MetalLowering.Text.Basic
import MetalLowering.Text.NameRanges

/-!
# Names

A name starts with a letter of any script or the underscore, and goes on with letters, digits, marks
and connectors. This is the class that group names of a template belong to; it is neither the class
of words, which have no marks and all numbers, nor that of the identifiers of a shader, which start
with an ASCII letter.
-/

namespace MetalLowering.Text

/-- Whether a name can start with a character. -/
def isNameStart (c : Char) : Bool :=
  if c.toNat < 0x80 then c.isAlpha || c = '_' else inRanges nameStartRanges c.toNat

/-- Whether a name can have a character behind its first one. -/
def isNamePart (c : Char) : Bool :=
  isNameStart c || if c.toNat < 0x80 then c.isDigit else inRanges nameOnlyInsideRanges c.toNat

/-- Whether a text is a name. -/
def isName : Text → Bool
  | [] => false
  | c :: t => isNameStart c && t.all isNamePart

theorem isNamePart_of_isNameStart {c : Char} (h : isNameStart c = true) : isNamePart c = true := by
  simp [isNamePart, h]

end MetalLowering.Text
