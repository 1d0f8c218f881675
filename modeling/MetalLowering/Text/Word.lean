import MetalLowering.Text.Basic
import MetalLowering.Text.WordRanges

/-!
# Word characters, boundaries and identifiers

Names are recognised in a line as whole words. A word character is a letter, a digit, another
character with a numeric value, or the underscore; a boundary lies between two neighbours of which
exactly one is a word character, where the ends of a line count as no word character.
-/

namespace MetalLowering.Text

/-- Whether a character can be part of a word. -/
def isWordChar (c : Char) : Bool :=
  if c.toNat < 0x80 then c.isAlphanum || c = '_' else inRanges wordRanges c.toNat

/-- Whether there is a word character at all. -/
def isWord? (c : Option Char) : Bool := c.any isWordChar

/-- Whether a word starts or ends between two neighbours. -/
def isBoundary (before after : Option Char) : Bool := isWord? before != isWord? after

/-- The last character of a text, or the given one before it if the text is empty. -/
def lastOr (before : Option Char) (t : Text) : Option Char := t.getLast?.or before

/-- Whether the text after the character `before` starts with `name`, up to a boundary. -/
def startsWithWord (before : Option Char) (name text : Text) : Bool :=
  match after? name text with
  | some rest => isBoundary (lastOr before name) rest.head?
  | none => false

/-- Whether a text is an identifier: an ASCII letter or underscore, then word characters. -/
def isIdentifier : Text → Bool
  | [] => false
  | c :: t => (c.isAlpha || c = '_') && t.all isWordChar

end MetalLowering.Text
