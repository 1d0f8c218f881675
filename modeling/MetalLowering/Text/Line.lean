import MetalLowering.Text.Basic

/-!
# Lines

A source is cut at every line break; a carriage return directly followed by a line feed is one
break. A break ends a line, so a text that ends with one has no empty last line.

* `Text.lines` gives the lines without their breaks;
* `Text.unifyBreaks` turns both forms with a carriage return into a line feed, as is done with
  every file read as text.
-/

namespace MetalLowering.Text

/-- Whether a character ends a line. -/
def isLineBreak (c : Char) : Bool :=
  let n := c.toNat
  (0x0a ≤ n && n ≤ 0x0d) || (0x1c ≤ n && n ≤ 0x1e) || n = 0x85 || n = 0x2028 || n = 0x2029

/-- Puts a character in front of the first line, which it opens if there is none. -/
def consFirst (c : Char) : List Text → List Text
  | [] => [[c]]
  | l :: ls => (c :: l) :: ls

/-- The lines of a text, without their breaks. -/
def lines : Text → List Text
  | [] => []
  | '\r' :: '\n' :: t => [] :: lines t
  | c :: t => if isLineBreak c then [] :: lines t else consFirst c (lines t)

/-- The text with every carriage return, alone or before a line feed, as one line feed. -/
def unifyBreaks : Text → Text
  | [] => []
  | '\r' :: '\n' :: t => '\n' :: unifyBreaks t
  | c :: t => (if c = '\r' then '\n' else c) :: unifyBreaks t

end MetalLowering.Text
