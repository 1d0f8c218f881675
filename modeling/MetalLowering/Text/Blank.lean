import MetalLowering.Text.Basic

/-!
# Blanks, trimmed texts and words

A blank is a character that separates words: the space, the control characters that move the
print position, the four information separators, and the spaces of the other scripts. The
zero-width space and the byte order mark are not blanks.

* `Text.trim` removes blanks at both ends;
* `Text.words` gives the maximal parts without blanks.
-/

namespace MetalLowering.Text

/-- Whether a character separates words. -/
def isBlank (c : Char) : Bool :=
  let n := c.toNat
  if n < 0x80 then n = 0x20 || (0x09 ≤ n && n ≤ 0x0d) || (0x1c ≤ n && n ≤ 0x1f)
  else n = 0x85 || n = 0xa0 || n = 0x1680 || (0x2000 ≤ n && n ≤ 0x200a) || n = 0x2028 ||
    n = 0x2029 || n = 0x202f || n = 0x205f || n = 0x3000

/-- The text without the blanks it starts with. -/
def trimLeft (t : Text) : Text := t.dropWhile isBlank

/-- The text without the blanks it ends with. -/
def trimRight (t : Text) : Text := (t.reverse.dropWhile isBlank).reverse

/-- The text without the blanks at either end. -/
def trim (t : Text) : Text := trimRight (trimLeft t)

/-- The parts between blanks, empty ones included: one more than there are blanks. -/
def blankParts : Text → List Text
  | [] => [[]]
  | c :: t =>
    if isBlank c then [] :: blankParts t
    else
      match blankParts t with
      | [] => [[c]]
      | w :: ws => (c :: w) :: ws

/-- The words of a text: its maximal parts without blanks, in order. -/
def words (t : Text) : List Text := (blankParts t).filter (!·.isEmpty)

/-- Core's white space is blank. -/
theorem isBlank_of_isWhitespace {c : Char} (h : c.isWhitespace = true) : isBlank c = true := by
  simp only [Char.isWhitespace, Bool.or_eq_true, decide_eq_true_eq] at h
  rcases h with ((h | h) | h) | h <;> subst h <;> decide

end MetalLowering.Text
