import MetalLowering.Text.Substitute

/-!
# Control sequences of terminals

A control sequence is the escape character, an opening bracket, parameters made of digits,
semicolons and question marks, and a letter that ends it. Output that does not go to a terminal is
written without them, in one pass: what a removal brings together is not looked at again.
-/

namespace MetalLowering.Text

/-- Whether a character can stand in the parameters of a control sequence. -/
def isParameter (c : Char) : Bool := c.isDigit || c = ';' || c = '?'

/-- The length of the control sequence that a text starts with. -/
def controlSequence? : Text → Option Nat
  | '\x1b' :: '[' :: t =>
    let parameters := t.takeWhile isParameter
    match (t.drop parameters.length).head? with
    | some c => if c.isAlpha then some (parameters.length + 3) else none
    | none => none
  | _ => none

/-- The text without its control sequences. -/
def withoutControlSequences (t : Text) : Text :=
  substitute (fun _ rest => (controlSequence? rest).map fun length => ⟨length, []⟩) t

/-- A control sequence starts with the escape character. -/
theorem controlSequence?_eq_none {t : Text} (h : t.head? ≠ some '\x1b') :
    controlSequence? t = none := by
  unfold controlSequence?
  split
  · simp at h
  · rfl

end MetalLowering.Text
