import MetalLowering.Text.Basic

/-!
# One pass of replacement

Names in a line are replaced in one pass from left to right. A rule looks at the character before
a position and the text from there on, and says how many characters to replace by what. Replaced
text is never looked at again, and the character before a position is always one of the line
itself.

A hit of no characters puts its replacement in front of the next character, which is kept; no rule
of this library hits at the end of a line.
-/

namespace MetalLowering.Text

/-- What a rule finds at a position. -/
structure Hit where
  /-- How many characters are replaced. -/
  length : Nat
  /-- What stands in their place. -/
  replacement : Text
  deriving Repr, DecidableEq

/-- A rule: the character before a position and the text from there on give a hit or none. -/
abbrev Rule := Option Char → Text → Option Hit

/-- One pass over the rest of a line, of which the first `skip` characters are replaced already. -/
def substituteFrom (rule : Rule) : (before : Option Char) → (skip : Nat) → Text → Text
  | _, _, [] => []
  | _, skip + 1, c :: t => substituteFrom rule (some c) skip t
  | before, 0, c :: t =>
    match rule before (c :: t) with
    | none => c :: substituteFrom rule (some c) 0 t
    | some ⟨0, replacement⟩ => replacement ++ c :: substituteFrom rule (some c) 0 t
    | some ⟨skip + 1, replacement⟩ => replacement ++ substituteFrom rule (some c) skip t

/-- One pass over a line. -/
def substitute (rule : Rule) (line : Text) : Text := substituteFrom rule none 0 line

/-- Where no rule hits, a pass changes nothing. -/
theorem substituteFrom_of_none {rule : Rule} (h : ∀ b t, rule b t = none) (before : Option Char)
    (t : Text) : substituteFrom rule before 0 t = t := by
  induction t generalizing before with
  | nil => rfl
  | cons c t ih => simp [substituteFrom, h, ih]

end MetalLowering.Text
