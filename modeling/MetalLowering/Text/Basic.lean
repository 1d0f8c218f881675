/-!
# Texts

A text is the list of its characters, so that every scanner in this library is a recursion on it
and every cut is a pair of lists that append to the whole.

* `Text.cutAt` cuts at the first occurrence of a separator;
* `Text.inRanges` looks a code point up in a table of closed ranges.
-/

namespace MetalLowering

/-- A text, as the list of its characters. -/
abbrev Text := List Char

namespace Text

/-- A string literal stands for its characters. -/
instance : Coe String Text := ⟨String.toList⟩

/-- Whether a code point lies in one of the closed ranges. -/
def inRanges (ranges : List (Nat × Nat)) (n : Nat) : Bool :=
  ranges.any fun r => r.1 ≤ n && n ≤ r.2

/-- What follows `start` in the text, if the text starts with it. -/
def after? : (start text : Text) → Option Text
  | [], text => some text
  | _ :: _, [] => none
  | a :: start, c :: text => if a = c then after? start text else none

/-- The text before the first occurrence of `separator`, and the text after it if there is one. -/
def cutAt (separator : Text) : Text → Text × Option Text
  | [] => if separator = [] then ([], some []) else ([], none)
  | c :: text =>
    match after? separator (c :: text) with
    | some rest => ([], some rest)
    | none =>
      let (before, rest) := cutAt separator text
      (c :: before, rest)

/-- The texts joined by a separator between each two of them. -/
def join (separator : Text) : List Text → Text
  | [] => []
  | [t] => t
  | t :: u :: ts => t ++ separator ++ join separator (u :: ts)

theorem after?_eq_some_iff {start text rest : Text} :
    after? start text = some rest ↔ text = start ++ rest := by
  induction start generalizing text with
  | nil => simp [after?, eq_comm]
  | cons a start ih =>
    cases text with
    | nil => simp [after?]
    | cons c text =>
      by_cases h : a = c
      · subst h; simp [after?, ih]
      · simp [after?, h, Ne.symm h]

end Text

end MetalLowering
