import MetalLowering.Text.Blank
import MetalLowering.Text.Digit
import MetalLowering.Text.Name
import MetalLowering.Text.Quoted

/-!
# Replacement templates

The replacement of a sampling call is a template: a backslash in it starts an escape. There are the
control escapes, octal escapes, and references to groups of the matched text. A sampling call has no
numbered or named group, so only the reference to the whole match, `\g<0>`, is valid.

A template without a backslash stands for itself (`Template.parse_of_no_backslash`).
-/

namespace MetalLowering

/-- What is wrong at a place of a template. -/
inductive TemplateProblem
  | groupReference (index : Nat)
  | badEscape (escape : Text)
  | octalRange (escape : Text)
  | missingBracket
  | missingName
  | unterminatedName
  | badName (name : Text)
  deriving Repr, DecidableEq

/-- Why a template cannot be used. -/
inductive TemplateError
  /-- Something is wrong at a position of the template. -/
  | invalid (problem : TemplateProblem) (template : Text) (position : Nat)
  /-- A reference to a group by a name that no group has. -/
  | unknownName (name : Text)
  deriving Repr, DecidableEq

/-- The problem in words. -/
def TemplateProblem.message : TemplateProblem → Text
  | .groupReference index => "invalid group reference " ++ Text.ofNat index
  | .badEscape escape => "bad escape " ++ escape
  | .octalRange escape => "octal escape value " ++ escape ++ " outside of range 0-0o377"
  | .missingBracket => "missing <"
  | .missingName => "missing group name"
  | .unterminatedName => "missing >, unterminated name"
  | .badName name => "bad character in group name " ++ Text.quoted name

/-- The error in words. In a template of several lines the line and the column are added. -/
def TemplateError.message : TemplateError → Text
  | .unknownName name => "unknown group name " ++ Text.quoted name
  | .invalid problem template position =>
    let before := template.take position
    let column := (before.reverse.takeWhile (· ≠ '\n')).length + 1
    let place : Text :=
      if template.contains '\n' then
        " (line " ++ Text.ofNat (before.count '\n' + 1) ++ ", column " ++ Text.ofNat column ++ ")"
      else []
    problem.message ++ " at position " ++ Text.ofNat position ++ place

namespace Template

/-- A part of a template: a character, or the whole matched text. -/
inductive Part
  | char (c : Char)
  | whole
  deriving Repr, DecidableEq

/-- A character of a template, or a backslash with the character after it. -/
structure Token where
  /-- Where the token starts. -/
  position : Nat
  /-- Its one or two characters. -/
  text : Text
  deriving Repr, DecidableEq

/-- The tokens of a template from a position on. -/
def tokens : Nat → Text → List Token
  | _, [] => []
  | position, '\\' :: c :: t => ⟨position, ['\\', c]⟩ :: tokens (position + 2) t
  | position, c :: t => ⟨position, [c]⟩ :: tokens (position + 1) t

/-- What an escape stands for, and how many further tokens belong to it. -/
abbrev Escape := Except TemplateError (List Part × Nat)

/-- Whether a character is an octal digit. -/
def isOctal (c : Char) : Bool := '0' ≤ c && c ≤ '7'

/-- The single character of the first token, if it is one of the given class. -/
def next? (p : Char → Bool) : List Token → Option Char
  | ⟨_, [c]⟩ :: _ => if p c then some c else none
  | _ => none

/-- The value of octal digits. -/
def octal (digits : Text) : Nat := digits.foldl (fun n c => 8 * n + (c.toNat - 0x30)) 0

/-- Whether a character may stand around an integer: a blank that is no information separator. -/
def isPadding (c : Char) : Bool := Text.isBlank c && !(0x1c ≤ c.toNat && c.toNat ≤ 0x1f)

/-- An integer as a group reference spells it: blanks around, a sign, and digits of any script with
single underscores between them. -/
def integer? (t : Text) : Option Int :=
  let body := ((t.dropWhile isPadding).reverse.dropWhile isPadding).reverse
  let (negative, digits) : Bool × Text :=
    match body with
    | '-' :: u => (true, u)
    | '+' :: u => (false, u)
    | u => (false, u)
  let number := digits.filter (· ≠ '_')
  let spaced := digits.head? ≠ some '_' && digits.getLast? ≠ some '_' &&
    !(digits.zip digits.tail).contains ('_', '_')
  if number ≠ [] && number.all Text.isDecimal && spaced && number.length ≤ 4300 then
    some (if negative then -(Text.numberOf number : Int) else Text.numberOf number)
  else none

/-- The reference to a group by what stands between the angle brackets at a position. -/
def groupNamed (template : Text) (position : Nat) (name : Text) : Except TemplateError (List Part) :=
  if Text.isName name then .error (.unknownName name)
  else
    match integer? name with
    | some (.ofNat 0) => .ok [.whole]
    | some (.ofNat n) => .error (.invalid (.groupReference n) template position)
    | _ => .error (.invalid (.badName name) template position)

/-- The position of the next token. -/
def nextPosition (template : Text) (rest : List Token) : Nat :=
  (rest.head?.map (·.position)).getD template.length

/-- A reference by name: what follows the backslash and the letter. -/
def groupEscape (template : Text) (rest : List Token) : Escape :=
  match next? (· = '<') rest with
  | none => .error (.invalid .missingBracket template (nextPosition template rest))
  | some _ =>
    let inside := rest.tail.takeWhile (·.text ≠ ['>'])
    let name := inside.flatMap (·.text)
    match rest.tail.drop inside.length with
    | [] =>
      let problem := if name = [] then .missingName else .unterminatedName
      .error (.invalid problem template (template.length - name.length))
    | close :: _ =>
      if name = [] then .error (.invalid .missingName template close.position)
      else do
        let parts ← groupNamed template (nextPosition template rest.tail) name
        return (parts, inside.length + 2)

/-- An escape that starts with zero: up to two more octal digits. -/
def zeroEscape (rest : List Token) : Escape :=
  match next? isOctal rest, next? isOctal rest.tail with
  | none, _ => .ok ([.char (Char.ofNat 0)], 0)
  | some a, none => .ok ([.char (Char.ofNat (octal [a]))], 1)
  | some a, some b => .ok ([.char (Char.ofNat (octal [a, b]))], 2)

/-- An escape that starts with another digit: three octal digits are a character, and one or two
digits a reference. -/
def digitEscape (template : Text) (position : Nat) (c : Char) (rest : List Token) : Escape :=
  let reference (digits : Text) : Escape :=
    .error (.invalid (.groupReference (Text.numberOf digits)) template (position + 1))
  match next? Char.isDigit rest with
  | none => reference [c]
  | some d =>
    match next? isOctal rest.tail with
    | none => reference [c, d]
    | some e =>
      if isOctal c && isOctal d then
        if 0o377 < octal [c, d, e] then
          .error (.invalid (.octalRange ['\\', c, d, e]) template position)
        else .ok ([.char (Char.ofNat (octal [c, d, e]))], 2)
      else reference [c, d]

/-- The character that a control escape stands for. -/
def control? (c : Char) : Option Char :=
  match c with
  | 'a' => some (Char.ofNat 7)
  | 'b' => some (Char.ofNat 8)
  | 'f' => some (Char.ofNat 12)
  | 'n' => some '\n'
  | 'r' => some '\r'
  | 't' => some '\t'
  | 'v' => some (Char.ofNat 11)
  | '\\' => some '\\'
  | _ => none

/-- The escape of a backslash and the character `c`. A backslash before anything but a letter or a
digit stands for itself. -/
def escape (template : Text) (position : Nat) (c : Char) (rest : List Token) : Escape :=
  if c = 'g' then groupEscape template rest
  else if c = '0' then zeroEscape rest
  else if c.isDigit then digitEscape template position c rest
  else
    match control? c with
    | some d => .ok ([.char d], 0)
    | none =>
      if c.isAlpha then .error (.invalid (.badEscape ['\\', c]) template position)
      else .ok ([.char '\\', .char c], 0)

/-- The parts of the tokens after the first `skip`, which belong to an escape before them. -/
def parts (template : Text) : (skip : Nat) → List Token → Except TemplateError (List Part)
  | _, [] => .ok []
  | skip + 1, _ :: rest => parts template skip rest
  | 0, ⟨position, text⟩ :: rest =>
    match text with
    | ['\\', c] =>
      match escape template position c rest with
      | .error e => .error e
      | .ok (front, used) => (parts template used rest).map (front ++ ·)
    | _ => (parts template 0 rest).map (text.map .char ++ ·)

/-- The parts of a template. -/
def parse (template : Text) : Except TemplateError (List Part) :=
  parts template 0 (tokens 0 template)

/-- The text of a template for a match. -/
def expand (matched : Text) (parts : List Part) : Text :=
  parts.flatMap fun
    | .char c => [c]
    | .whole => matched

theorem tokens_of_no_backslash {t : Text} (h : '\\' ∉ t) (position : Nat) :
    (tokens position t).map (·.text) = t.map ([·]) := by
  induction t generalizing position with
  | nil => rfl
  | cons c t ih =>
    have hc : c ≠ '\\' := fun hc => h (hc ▸ List.mem_cons_self)
    have ht : '\\' ∉ t := fun hm => h (List.mem_cons_of_mem _ hm)
    simp [tokens, hc, ih ht]

theorem parts_of_no_backslash (template : Text) {ts : List Token} {t : Text}
    (h : ts.map (·.text) = t.map ([·])) : parts template 0 ts = .ok (t.map .char) := by
  induction ts generalizing t with
  | nil => cases t <;> simp_all [parts]
  | cons token ts ih =>
    obtain ⟨position, text⟩ := token
    cases t with
    | nil => simp at h
    | cons c t =>
      simp only [List.map_cons, List.cons.injEq] at h
      obtain ⟨rfl, h⟩ := h
      simp [parts, ih h, Except.map]

/-- A template without a backslash stands for itself. -/
theorem parse_of_no_backslash {t : Text} (h : '\\' ∉ t) : parse t = .ok (t.map .char) :=
  parts_of_no_backslash t (tokens_of_no_backslash h 0)

theorem expand_map_char (matched t : Text) : expand matched (t.map .char) = t := by
  induction t with
  | nil => rfl
  | cons c t ih => simpa [expand] using ih

end Template

end MetalLowering
