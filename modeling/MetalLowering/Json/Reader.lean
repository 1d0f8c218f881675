import MetalLowering.Json.Value
import MetalLowering.Table
import MetalLowering.Text.Digit

/-!
# Reading JSON

`read` accepts the JSON grammar and, beside it, the three words `NaN`, `Infinity` and `-Infinity`.
Only space, tab, line feed and carriage return separate tokens; a byte order mark is refused, and so
is a control character inside a string. Of several members with one key the last gives the value and
the first the place. Two limits have errors of their own: an integer has at most 4300 digits, and
lists and objects are nested at most as deep as there is room.

A string can spell half of a surrogate pair alone, by its number. No character has this number, and
the caller says which one stands in for it.

Reading consumes its text from the front, and each step of the recursion takes at least every other
time a character, so twice the length of the text bounds the number of steps.
-/

namespace MetalLowering.Json

/-- What can hold other values. -/
inductive Container
  | list
  | object
  deriving Repr, DecidableEq

/-- Why a document cannot be read. -/
inductive ReadError
  /-- The text is not JSON. -/
  | malformed
  /-- An integer has more digits than can be converted. -/
  | tooManyDigits (count : Nat)
  /-- A list or an object opens deeper than values can be nested. -/
  | tooDeep (container : Container)
  deriving Repr, DecidableEq

/-- The most digits of an integer. -/
def maxDigits : Nat := 4300

/-- A step of the reader: what was read and the text after it. -/
abbrev Step (α : Type) := Except ReadError (α × Text)

/-- Whether a character separates tokens. -/
def isSpace (c : Char) : Bool := c = ' ' || c = '\t' || c = '\n' || c = '\r'

/-- The text from the next token on. -/
def skipSpace (t : Text) : Text := t.dropWhile isSpace

/-- The value of a hexadecimal digit. -/
def hexValue? (c : Char) : Option Nat :=
  let n := c.toNat
  if '0' ≤ c && c ≤ '9' then some (n - 0x30)
  else if 'a' ≤ c && c ≤ 'f' then some (n - 0x61 + 10)
  else if 'A' ≤ c && c ≤ 'F' then some (n - 0x41 + 10)
  else none

/-- Four hexadecimal digits as a number. -/
def hex4? (a b c d : Char) : Option Nat := do
  let a ← hexValue? a
  let b ← hexValue? b
  let c ← hexValue? c
  let d ← hexValue? d
  return ((a * 16 + b) * 16 + c) * 16 + d

/-- Whether a number is the first half of a surrogate pair. -/
def isHighSurrogate (n : Nat) : Bool := 0xd800 ≤ n && n ≤ 0xdbff

/-- Whether a number is the second half of a surrogate pair. -/
def isLowSurrogate (n : Nat) : Bool := 0xdc00 ≤ n && n ≤ 0xdfff

/-- Whether a number is half of a surrogate pair. -/
def isHalf (n : Nat) : Bool := isHighSurrogate n || isLowSurrogate n

/-- The halves of surrogate pairs that a document spells by number, alone or in pairs. -/
def spelledHalves : Text → List Nat
  | [] => []
  | c :: t =>
    match c, t with
    | '\\', 'u' :: a :: b :: d :: e :: _ =>
      ((hex4? a b d e).filter isHalf).toList ++ spelledHalves t
    | _, _ => spelledHalves t

/-- The character that a one-letter escape stands for. -/
def letterEscape? (c : Char) : Option Char :=
  match c with
  | '"' => some '"'
  | '\\' => some '\\'
  | '/' => some '/'
  | 'b' => some (Char.ofNat 8)
  | 'f' => some (Char.ofNat 12)
  | 'n' => some '\n'
  | 'r' => some '\r'
  | 't' => some '\t'
  | _ => none

/-- The rest of a string after its opening quote, as numbers: an escape by number can be half of a
surrogate pair. -/
def readUnits : Text → Step (List Nat)
  | [] => .error .malformed
  | '"' :: t => .ok ([], t)
  | '\\' :: 'u' :: a :: b :: c :: d :: t =>
    match hex4? a b c d with
    | some n => (readUnits t).map fun (units, rest) => (n :: units, rest)
    | none => .error .malformed
  | '\\' :: c :: t =>
    match letterEscape? c with
    | some c => (readUnits t).map fun (units, rest) => (c.toNat :: units, rest)
    | none => .error .malformed
  | c :: t =>
    if c = '\\' || c.toNat < 0x20 then .error .malformed
    else (readUnits t).map fun (units, rest) => (c.toNat :: units, rest)

/-- Puts a number in front of others, joining it with the first one if they make a pair. -/
def joinPair (n : Nat) : List Nat → List Nat
  | [] => [n]
  | m :: rest =>
    if isHighSurrogate n && isLowSurrogate m then
      (0x10000 + (n - 0xd800) * 0x400 + (m - 0xdc00)) :: rest
    else n :: m :: rest

section strings

variable (standIn : Nat → Char)

/-- The character of a number; for half of a pair another one stands in. -/
def unitChar (n : Nat) : Char := if isHalf n then standIn n else Char.ofNat n

/-- The characters of a string, two halves of a pair joined to one. -/
def joinUnits (units : List Nat) : Text := (units.foldr joinPair []).map (unitChar standIn)

/-- The rest of a string after its opening quote. -/
def readString (t : Text) : Step Text :=
  (readUnits t).map fun (units, rest) => (joinUnits standIn units, rest)

end strings

/-- The integer with the given sign and digits. -/
def readInteger (negative : Bool) (digits rest : Text) : Step Value :=
  if maxDigits < digits.length then .error (.tooManyDigits digits.length)
  else
    let n : Int := Text.numberOf digits
    .ok (.int (if negative then -n else n), rest)

/-- The part of a number behind its decimal point: the digits, and the text after them. No digit
behind the point means that the point is not part of the number. -/
def fraction (t : Text) : Text × Text :=
  match t with
  | '.' :: t =>
    let digits := t.takeWhile Char.isDigit
    if digits = [] then ([], '.' :: t) else (digits, t.dropWhile Char.isDigit)
  | _ => ([], t)

/-- The exponent of a number, if it has one, and the text after it. -/
def exponent (t : Text) : Option Int × Text :=
  match t with
  | [] => (none, [])
  | c :: after =>
    if c = 'e' || c = 'E' then
      let (negative, after) :=
        match after with
        | '-' :: u => (true, u)
        | '+' :: u => (false, u)
        | u => (false, u)
      let digits := after.takeWhile Char.isDigit
      if digits = [] then (none, t)
      else
        let significant := digits.dropWhile (· = '0')
        -- an exponent of this size is far out of range whatever its further digits are
        let n : Int :=
          if significant.length > 40 then Binary64.tenTo 40 else Text.numberOf significant
        (some (if negative then -n else n), after.dropWhile Char.isDigit)
    else (none, t)

/-- A number whose sign has been read. -/
def readNumber (negative : Bool) (t : Text) : Step Value :=
  let run := t.takeWhile Char.isDigit
  -- a number that starts with zero has no further digit before its point
  let digits := if run.head? = some '0' then ['0'] else run
  if digits = [] then .error .malformed
  else
    let (places, afterFraction) := fraction (t.drop digits.length)
    let (power, rest) := exponent afterFraction
    if places = [] && power.isNone then readInteger negative digits rest
    else
      .ok (.float (.ofDecimal negative (Text.numberOf (digits ++ places))
        (power.getD 0 - places.length)), rest)

/-- The words that stand for a value. -/
def literals : List (Text × Value) := [
  ("null".toList, .null),
  ("true".toList, .bool true),
  ("false".toList, .bool false),
  ("NaN".toList, .float .nan),
  ("Infinity".toList, .float (.infinite false)),
  ("-Infinity".toList, .float (.infinite true))]

/-- A literal or a number. -/
def readScalar (t : Text) : Step Value :=
  match literals.findSome? fun (word, v) => (Text.after? word t).map fun rest => (v, rest) with
  | some step => .ok step
  | none =>
    match t with
    | '-' :: t => readNumber true t
    | t => readNumber false t

section values

variable (standIn : Nat → Char)

mutual

/-- A value at the start of a text, in a place where `room` more lists and objects can be nested. -/
def readValue : (steps room : Nat) → Text → Step Value
  | 0, _, _ => .error .malformed
  | steps + 1, room, t =>
    match t with
    | '"' :: t => (readString standIn t).map fun (s, rest) => (.text s, rest)
    | '[' :: t =>
      match room, skipSpace t with
      | 0, _ => .error (.tooDeep .list)
      | _, ']' :: rest => .ok (.list [], rest)
      | room + 1, t => (readItems steps room t).map fun (items, rest) => (.list items, rest)
    | '\x7b' :: t =>
      match room, skipSpace t with
      | 0, _ => .error (.tooDeep .object)
      | _, '\x7d' :: rest => .ok (.object [], rest)
      | room + 1, t =>
        (readMembers steps room [] t).map fun (members, rest) => (.object members, rest)
    | t => readScalar t

/-- The items of a list from the first token of an item on. -/
def readItems : (steps room : Nat) → Text → Except ReadError (List Value × Text)
  | 0, _, _ => .error .malformed
  | steps + 1, room, t => do
    let (item, rest) ← readValue steps room t
    match skipSpace rest with
    | ',' :: rest =>
      let (items, rest) ← readItems steps room (skipSpace rest)
      return (item :: items, rest)
    | ']' :: rest => return ([item], rest)
    | _ => .error .malformed

/-- The members of an object from the first token of a member on, after those read before. -/
def readMembers : (steps room : Nat) → List (Text × Value) → Text →
    Except ReadError (List (Text × Value) × Text)
  | 0, _, _, _ => .error .malformed
  | steps + 1, room, members, t =>
    match t with
    | '"' :: t => do
      let (key, rest) ← readString standIn t
      match skipSpace rest with
      | ':' :: rest =>
        let (value, rest) ← readValue steps room (skipSpace rest)
        let members := Table.put key value members
        match skipSpace rest with
        | ',' :: rest => readMembers steps room members (skipSpace rest)
        | '\x7d' :: rest => return (members, rest)
        | _ => .error .malformed
      | _ => .error .malformed
    | _ => .error .malformed

end

/-- The value that a whole document stands for, if lists and objects can be nested `room` deep. -/
def read (room : Nat) (document : Text) : Except ReadError Value := do
  let (value, rest) ← readValue standIn (2 * document.length + 2) room (skipSpace document)
  if skipSpace rest = [] then return value else throw .malformed

end values

end MetalLowering.Json
