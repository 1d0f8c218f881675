import MetalLowering.Files.Store

/-!
# Texts with halves of surrogate pairs

Half of a surrogate pair has a number but no character. A text that should hold it holds another
character in its place, one that occurs nowhere else (`Text.unused`); a `HalvedText` is a text with
the table of these stand-ins. It has an encoding only if none of them occurs in it: encoding stops
at the first one, and tells where it stands and which halves follow one another there.
-/

namespace MetalLowering

/-- Characters that do not occur in a text, from those that no writing system uses: as many as asked
for, unless the text leaves fewer of them. -/
def Text.unused (count : Nat) (t : Text) : Text :=
  let first := 0x40000
  let used := t.filter (first ≤ ·.toNat)
  -- of this many candidates, at least `count` are not among the used ones
  let candidates := (List.range' first (used.length + count)).map Char.ofNat
  candidates.filter fun c => first ≤ c.toNat && !used.contains c

/-- A text in which characters can stand in for halves of surrogate pairs. -/
structure HalvedText where
  /-- The text. -/
  text : Text
  /-- The characters that stand in for halves, with the numbers of the halves. -/
  halves : List (Char × Nat)

/-- Where a text cannot be encoded. -/
structure EncodingFailure where
  /-- The place of the first half. -/
  position : Nat
  /-- The halves that follow one another from there on. -/
  halves : List Nat

/-- The failure in words. -/
def EncodingFailure.message (e : EncodingFailure) : Text :=
  let place : Text :=
    match e.halves with
    | [half] => "character '\\u" ++ Text.hex 4 half ++ "' in position " ++ Text.ofNat e.position
    | halves => "characters in position " ++ Text.ofNat e.position ++ "-" ++
        Text.ofNat (e.position + halves.length - 1)
  "'utf-8' codec can't encode " ++ place ++ ": surrogates not allowed"

namespace HalvedText

/-- The half that a character stands in for. -/
def half? (t : HalvedText) (c : Char) : Option Nat := Table.get? c t.halves

/-- Whether a character is itself. -/
def isWhole (t : HalvedText) (c : Char) : Bool := (t.half? c).isNone

/-- The text as content, or where it cannot be encoded. -/
def encode (t : HalvedText) : Except EncodingFailure ByteArray :=
  if t.text.all t.isWhole then .ok (encodeText t.text)
  else
    let row := (t.text.dropWhile t.isWhole).takeWhile (!t.isWhole ·)
    .error ⟨(t.text.takeWhile t.isWhole).length, row.filterMap t.half?⟩

end HalvedText

end MetalLowering
