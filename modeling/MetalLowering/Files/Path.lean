import MetalLowering.Text.Basic

/-!
# Paths

A path is a sequence of parts after no, one or two leading slashes. Empty parts and the part `.`
carry no meaning and are left out; `..` stays, because what it means depends on the files.

* `Path.ofText`, `Path.text` read and write a path;
* `Path.absolute` resolves `..` by the text alone, relative to a working directory: watched files are
  compared in this form;
* `Path.relative` writes an absolute path relative to a directory.
-/

namespace MetalLowering

/-- A path. -/
structure Path where
  /-- How many slashes it starts with: none for a relative path, otherwise one or two. -/
  slashes : Nat := 0
  /-- The parts between slashes, without empty ones and `.`. -/
  parts : List Text
  deriving Repr, DecidableEq

namespace Path

/-- The parts between slashes, empty ones included. -/
def slashParts : Text → List Text
  | [] => [[]]
  | c :: t =>
    if c = '/' then [] :: slashParts t
    else
      match slashParts t with
      | [] => [[c]]
      | p :: ps => (c :: p) :: ps

/-- The slashes that a path keeps: exactly two are kept, any other number counts as one. -/
def leadingSlashes (t : Text) : Nat :=
  match (t.takeWhile (· = '/')).length with
  | 0 => 0
  | 2 => 2
  | _ => 1

/-- Whether a part carries meaning. -/
def isMeaningful (part : Text) : Bool := part ≠ [] && part ≠ ['.']

/-- The path that a text spells. -/
def ofText (t : Text) : Path := ⟨leadingSlashes t, (slashParts t).filter isMeaningful⟩

/-- The path in its shortest spelling. -/
def text (p : Path) : Text :=
  match List.replicate p.slashes '/' ++ Text.join "/" p.parts with
  | [] => "."
  | t => t

/-- The last part, empty if there is none. -/
def name (p : Path) : Text := p.parts.getLast?.getD []

/-- What stands behind the last slash of the path's text. -/
def baseName (p : Path) : Text := (p.text.reverse.takeWhile (· ≠ '/')).reverse

/-- One part further: `..` takes the part before it away. -/
def push (parts : List Text) (part : Text) : List Text :=
  if part = "..".toList then parts.dropLast else parts ++ [part]

/-- The absolute path without `..`, for a path seen from the directory `base`. -/
def absolute (p base : Path) : Path :=
  if p.slashes = 0 then ⟨base.slashes, p.parts.foldl push base.parts⟩
  else ⟨p.slashes, p.parts.foldl push []⟩

/-- The directory that holds an absolute path. -/
def directory (p : Path) : Path := ⟨p.slashes, p.parts.dropLast⟩

/-- Both lists without the longest beginning they share. -/
def splitCommon : List Text → List Text → List Text × List Text
  | a :: as, b :: bs => if a = b then splitCommon as bs else (a :: as, b :: bs)
  | as, bs => (as, bs)

/-- An absolute path as seen from the absolute directory `base`. -/
def relative (p base : Path) : Path :=
  let (up, down) := splitCommon base.parts p.parts
  ⟨0, up.map (fun _ => "..".toList) ++ down⟩

end Path

end MetalLowering
