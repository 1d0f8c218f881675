import MetalLowering.Files.Path
import MetalLowering.Table
import MetalLowering.Text.Digit
import MetalLowering.Text.Line
import MetalLowering.Text.Quoted

/-!
# Files

A store holds files and directories under their absolute parts, seen from a working directory. A
path is followed part by part: each part on the way must be a directory, so `x/..` names something
only if `x` is a directory.

* `Store.read` gives the content of a file, `Store.write` replaces or creates one in an existing
  directory; both say what is in the way otherwise;
* `Store.changes` lists the files of the working directory that differ between two stores;
* `decodeText` reads a content as text.
-/

namespace MetalLowering

/-- What stands under a name. -/
inductive Node
  | file (content : ByteArray)
  | directory

/-- Why a file cannot be read or written. -/
inductive FileProblem
  | notFound
  | notDirectory
  | isDirectory
  | nameTooLong
  /-- The path holds the character that ends names. -/
  | nullCharacter
  deriving Repr, DecidableEq

/-- The problem in words, for a path. -/
def FileProblem.message (problem : FileProblem) (path : Path) : Text :=
  let numbered (number : Nat) (words : Text) : Text :=
    "[Errno " ++ Text.ofNat number ++ "] " ++ words ++ ": " ++ Text.quoted path.text
  match problem with
  | .notFound => numbered 2 "No such file or directory"
  | .notDirectory => numbered 20 "Not a directory"
  | .isDirectory => numbered 21 "Is a directory"
  | .nameTooLong => numbered 36 "File name too long"
  | .nullCharacter => "embedded null byte"

/-- Files and directories, seen from a working directory. -/
structure Store where
  /-- The parts of the working directory. -/
  base : List Text
  /-- What stands under the absolute parts. -/
  nodes : List (List Text × Node)

namespace Store

/-- The beginnings of a list of parts, from the empty one to the whole. -/
def beginnings (parts : List Text) : List (List Text) :=
  (List.range (parts.length + 1)).map parts.take

/-- The store that holds only a working directory and the directories above it. -/
def empty (base : List Text) : Store :=
  ⟨base, (beginnings base).map fun parts => (parts, .directory)⟩

/-- What stands under absolute parts. -/
def node? (s : Store) (parts : List Text) : Option Node := Table.get? parts s.nodes

/-- The store with a node under absolute parts. -/
def put (s : Store) (parts : List Text) (node : Node) : Store :=
  { s with nodes := Table.put parts node s.nodes }

/-- The store without what stands under absolute parts. -/
def erase (s : Store) (parts : List Text) : Store :=
  { s with nodes := s.nodes.filter (·.1 ≠ parts) }

/-- The store with a node and all directories above it. -/
def install (s : Store) (parts : List Text) (node : Node) : Store :=
  let missing := (beginnings parts.dropLast).filter fun above => (s.node? above).isNone
  (missing.foldl (fun s above => s.put above .directory) s).put parts node

/-- The absolute parts that a path spells, without regard to what stands there. -/
def partsOf (s : Store) (path : Path) : List Text := (path.absolute ⟨1, s.base⟩).parts

/-- The length of a text in bytes. -/
def byteLength (t : Text) : Nat := t.foldl (fun n c => n + c.utf8Size) 0

/-- Follows parts from a directory on. The node at the end need not exist. -/
def follow (s : Store) : List Text → List Text → Except FileProblem (List Text)
  | place, [] => .ok place
  | place, part :: rest =>
    match s.node? place with
    | some .directory =>
      if 255 < byteLength part then .error .nameTooLong else follow s (Path.push place part) rest
    | some (.file _) => .error .notDirectory
    | none => .error .notFound

/-- The absolute parts that a path leads to. -/
def locate (s : Store) (path : Path) : Except FileProblem (List Text) :=
  if path.text.contains (Char.ofNat 0) then .error .nullCharacter
  else if 4096 ≤ byteLength path.text then .error .nameTooLong
  else s.follow (if path.slashes = 0 then s.base else []) path.parts

/-- The content of a file. -/
def read (s : Store) (path : Path) : Except FileProblem ByteArray :=
  match s.locate path with
  | .error problem => .error problem
  | .ok parts =>
    match s.node? parts with
    | some (.file content) => .ok content
    | some .directory => .error .isDirectory
    | none => .error .notFound

/-- The store with a file replaced or created. -/
def write (s : Store) (path : Path) (content : ByteArray) : Except FileProblem Store :=
  match s.locate path with
  | .error problem => .error problem
  | .ok parts =>
    match s.node? parts with
    | some .directory => .error .isDirectory
    | _ => .ok (s.put parts (.file content))

/-- The files of the working directory that are new or have another content, with their paths
relative to it. -/
def changes (before after : Store) : List (Text × ByteArray) :=
  after.nodes.filterMap fun (parts, node) =>
    match node with
    | .directory => none
    | .file content =>
      let same :=
        match before.node? parts with
        | some (.file old) => old.toList = content.toList
        | _ => false
      if same || !after.base.isPrefixOf parts then none
      else some (Text.join "/" (parts.drop after.base.length), content)

end Store

/-- The text of a content in UTF-8, with all line breaks unified, or none if it is not valid. -/
def decodeText (content : ByteArray) : Option Text :=
  (String.fromUTF8? content).map fun s => Text.unifyBreaks s.toList

/-- A text as content. -/
def encodeText (t : Text) : ByteArray := (String.ofList t).toUTF8

end MetalLowering
