import MetalLowering.Command.Clock
import MetalLowering.Files.HalvedText
import MetalLowering.Json.Reader
import MetalLowering.Program

/-!
# Conversion jobs

A job names the files of a shader pair, the definitions it is lowered with and the format of the
result. `Job.load` reads the metadata, then both sources, and lowers them; `Job.formatted` adds the
header that the format `commented` asks for; `Job.prepare` does both and reports a failure in the
words of a command; `Job.save` writes the result.

The names in the metadata can hold halves of surrogate pairs. Characters stand in for them that
occur nowhere in the job (`Job.standIns`), and those that have come into a name (`Job.halves`) go
with the result, which cannot be encoded then.

How deep the metadata can be nested depends on how much of the stack is left when it is read, and so
on the command that reads it.

Each way to fail is a `JobFailure`, sorted by `JobFailure.cause` into what the commands report.
-/

namespace MetalLowering

/-- A shader pair to convert. -/
structure Job where
  /-- The vertex source. -/
  vertex : Path
  /-- The fragment source. -/
  fragment : Path
  /-- The metadata document, if there is one. -/
  metadata : Option Path := none
  /-- The symbols that are defined to one. -/
  defines : List Text := []
  /-- The format of the result: plain or commented. -/
  format : Text := "plain"

/-- Why a job cannot be done. -/
inductive JobFailure
  /-- A file cannot be read or written. -/
  | file (problem : FileProblem) (path : Path)
  /-- A file is no valid text. -/
  | notText
  /-- The metadata cannot be read. -/
  | document (e : Json.ReadError)
  /-- The metadata is no object. -/
  | notObject (path : Path)
  /-- An entry of the metadata lacks a member or has the wrong shape. -/
  | metadataEntry (path : Path) (cause : Failure)
  /-- The shader pair cannot be lowered. -/
  | lowering (f : Failure)
  /-- The result cannot be put out. -/
  | encoding (e : EncodingFailure)

/-- The failure in words. -/
def JobFailure.message : JobFailure → Text
  | .file problem path => problem.message path
  | .notText => "<UnicodeDecodeError>"
  | .document .malformed => "<JSONDecodeError>"
  | .document (.tooManyDigits count) => tooManyDigitsMessage count
  | .document (.tooDeep container) =>
    "maximum recursion depth exceeded while decoding a JSON " ++
      (match container with
        | .list => "array"
        | .object => "object") ++ " from a unicode string"
  | .notObject path => "Metadata file " ++ path.text ++ " must contain a JSON object"
  | .metadataEntry path cause => "Invalid metadata entry in " ++ path.text ++ ": " ++ cause.message
  | .lowering f => f.message
  | .encoding e => e.message

/-- What a failure is reported as. -/
inductive Cause
  /-- A file that cannot be read. -/
  | files
  /-- Content that is not what it should be. -/
  | content
  /-- A fault of the shader pair. -/
  | shader
  /-- Something no command expects. -/
  | unexpected
  deriving Repr, DecidableEq

/-- What a failure is reported as. -/
def JobFailure.cause : JobFailure → Cause
  | .file .nullCharacter _ => .content
  | .file _ _ => .files
  | .document (.tooDeep _) => .unexpected
  | .notText | .document _ | .notObject _ | .metadataEntry _ _ => .content
  | .lowering (.shader _) => .shader
  | .lowering (.tooManyDigits _) | .lowering (.unknownStage _) => .content
  | .lowering .shape | .lowering (.missingMember _) | .lowering .notObject
  | .lowering (.template _) | .encoding _ => .unexpected

/-- How deep the metadata can be nested for the convert command: what its calls leave of a stack of
a thousand. -/
def convertRoom : Nat := 975

/-- How deep the metadata can be nested for a session, which reads it one call deeper. -/
def sessionRoom : Nat := convertRoom - 1

namespace Job

/-- A way to read files. -/
abbrev Reader := Path → Except FileProblem ByteArray

/-- The text of a file. -/
def readText (read : Reader) (path : Path) : Except JobFailure Text :=
  match read path with
  | .error problem => .error (.file problem path)
  | .ok content =>
    match decodeText content with
    | some text => .ok text
    | none => .error .notText

/-- The files that a job reads. -/
def files (job : Job) : List Path := job.vertex :: job.fragment :: job.metadata.toList

/-- The text of a file, empty if it cannot be read. -/
def textOr (read : Reader) (path : Path) : Text := (readText read path).toOption.getD []

/-- The halves of surrogate pairs that the metadata spells. -/
def spelledHalves (job : Job) (read : Reader) : List Nat :=
  job.metadata.toList.flatMap fun file => Json.spelledHalves (textOr read file)

/-- What the texts of a job can be made of: what its files hold, their names and the definitions,
and the characters that are spelled as pairs. -/
def ingredients (job : Job) (read : Reader) : Text :=
  job.files.flatMap (fun file => textOr read file ++ file.text) ++ job.defines.flatten ++
    Json.joinUnits (fun _ => '\ufffd') (job.spelledHalves read)

/-- For each half that the metadata spells, a character that occurs nowhere else. -/
def standIns (job : Job) (read : Reader) : List (Char × Nat) :=
  let halves := (job.spelledHalves read).eraseDups
  (Text.unused halves.length (job.ingredients read)).zip halves

/-- The character that stands in for a half. -/
def standIn (job : Job) (read : Reader) (half : Nat) : Char :=
  (((job.standIns read).find? (·.2 = half)).map (·.1)).getD '\ufffd'

/-- The metadata that a file gives once it is read as a document. -/
def metadataOf (file : Path) : Except Json.ReadError Json.Value → Except JobFailure Metadata
  | .error e => .error (.document e)
  | .ok document =>
    match Metadata.ofJson document with
    | .ok metadata => .ok metadata
    | .error .notObject => .error (.notObject file)
    | .error (.shader e) => .error (.lowering (.shader e))
    | .error cause => .error (.metadataEntry file cause)

/-- The metadata in a file, with the given characters for halves of surrogate pairs. -/
def readMetadata (standIn : Nat → Char) (room : Nat) (read : Reader) (file : Path) :
    Except JobFailure Metadata :=
  (readText read file).bind fun text => metadataOf file (Json.read standIn room text)

/-- The metadata of a job, which is empty without a file for it. -/
def givenMetadata (job : Job) (room : Nat) (read : Reader) : Except JobFailure Metadata :=
  match job.metadata with
  | none => .ok {}
  | some file => readMetadata (job.standIn read) room read file

/-- The stand-ins that occur in a name of the metadata. -/
def halves (job : Job) (room : Nat) (read : Reader) : List (Char × Nat) :=
  match job.givenMetadata room read with
  | .ok metadata => (job.standIns read).filter fun (c, _) => metadata.names.any (·.contains c)
  | .error _ => []

/-- The Metal source of a job. -/
def load (job : Job) (room : Nat) (read : Reader) : Traced JobFailure Text := do
  let metadata ← Traced.ofExcept (job.givenMetadata room read)
  let vertex ← Traced.ofExcept (readText read job.vertex)
  let fragment ← Traced.ofExcept (readText read job.fragment)
  Traced.note .info ("Transpiling " ++ job.vertex.name ++ " and " ++ job.fragment.name)
  (lowerPair fragment vertex metadata job.defines).mapError .lowering

/-- The comment at the head of a commented result. -/
def header (job : Job) (clock : Clock) : Text :=
  "// Generated by glsl2msl v0.1.0\n// Generation time: " ++ clock.text ++
    "\n// Vertex source: " ++ job.vertex.baseName ++
    "\n// Fragment source: " ++ job.fragment.baseName ++ "\n\n"

/-- The result in the format of the job. -/
def formatted (job : Job) (clock : Clock) (source : Text) : Text :=
  if job.format = "commented".toList then job.header clock ++ source else source

/-- What is noted of the format. -/
def formatNotes (job : Job) : List Entry :=
  if job.format = "commented".toList || job.format = "plain".toList then []
  else [⟨.warning, "Unknown format: " ++ job.format ++ ". Using plain."⟩]

/-- The result of a job, ready to be put out. A failure that `report` has words for is logged, and
no failure is left; any other is left as it is. -/
def prepare (job : Job) (room : Nat) (read : Reader) (clock : Clock)
    (report : JobFailure → Option Text) : Traced (Option JobFailure) HalvedText :=
  let loaded := job.load room read
  match loaded.result with
  | .error e =>
    match report e with
    | some words => ⟨loaded.log ++ [⟨.error, words⟩], .error none⟩
    | none => ⟨loaded.log, .error (some e)⟩
  | .ok source =>
    ⟨loaded.log ++ job.formatNotes, .ok ⟨job.formatted clock source, job.halves room read⟩⟩

/-- What is noted before a result is written. -/
def savingNote (output : Path) : Entry :=
  ⟨.info, "Exporting shader code to " ++ output.text ++ "..."⟩

/-- What is noted after a result is written. -/
def savedNote (output : Path) : Entry := ⟨.info, "Shader code exported to " ++ output.text⟩

/-- What writing a result leaves behind. -/
structure Saved where
  /-- The files. -/
  store : Store
  /-- The log. -/
  log : List Entry
  /-- Why the result is not written, if it is not. -/
  failure : Option JobFailure := none

/-- Writes a result to a file. The file is opened first, so that a result that cannot be encoded
leaves it empty. -/
def save (store : Store) (output : Path) (result : HalvedText) : Saved :=
  let content := result.encode
  match store.write output (content.toOption.getD .empty), content with
  | .error problem, _ => ⟨store, [savingNote output], some (.file problem output)⟩
  | .ok after, .error e => ⟨after, [savingNote output], some (.encoding e)⟩
  | .ok after, .ok _ => ⟨after, [savingNote output, savedNote output], none⟩

end Job

end MetalLowering
