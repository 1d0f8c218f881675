import MetalLowering.Command.Arguments
import MetalLowering.Command.Convert
import MetalLowering.Command.Watch
import Std.Time

/-!
# The command line program

Reads the files that a command names, lets `Job.prepare` do the work, and carries out what is left:
log entries go to standard error, the result to standard output or to a file. Watching looks at the
watched files ten times a second and takes a new content for a modification.
-/

namespace MetalLowering

/-- The name of a level in the log. -/
def Level.label : Level → String
  | .debug => "DEBUG"
  | .info => "INFO"
  | .warning => "WARNING"
  | .error => "ERROR"

/-- Prints log entries. -/
def printLog (log : List Entry) : IO Unit :=
  log.forM fun e => IO.eprintln (e.level.label ++ " | " ++ String.ofList e.message)

/-- The problem behind an error of the system. Number 20, which comes with either sign, is the error
of a name below a file that is no directory. -/
def problemOf : IO.Error → FileProblem
  | .inappropriateType _ code _ =>
    if code = 20 ∨ code = -20 then .notDirectory else .isDirectory
  | .invalidArgument _ _ _ => .nameTooLong
  | _ => .notFound

/-- Reads a file. -/
def readPath (path : Path) : IO (Except FileProblem ByteArray) := do
  try
    return .ok (← IO.FS.readBinFile (String.ofList path.text))
  catch e => return .error (problemOf e)

/-- What the files of a job hold now. -/
def snapshot (job : Job) : IO (List (Path × Except FileProblem ByteArray)) :=
  (job.vertex :: job.fragment :: job.metadata.toList).mapM fun path => do
    return (path, ← readPath path)

/-- Reads from what was found before. -/
def readerOf (files : List (Path × Except FileProblem ByteArray)) : Job.Reader := fun path =>
  ((files.find? (·.1 = path)).map (·.2)).getD (.error .notFound)

/-- The time now. -/
def now : IO Clock := do
  return .ofSeconds (← Std.Time.Timestamp.now).toSecondsSinceUnixEpoch.val.toNat

/-- Prints a failure that no command expects. -/
def printUnexpected (e : Option JobFailure) : IO Unit :=
  e.toList.forM fun e => IO.eprintln (String.ofList e.message)

/-- Writes a result to a file; whether that was possible. The file is opened, and so emptied, also
for a result that cannot be encoded. -/
def savePath (output : Path) (result : HalvedText) : IO Bool := do
  printLog [Job.savingNote output]
  let content := result.encode
  try
    IO.FS.writeBinFile (String.ofList output.text) (content.toOption.getD .empty)
  catch e =>
    IO.eprintln (String.ofList ((problemOf e).message output))
    return false
  match content with
  | .error e => printUnexpected (some (.encoding e)); return false
  | .ok _ => printLog [Job.savedNote output]; return true

/-- Prints a result; whether that was possible. -/
def printResult (result : HalvedText) : IO Bool := do
  let isTerminal ← (← IO.getStdout).isTty
  let text := if isTerminal then result.text else Text.withoutControlSequences result.text
  match ({ result with text } : HalvedText).encode with
  | .error e => printUnexpected (some (.encoding e)); return false
  | .ok _ => IO.print (String.ofList text); return true

/-- Converts once. -/
def runConvert (job : Job) (output : Option Path) : IO UInt32 := do
  let prepared := job.prepare convertRoom (readerOf (← snapshot job)) (← now) convertReport
  printLog prepared.log
  match prepared.result, output with
  | .error unexpected, _ => printUnexpected unexpected; return 1
  | .ok result, none => return if ← printResult result then 0 else 1
  | .ok result, some path => return if ← savePath path result then 0 else 1

/-- Converts what a snapshot holds; whether watching can go on. -/
def convertSnapshot (s : Session) (files : List (Path × Except FileProblem ByteArray)) : IO Bool := do
  let prepared := s.job.prepare s.room (readerOf files) (← now) Session.report
  printLog prepared.log
  match prepared.result with
  | .error none => return true
  | .error unexpected => printUnexpected unexpected; return false
  | .ok result => savePath s.output result

/-- Whether two findings are the same. -/
def sameContent : Except FileProblem ByteArray → Except FileProblem ByteArray → Bool
  | .ok a, .ok b => a.toList = b.toList
  | .error a, .error b => a = b
  | _, _ => false

/-- Looks at the files again and again, and converts when one of them has changed. -/
partial def watchFiles (s : Session) (files : List (Path × Except FileProblem ByteArray)) :
    IO UInt32 := do
  IO.sleep 100
  let found ← snapshot s.job
  let changed := (found.zip files).filter fun (new, old) => !sameContent new.2 old.2
  let base : Path := ⟨1, []⟩
  let events := changed.map fun (new, _) => FileEvent.modified new.1.text
  printLog (events.flatMap (s.eventNotes base))
  if (s.handleAll base events).needsReload then
    if ← convertSnapshot s found then watchFiles s found else return 1
  else watchFiles s found

/-- Converts whenever a file changes. -/
def runWatch (job : Job) (output : Path) : IO UInt32 := do
  let session : Session := { job, output }
  let files ← snapshot job
  if ← convertSnapshot session files then
    printLog [Session.startNote]
    watchFiles session files
  else return 1

end MetalLowering

/-- Runs the command that the arguments ask for. -/
def main (arguments : List String) : IO UInt32 :=
  match MetalLowering.Arguments.parse (arguments.map String.toList) with
  | some (.convert job output) => MetalLowering.runConvert job output
  | some (.watch job output) => MetalLowering.runWatch job output
  | none => do
    IO.eprintln "usage: (convert | watch) VERTEX FRAGMENT [-m FILE] [-D SYMBOL] [-o FILE] [-f FORMAT]"
    return 2
