import MetalLowering.Command.Job
import MetalLowering.Text.ControlSequence

/-!
# The convert command

Converts a shader pair once and prints the result, or writes it to a file. What is printed has no
control sequences of terminals. A failure that the command expects is logged in words that depend on
its cause; any other ends the command as it is. A failure to lower the pair comes before anything is
written or printed; a failure to encode the result comes after the output file was opened.
-/

namespace MetalLowering

/-- What a command leaves behind. -/
structure Outcome where
  /-- The files. -/
  store : Store
  /-- The log. -/
  log : List Entry
  /-- What is printed. -/
  printed : Text := []
  /-- The exit status. -/
  status : Nat := 0
  /-- The failure that ended the command, if it did not expect it. -/
  unexpected : Option JobFailure := none

/-- How the convert command reports a failure, if it expects it. -/
def convertReport (e : JobFailure) : Option Text :=
  match e.cause with
  | .files => some ("Failed to read shader files: " ++ e.message)
  | .content => some ("Invalid metadata: " ++ e.message)
  | .shader => some ("Transpilation error: " ++ e.message)
  | .unexpected => none

/-- The convert command: without an output file it prints the result. -/
def convert (store : Store) (clock : Clock) (room : Nat) (job : Job) (output : Option Path) :
    Outcome :=
  let prepared := job.prepare room store.read clock convertReport
  match prepared.result, output with
  | .error unexpected, _ => { store, log := prepared.log, status := 1, unexpected }
  | .ok result, none =>
    let printed := { result with text := Text.withoutControlSequences result.text }
    match printed.encode with
    | .ok _ => { store, log := prepared.log, printed := printed.text }
    | .error e => { store, log := prepared.log, status := 1, unexpected := some (.encoding e) }
  | .ok result, some path =>
    let saved := Job.save store path result
    { store := saved.store
      log := prepared.log ++ saved.log
      status := if saved.failure.isSome then 1 else 0
      unexpected := saved.failure }

end MetalLowering
