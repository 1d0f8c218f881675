import MetalLowering.Command.Job

/-!
# The watch command

Converts a shader pair to a file, and again whenever one of its files changes. A `Session` knows
whether a change was seen since the last conversion. Failures are logged and watching goes on,
except for those no command expects.

A run of the command is driven by ticks: in each, files change, then events arrive, and at its end
the session converts if an event named one of its files, at the time that it is then. After the last
tick the command is interrupted.
-/

namespace MetalLowering

/-- A notice about a file. -/
inductive FileEvent
  | modified (path : Text)
  | created (path : Text)
  | moved (source target : Text)

/-- The path that may hold new content after an event. -/
def FileEvent.path : FileEvent → Text
  | .modified path => path
  | .created path => path
  | .moved _ target => target

/-- A watched shader pair. -/
structure Session where
  /-- What to convert. -/
  job : Job
  /-- Where to write the result. -/
  output : Path
  /-- How deep the metadata can be nested. -/
  room : Nat := sessionRoom
  /-- Whether a change was seen. -/
  needsReload : Bool := false

namespace Session

/-- The absolute paths of the watched files, each once. -/
def watched (s : Session) (base : Path) : List Path :=
  ([s.job.vertex, s.job.fragment] ++ s.job.metadata.toList).map (·.absolute base) |>.eraseDups

/-- The directories of the watched files, each once. -/
def directories (s : Session) (base : Path) : List Path :=
  ((s.watched base).map (·.directory)).eraseDups

/-- Whether an event concerns a watched file. -/
def concerns (s : Session) (base : Path) (event : FileEvent) : Bool :=
  (s.watched base).contains ((Path.ofText event.path).absolute base)

/-- The session after an event. -/
def handle (s : Session) (base : Path) (event : FileEvent) : Session :=
  if s.concerns base event then { s with needsReload := true } else s

/-- What is noted of an event. -/
def eventNotes (s : Session) (base : Path) (event : FileEvent) : List Entry :=
  if s.concerns base event then [⟨.info, "Detected changes in " ++ event.path⟩] else []

/-- What a conversion of a session leaves behind. -/
structure Conversion where
  /-- The files. -/
  store : Store
  /-- The log. -/
  log : List Entry
  /-- Whether the output was written, or the failure that was not expected. -/
  result : Except JobFailure Bool

/-- How a session reports a failure, if it expects it. -/
def report (e : JobFailure) : Option Text :=
  match e.cause with
  | .unexpected => none
  | _ => some ("Transpilation error: " ++ e.message)

/-- Converts the pair of a session to its output. -/
def convert (s : Session) (store : Store) (clock : Clock) : Conversion :=
  let prepared := s.job.prepare s.room store.read clock report
  match prepared.result with
  | .error none => ⟨store, prepared.log, .ok false⟩
  | .error (some e) => ⟨store, prepared.log, .error e⟩
  | .ok result =>
    let saved := Job.save store s.output result
    ⟨saved.store, prepared.log ++ saved.log,
      match saved.failure with
      | some e => .error e
      | none => .ok true⟩

end Session

/-- What happens while the command sleeps. -/
structure Tick where
  /-- What is put under the given absolute parts, or taken away. -/
  changes : List (List Text × Option Node) := []
  /-- The events that arrive after it. -/
  events : List FileEvent := []
  /-- The time at its end. -/
  clock : Clock

/-- The store after the changes of a tick. -/
def Tick.apply (t : Tick) (store : Store) : Store :=
  t.changes.foldl (fun store change =>
    match change.2 with
    | some node => store.install change.1 node
    | none => store.erase change.1) store

/-- The part of a run between two sleeps. -/
structure Period where
  /-- The files at its start, after the changes of its tick. -/
  before : Store
  /-- The files at its end. -/
  after : Store
  /-- What is logged in it. -/
  log : List Entry

/-- A run of the watch command. -/
structure WatchRun where
  /-- The parts between sleeps, in order. -/
  periods : List Period
  /-- The directories that are watched. -/
  directories : List Path := []
  /-- Whether watching has started, and so has been ended in order. -/
  started : Bool := false
  /-- The failure that ended the run, if it was not the interruption. -/
  unexpected : Option JobFailure := none

namespace Session

/-- Hands the events over in order. -/
def handleAll (s : Session) (base : Path) (events : List FileEvent) : Session :=
  events.foldl (fun s event => s.handle base event) s

/-- What is noted when watching starts. -/
def startNote : Entry := ⟨.info, "Watching shader files (press Ctrl+C to exit)..."⟩

/-- What is noted when watching is interrupted. -/
def stopNote : Entry := ⟨.info, "Keyboard interrupt received, stopping..."⟩

/-- The periods after the start, one for each tick and one after the interruption. -/
def watchTicks (s : Session) (base : Path) (store : Store) :
    List Tick → List Period × Option JobFailure
  | [] => ([⟨store, store, [stopNote]⟩], none)
  | tick :: rest =>
    let before := tick.apply store
    let notes := tick.events.flatMap (s.eventNotes base)
    let s := s.handleAll base tick.events
    if s.needsReload then
      let done := s.convert before tick.clock
      let period : Period := ⟨before, done.store, notes ++ done.log⟩
      match done.result with
      | .error e => ([period], some e)
      | .ok _ =>
        let (periods, failure) := watchTicks { s with needsReload := false } base done.store rest
        (period :: periods, failure)
    else
      let (periods, failure) := watchTicks s base before rest
      (⟨before, before, notes⟩ :: periods, failure)

/-- A run of the watch command over a list of ticks, started at a time. -/
def watch (s : Session) (store : Store) (clock : Clock) (ticks : List Tick) : WatchRun :=
  let base : Path := ⟨1, store.base⟩
  let first := s.convert store clock
  match first.result with
  | .error e => { periods := [⟨store, first.store, first.log⟩], unexpected := some e }
  | .ok _ =>
    let (periods, unexpected) := s.watchTicks base first.store ticks
    { periods := ⟨store, first.store, first.log ++ [startNote]⟩ :: periods
      directories := s.directories base
      started := true
      unexpected }

end Session

end MetalLowering
