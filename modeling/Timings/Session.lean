import Timings.Run

/-!
Runs as functions: a `Session` holds everything that a run can see and change.
-/

namespace Timings

/-- Where the records of a run go. -/
inductive LogSink where
  /-- Where errors go. -/
  | errors
  /-- To the end of a file. -/
  | file (location : Files.Location)
  /-- To a file that has been replaced or removed since, where nobody sees them. -/
  | lost
deriving DecidableEq, Repr

namespace LogSink

/-- The sink after a file was moved: it goes with its own file, and is lost with the
file that is replaced. -/
def moved (m : Files.Tree.Move) : LogSink → LogSink
  | file location =>
    if location = m.source then .file m.target
    else if location = m.target then .lost
    else .file location
  | sink => sink

/-- The sink after a file was removed. -/
def removed (location : Files.Location) : LogSink → LogSink
  | file l => if l = location then .lost else .file l
  | sink => sink

end LogSink

/-- The world of a run. -/
structure Session where
  disk : Files.Disk
  /-- How the terminal answers, if the run shows a view. -/
  terminal : Script
  /-- The time that stands in front of each record. -/
  stamp : String
  output : String := ""
  errors : String := ""
  sink : LogSink := .errors

namespace Session

/-- The terminal of a run that has none. -/
def noTerminal : Script where
  enableRawMode := some (.reported .other "No such device or address (os error 6)")
  size := .error (.reported .other "No such device or address (os error 6)")
  rounds := []
  ending := .reported .other "No such device or address (os error 6)"

/-- The session before a run without a terminal, on these files. -/
def on (tree : Files.Tree) (stamp : String) : Session :=
  { disk := { tree := tree }, terminal := noTerminal, stamp := stamp }

/-- Appends a text to a file, if it is there. -/
def append (d : Files.Disk) (location : Files.Location) (text : String) : Files.Disk :=
  match d.tree.at? location with
  | some (.file content) => d.become (d.tree.setFile location (content ++ Bytes.ofText text))
  | _ => d

/-- Writes a text where records go. -/
def emit (s : Session) (text : String) : Session :=
  match s.sink with
  | .errors => { s with errors := s.errors ++ text }
  | .file location => { s with disk := append s.disk location text }
  | .lost => s

/-- Writes a record where records go. -/
def log (s : Session) (r : Log.Record) : Session := s.emit (r.line s.stamp)

/-- Has records go to a file, which is created if need be. -/
def openLog (s : Session) (path : String) : Except SystemFault Unit × Session :=
  match s.disk.tree.findWritable path with
  | .error fault => (.error fault, s)
  | .ok (location, content) =>
    (.ok (), { s with
      disk := s.disk.become (s.disk.tree.setFile location content), sink := .file location })

/-- Writes a file. -/
def writeFile (s : Session) (path : String) (content : Bytes) :
    Except SystemFault Unit × Session :=
  let (answer, disk) := s.disk.writeFile path content
  (answer, { s with disk := disk })

/-- Moves a file. -/
def renameFile (s : Session) (path newPath : String) : Except SystemFault Unit × Session :=
  let (answer, disk) := s.disk.renameFile path newPath
  match answer, s.disk.tree.findMove path newPath with
  | .ok (), .ok m => (.ok (), { s with disk := disk, sink := s.sink.moved m })
  | answer, _ => (answer, { s with disk := disk })

/-- Removes a file. -/
def removeFile (s : Session) (path : String) : Except SystemFault Unit × Session :=
  let (answer, disk) := s.disk.removeFile path
  match answer, s.disk.tree.findRemovable path with
  | .ok (), .ok location => (.ok (), { s with disk := disk, sink := s.sink.removed location })
  | answer, _ => (answer, { s with disk := disk })

instance : Host (StateM Session) where
  writeFile path content := fun s => s.writeFile path content
  renameFile path newPath := fun s => s.renameFile path newPath
  removeFile path := fun s => s.removeFile path
  print text := fun s => ((), { s with output := s.output ++ text })
  complain text := fun s => ((), { s with errors := s.errors ++ text })
  openLog path := fun s => s.openLog path
  log r := fun s => ((), s.log r)
  openInput path := fun s => (s.disk.openFile path, s)
  view v := fun s => ((v.run s.terminal).result, s)
  clock := fun s => (0, s)

/-- What a command line does in a session: the exit status, and the session behind
the run. -/
def run (s : Session) (environment : Environment) (arguments : List String) : Nat × Session :=
  (Run.command environment arguments : StateM Session Nat) s

end Session

end Timings
