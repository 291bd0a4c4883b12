import Timings.Run

/-!
The program: runs on the files and the outputs of a process.
-/

namespace Timings

/-- A process, and the file that its records go to, if they go to one. -/
abbrev Console := StateT (Option IO.FS.Handle) IO

namespace Console

/-- The fault of an error number of the system. -/
def fault (code : UInt32) (details : String) : SystemFault :=
  let text := details ++ " (os error " ++ toString code ++ ")"
  if code = 2 then .notFound
  else if code = 4 then .reported .interrupted text
  else if code = 16 then .busy
  else if code = 20 then .notADirectory
  else if code = 21 then .isADirectory
  else if code = 36 then .nameTooLong
  else .reported .other text

/-- The fault behind an error. -/
def faultOf : IO.Error → SystemFault
  | .alreadyExists _ code details | .interrupted _ code details
  | .noFileOrDirectory _ code details | .invalidArgument _ code details
  | .permissionDenied _ code details | .resourceExhausted _ code details
  | .inappropriateType _ code details | .noSuchThing _ code details
  | .otherError code details | .resourceBusy code details | .resourceVanished code details
  | .unsupportedOperation code details | .hardwareFault code details
  | .unsatisfiedConstraints code details | .illegalOperation code details
  | .protocolError code details | .timeExpired code details => fault code details
  | .unexpectedEof => .reported .other "unexpected end of file"
  | .userError text => .reported .other text

/-- Tries an action. -/
def attempt {α : Type} (action : IO α) : Console (Except SystemFault α) := do
  match ← action.toBaseIO with
  | .ok a => return .ok a
  | .error e => return .error (faultOf e)

/-- What reading a file to its end gives, up to a fault. -/
partial def deliveries (file : IO.FS.Handle) (before : Array Delivery) : IO (Array Delivery) := do
  match ← (file.read 65536).toBaseIO with
  | .error e => return before.push (.fault (faultOf e))
  | .ok content =>
    if content.isEmpty then return before
    else deliveries file (before.push (.bytes content.toList))

instance : Host Console where
  writeFile path content := attempt (IO.FS.writeBinFile path content.toByteArray)
  renameFile path newPath := attempt (IO.FS.rename path newPath)
  removeFile path := attempt (IO.FS.removeFile path)
  print text := (IO.print text : IO Unit)
  complain text := (IO.eprint text : IO Unit)
  openLog path := do
    match ← attempt (IO.FS.Handle.mk path .append) with
    | .ok file =>
      set (some file)
      return .ok ()
    | .error fault => return .error fault
  log r := do
    let line := r.line (Log.Record.seconds (← IO.monoMsNow))
    match ← get with
    | some file => (file.putStr line *> file.flush : IO Unit)
    | none => (IO.eprint line : IO Unit)
  openInput path := do
    match ← attempt (IO.FS.Handle.mk path .read) with
    | .ok file => return .ok ⟨[], (← deliveries file #[]).toList⟩
    | .error fault => return .error fault
  view _ := return .error (.reported .other "No such device or address (os error 6)")
  clock := IO.monoMsNow

end Console

end Timings

/-- Runs the program with its arguments. -/
def main (arguments : List String) : IO UInt32 := do
  let environment : Timings.Environment := {
    logLevel := ← IO.getEnv "BENCH_STATS_LOG_LEVEL"
    logFile := ← IO.getEnv "BENCH_STATS_LOG_FILE"
    colours := ← IO.getEnv "COLORFGBG" }
  let (status, _) ← (Timings.Run.command environment arguments : Timings.Console Nat).run none
  return status.toUInt32
