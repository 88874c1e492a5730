/-
# The program

What meets the outside world: the command line, the files of the computer, its clock, and the
terminal.  Everything else is decided elsewhere.
-/
import Deprecation.Command.Run
import Std.Time.DateTime.Timestamp

namespace Deprecation

/-! ## The files of the computer -/

/-- The cause of a failed file operation. -/
def FileError.ofSystem : IO.Error → FileError
  | .noFileOrDirectory _ _ _ => .notFound
  | .inappropriateType _ code _ => if code = 21 then .isADirectory else .notADirectory
  | .alreadyExists _ _ _ => .alreadyExists
  | .unsatisfiedConstraints _ _ => .notEmpty
  | .resourceBusy _ _ => .busy
  | e => .other (toString e)

/-- Carries out a file operation. -/
def attempt {α : Type} (act : IO α) : IO (Except FileError α) := do
  try
    pure (.ok (← act))
  catch e =>
    pure (.error (.ofSystem e))

/-- The files below a directory, at most so deep when a depth is given.  What cannot be read
is skipped. -/
partial def filesBelow (path : String) (depth : Option Nat) : IO (List String) := do
  match depth with
  | some 0 => pure []
  | _ =>
    let entries ←
      try (System.mkFilePath [path]).readDir
      catch _ => pure #[]
    let names := (entries.toList.map (·.fileName)).mergeSort (· ≤ ·)
    let found ← names.mapM fun name => do
      let inner := Path.join path name
      if ← (System.mkFilePath [inner]).isDir then filesBelow inner (depth.map (· - 1))
      else pure [inner]
    pure found.flatten

instance : Disk IO where
  read path := attempt (IO.FS.readBinFile path)
  write path bytes := attempt (IO.FS.writeBinFile path bytes)
  makeDirectory path := attempt (IO.FS.createDir path)
  rename old new := attempt (IO.FS.rename old new)
  isFile path := do
    pure ((← (System.mkFilePath [path]).pathExists) && !(← (System.mkFilePath [path]).isDir))
  isDirectory path := (System.mkFilePath [path]).isDir
  files path depth := do
    if ← (System.mkFilePath [path]).isDir then filesBelow path depth
    else if ← (System.mkFilePath [path]).pathExists then pure [path]
    else pure []

/-! ## The clock -/

/-- A clock that starts now. -/
def clockNow : IO Clock := do
  let t ← Std.Time.Timestamp.now
  pure (Clock.ofEpoch t.toNanosecondsSinceUnixEpoch.val.toNat)

/-! ## Running -/

/-- What is said of a command line that cannot be read. -/
def usage : String :=
  "Usage: ruleforge [-c FILE] [-v] COMMAND\n\n"
    ++ "Commands:\n"
    ++ "  check PATH... [-o FILE] [-m FILE]    check files and directories\n"
    ++ "  ingest FILE (-r VERSION | -d)        mine draft rules from release notes\n"
    ++ "  review ID (approve | reject)         review a draft rule\n"
    ++ "  rules [-s STATE] [--json]            list rules\n"
    ++ "  watch DIRECTORY [-i SECONDS]         ingest new releases as they appear\n"

/-- Looks at a directory again and again. -/
partial def watchForever (w : Watch) (directory : String) (interval : Nat) : IO Unit := do
  let (shown, w, _) ← w.tick (← clockNow) directory
  IO.print shown
  (← IO.getStdout).flush
  IO.sleep (interval * 1000).toUInt32
  watchForever w directory interval

/-- Carries out what a command line asks for. -/
def carryOut (i : Invocation) : IO UInt32 := do
  match ← i.run (← clockNow) with
  | .watching w directory interval => do
    IO.println
      ("Watching " ++ directory ++ " every " ++ toString interval ++ "s (Ctrl-C to stop)")
    watchForever w directory interval
    pure 0
  | .ended o => do
    if i.verbose then o.notes.forM fun note => IO.eprintln note
    IO.print o.shown
    if let some why := o.failure then IO.eprintln ("Error: " ++ why)
    pure o.exitCode.toUInt32

/-- Does what a command line asks for.  Gives the exit code. -/
def runWords (words : List String) : IO UInt32 := do
  match CommandLine.ofWords words with
  | none => do
    IO.eprint usage
    pure 2
  | some .help => do
    IO.print usage
    pure 0
  | some (.run i) => carryOut i

end Deprecation

/-- The program. -/
def main (args : List String) : IO UInt32 := Deprecation.runWords args
