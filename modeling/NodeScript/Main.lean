/-
  The command line.

  A run of the program is a function of its arguments and of what it is given.
  This module collects what is given, which of the files on the disk are the
  ones that the settings name, and carries out on the real machine what the run
  did to its picture of it. If the machine does not allow that, the picture was
  not complete: the run is made again with a picture that has the obstacle, and
  meets with it like with any other. An interactive session on a terminal goes
  line by line, so that every answer is shown before the next line is asked for.
-/
import NodeScript.Diagnostics.Clock
import NodeScript.Invocation.Program
import Std.Time.DateTime.Timestamp

namespace NodeScript.Outer

/-- The bytes of a text of the system. -/
def bytes (s : String) : Bytes := s.toUTF8.toList

/-- The text of bytes that are well-formed. -/
def string (b : Bytes) : String := (String.fromUTF8? ⟨b.toArray⟩).getD ""

/-- The text of a place below the top directory. -/
def placeString (p : List Bytes) : String := string (Path.mk true p).toBytes

/-- What an opened file or directory is. A directory can be opened for reading,
but nothing can be read from it. -/
def entryOf (handle : IO.FS.Handle) : IO Entry := do
  try return .file (← handle.readBinToEnd).toList
  catch _ => return .directory

/-- What stands at a place on the disk, if anything can be opened there. -/
def entryAt? (p : List Bytes) : IO (Option Entry) := do
  try return some (← entryOf (← IO.FS.Handle.mk (placeString p) .read))
  catch _ => return none

/-- The places on the way to a path, the path's own included. -/
def placesTo (current : List Bytes) (path : Bytes) : List (List Bytes) :=
  let whole := if path.head? = some Path.slash then path
    else (Path.mk true current).toBytes ++ [Path.slash] ++ path
  let p := (Path.ofBytes whole).parts
  (List.range (p.length + 1)).map p.take

/-- The part of the disk that leads to the given paths. -/
def picture (paths : List Bytes) : IO Disk := do
  let current := (Path.ofBytes (bytes (← IO.currentDir).toString)).parts
  let mut disk : Disk := { current }
  for p in ([] :: paths).flatMap (placesTo current) do
    unless (disk.get? p).isSome do
      if let some e ← entryAt? p then disk := disk.put e p
  return disk

/-- The reason that the machine gives for not doing what it is asked to. -/
def reasonOf : IO.Error → Bytes
  | .permissionDenied _ _ details | .resourceExhausted _ _ details
  | .noFileOrDirectory _ _ details | .inappropriateType _ _ details
  | .invalidArgument _ _ details => lowerCase (bytes details)
  | .resourceBusy _ details | .hardwareFault _ details | .unsupportedOperation _ details
  | .otherError _ details => lowerCase (bytes details)
  | e => bytes (toString e)

/-- Puts an entry at a place on the disk, unless the machine bars it. -/
def putEntry (p : List Bytes) : Entry → IO (Option Bar)
  | .directory => do
    try
      IO.FS.createDirAll (placeString p)
      return none
    catch e => return some ⟨p, .makingDirectory, reasonOf e⟩
  | .file content => do
    match ← (IO.FS.Handle.mk (placeString p) .write).toBaseIO with
    | .error e => return some ⟨p, .opening, reasonOf e⟩
    | .ok handle =>
      try
        handle.write ⟨content.toArray⟩
        handle.flush
        return none
      catch e => return some ⟨p, .writing, reasonOf e⟩

/-- Makes the disk agree with a picture, where the picture has changed, up to the
first place that the machine bars. -/
def carryOver (before after : Disk) : IO (Option Bar) := do
  for (p, e) in after.tree.toList do
    unless before.get? p == some e do
      if let some bar ← putEntry p e then return some bar
  return none

/-- Takes a step that changes a picture of the disk, and carries the change over.
If the machine bars a place, the step is taken again with the place barred, so
that it finds out for itself. -/
partial def carryThrough {α : Type} (diskAfter : α → Disk) (step : Disk → α) (before : Disk) :
    IO α := do
  let outcome := step before
  match ← carryOver before (diskAfter outcome) with
  | none => return outcome
  | some bar => carryThrough diskAfter step { before with bars := bar :: before.bars }

/-- Writes out what a machine has printed, and forgets it. -/
def flush (m : Machine) : IO Machine := do
  let stdout ← IO.getStdout
  let stderr ← IO.getStderr
  stderr.write ⟨m.stderr.text.toArray⟩
  stderr.flush
  stdout.write ⟨m.stdout.text.toArray⟩
  stdout.flush
  return { m with stdout := {}, stderr := {} }

/-- The picture of the disk that a shell has. -/
def diskOf (s : Shell Desk) : Disk := s.interpreter.host.machine.disk

/-- The shell on another machine. -/
def onMachine (s : Shell Desk) (machine : Machine) : Shell Desk :=
  { s with interpreter :=
      { s.interpreter with host := { s.interpreter.host with machine } } }

/-- The shell with another picture of the disk. -/
def onDisk (s : Shell Desk) (disk : Disk) : Shell Desk :=
  onMachine s { s.interpreter.host.machine with disk }

/-- Writes out what a shell has printed, and forgets it. -/
def flushShell (s : Shell Desk) : IO (Shell Desk) :=
  return onMachine s (← flush s.interpreter.host.machine)

/-- The variables of the environment that the program asks for. -/
def environment : IO Environment := do
  let names := ["XDA_ENV_PATH", "XDA_DIR", "XDA_LOG_FILE", "XDA_LOG_LEVEL",
    "XDA_LOG_FORMAT", "HOME", "BURNTSUSHI_TOML_110"]
  let vars ← names.mapM fun name => do
    return (← IO.getEnv name).toList.map fun value => (bytes name, bytes value)
  return vars.flatten

/-- The paths that a run may read or write once its settings are known. -/
def pathsOf (o : Options) (s : Settings) (env : Environment) : List Bytes :=
  [o.config, Settings.dotenvPath env, o.script, s.logging.file,
    (History.path? env).getD [], Path.below s.dir o.out,
    Path.below s.dir (if s.logFile.isEmpty then Interpreter.defaultSink else s.logFile)]

/-- The part of the disk that a run with the given arguments may read or
write. -/
def diskFor (args : List Bytes) (terminal : Bool) (env : Environment) : IO Disk := do
  match Call.ofArguments args terminal with
  | .ok (.run o) =>
    let disk ← picture [o.config, Settings.dotenvPath env]
    match Settings.inEffect disk env o with
    | .ok (s, env) => picture (pathsOf o s env)
    | .error _ => return disk
  | _ => return {}

/-- All that standard input holds. -/
partial def readAll (stdin : IO.FS.Stream) (before : ByteArray) : IO Bytes := do
  let chunk ← stdin.read 65536
  if chunk.isEmpty then return before.toList else readAll stdin (before ++ chunk)

/-- All that standard input holds, or why it cannot be read. -/
def readStdin : IO (Except Refusal Bytes) := do
  try return .ok (← readAll (← IO.getStdin) .empty)
  catch e => return .error (.system .reading (utf8 "/dev/stdin") (.barred (reasonOf e)))

/-- Asks for lines on a terminal and answers them, until there are no more. -/
partial def converse (s : Shell Desk × History) : IO (Shell Desk × History) := do
  let shell ← flushShell (s.1.print prompt)
  let line ← (← IO.getStdin).getLine
  if line.isEmpty then return (shell, s.2)
  else
    let line := bytes line
    let line := if line.getLast? = some newline then dropReturn line.dropLast else line
    let answer (disk : Disk) := Shell.answerLine (onDisk shell disk, s.2) line
    let (shell, history) ← carryThrough (fun s => diskOf s.1) answer (diskOf shell)
    converse (← flushShell shell, history)

/-- An interactive session on a terminal. -/
def hold (r : Run) : IO ExitStatus := do
  let (shell, history) := Shell.begin r.interpreter r.historyPath
  let (shell, history) ← converse (← flushShell shell, history)
  let shell := shell.print [newline]
  let save (disk : Disk) := Shell.saveHistory (onDisk shell disk, history) r.historyPath
  let (shell, trouble) ← carryThrough (fun s => diskOf s.1) save (diskOf shell)
  let (i, status) := shell.finish trouble
  let _ ← flush i.host.machine
  return status

/-- The picture of the disk after a run has been set up, or has ended at once. -/
def diskAfterSetup : Except (ExitStatus × Machine) Run → Disk
  | .error (_, machine) => machine.disk
  | .ok r => r.interpreter.host.machine.disk

/-- Carries out a run on the real machine. -/
def perform (args : List Bytes) (terminal : Bool) : IO ExitStatus := do
  let env ← environment
  let disk ← diskFor args terminal env
  let random ← IO.getRandomBytes 16
  let now ← Std.Time.Timestamp.now
  let given : Given :=
    { terminal, env, disk, id := identity random.toList
      time := timestamp now.toSecondsSinceUnixEpoch.val.toNat }
  let setUp (disk : Disk) := Run.prepare args { given with disk }
  match ← carryThrough diskAfterSetup setUp disk with
  | .error (status, machine) =>
    let _ ← flush machine
    return status
  | .ok r =>
    if r.options.interactive && terminal then hold r
    else
      let needsInput := r.options.interactive ||
        (r.options.command.isEmpty && r.options.script.isEmpty)
      let stdin ← if needsInput then readStdin else pure (.ok [])
      let run (disk : Disk) := runProgram args { given with disk, stdin }
      let (status, machine) ← carryThrough (fun outcome => outcome.2.disk) run disk
      let _ ← flush machine
      return status

end NodeScript.Outer

/-- Runs the program with the arguments of the command line. -/
def main (args : List String) : IO UInt32 := do
  let terminal ← (← IO.getStdin).isTty
  let status ← NodeScript.Outer.perform (args.map NodeScript.Outer.bytes) terminal
  return status.code.toUInt32
