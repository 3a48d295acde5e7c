import GridRobot.Client.Console
import GridRobot.Client.SettingsFile
import Std.Time.DateTime.Timestamp

/-!
# The program

The outermost layer: it collects the environment and what the client needs to know of its host,
calls `client`, and carries out what the transcript says.

* `main`.
-/

namespace GridRobot.Program

/-- The variables that the client reads. -/
def settingNames : List String :=
  ["ROBOT_COMMAND", "ROBOT_SHOW_PATH", "ROBOT_JSON", "ROBOT_LOG_TO_FILE", "ROBOT_LOG_DIR",
    "ROBOT_SESSION_ID", "RUST_LOG", "HOME", "XDG_CACHE_HOME"]

/-- The settings file in the working directory or the nearest directory above it. -/
def settings : IO String := do
  let mut dir := some (← IO.currentDir)
  for _ in [0:256] do
    match dir with
    | none => return ""
    | some d =>
      try
        return ← IO.FS.readFile (d / ".env")
      catch _ =>
        dir := d.parent
  return ""

/-- The variables of the process and of the settings file. -/
def environment : IO Environment := do
  let text ← settings
  let found ← (settingNames ++ SettingsFile.words text).mapM fun name => do
    return (← IO.getEnv name).map fun value => (name, value)
  return SettingsFile.load (found.filterMap id) text

/-- What is found on the way to a directory. -/
def surroundings (dir : String) : IO FileTree := do
  let cwd ← IO.currentDir
  let tree : FileTree := ⟨Path.names cwd.toString, []⟩
  let names := Path.names dir
  let mut entries := []
  for n in [0:names.length] do
    let part := "/".intercalate (names.take (n + 1))
    let path := if Path.isAbsolute dir then "/" ++ part else part
    if ← (cwd / path).isDir then
      entries := (tree.place path, .directory) :: entries
    else if ← (cwd / path).pathExists then
      entries := (tree.place path, .file) :: entries
  return { tree with entries }

/-- The host of a call with the given environment. -/
def host (env : Environment) : IO Host := do
  let seconds := (← Std.Time.Timestamp.now).toSecondsSinceUnixEpoch.val.toNat
  let bare : Host := ⟨seconds, none, ⟨[], []⟩⟩
  match LogFile.of? (Config.ofEnvironment env) env bare with
  | none => return bare
  | some logFile => return { bare with files := ← surroundings logFile.dir }

/-- Appends lines to a file, whose directory is made if it is missing. -/
def append (file : LogFile) (lines : List String) : IO Unit := do
  unless file.dir.isEmpty do
    IO.FS.createDirAll file.dir
  let handle ← IO.FS.Handle.mk file.path .append
  for line in lines do
    handle.putStrLn line

/-- Does what a transcript says and returns the exit code. -/
def write (t : Transcript) : IO UInt32 := do
  let stderr ← IO.getStderr
  if let some file := t.logFile then
    try
      append file (t.events.map Event.fileLine)
    catch e =>
      stderr.putStr (errorText ("Failed to create log directory: " ++ file.dir) (toString e))
      return 1
  for event in t.events do
    stderr.putStrLn event.consoleLine
  IO.print t.stdout
  stderr.putStr t.stderr
  return UInt32.ofNat t.exit

end GridRobot.Program

/-- The command-line program. -/
def main (arguments : List String) : IO UInt32 := do
  let env ← GridRobot.Program.environment
  GridRobot.Program.write (GridRobot.client arguments env (← GridRobot.Program.host env))
