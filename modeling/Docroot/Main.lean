import Docroot.Server.Program
import Std.Time.DateTime.Timestamp

/-!
# The command

Runs the program for one connection, handed over by whatever listens on the address: the octets
that the client sends come from standard input, and those it gets go to standard output. A log
without a file, and what the user is told, go to standard error.

This module takes a picture of the files, reads the environment and the clock, calls
`Server.run`, and writes down what came of it. It decides nothing else.
-/

namespace Docroot.Command

open Docroot.Files
open Docroot.Server

/-! ## 1. What the program finds -/

/-- A name as octets. -/
def octets (s : String) : Bytes := s.toUTF8.toList

/-- A time of a file. -/
def instantOf (t : IO.FS.SystemTime) : Time.Instant := ⟨t.sec, t.nsec.toNat⟩

/-- A directory, by its names and what is at each of them. Where there is none of which that is known,
    the directory lets no name be followed. -/
def directoryOf (entries : List (Bytes × Option Node)) : Node :=
  if entries ≠ [] ∧ entries.all (·.2.isNone) then
    .directory (entries.map fun (name, _) => (name, .pipe)) { search := false }
  else .directory (entries.filterMap fun (name, n?) => n?.map (name, ·))

/-- What is at a directory entry; none where it cannot be looked at. -/
partial def nodeOf? (e : IO.FS.DirEntry) : IO (Option Node) := do
  try
    let m ← e.path.metadata
    match m.type with
    | .dir =>
      let listed ← try
          pure (some (← e.path.readDir).toList)
        catch _ => pure none
      match listed with
      | none => return some (.directory [] { read := false })
      | some entries =>
        return some (directoryOf (← entries.mapM fun c => do
          return (octets c.fileName, ← nodeOf? c)))
    | .file =>
      let content ← try
          pure (Content.bytes (← IO.FS.readBinFile e.path).toList)
        catch _ => pure Content.unreadable
      return some (.file content (instantOf m.modified))
    | _ => return some .pipe
  catch _ => return none

/-- The files under the directory of a path from the root, each in its place. -/
def filesUnder (path : Path) : IO FileSystem := do
  let bare : FileSystem := { top := .directory [], here := [] }
  let fs := (bare.makeDirectories path).1
  match ← nodeOf? { root := "/", fileName := String.ofList (Path.ofNames path.steps).display } with
  | some n => return fs.putAt path.steps n
  | none => return fs

/-- The sections that have settings, with their settings. -/
def settingNames : List (String × List String) := [
  ("LOGGING", ["LEVEL", "ACCESS_LOG", "ACCESS_LOG_FORMAT", "ACCESS_LOG_FILE", "ERROR_LOG_FILE"]),
  ("PERFORMANCE", ["CONNECTION_TIMEOUT"]),
  ("HTTP", ["SERVER_NAME"])]

/-- The environment variables that are settings. -/
def settingVariables : List String :=
  settingNames.flatMap fun (section_, names) =>
    names.map fun name => String.ofList environmentStem ++ "_" ++ section_ ++ "__" ++ name

/-- The environment variables that are set, with their values. -/
def readEnvironment : IO (List (Text × Text)) :=
  settingVariables.filterMapM fun name => do
    return (← IO.getEnv name).map fun value => (name.toList, value.toList)

/-- The time. -/
def now : IO Time.Instant := do
  let t ← Std.Time.Timestamp.now
  return ⟨t.toSecondsSinceUnixEpoch.val, (t.toNanosecondsSinceUnixEpoch.val % 1000000000).toNat⟩

/-! ## 2. The connection -/

/-- What the client sends: to the end of a head, or to the end of all, or as much as there is
    where the head is faulty. -/
partial def receive (input : IO.FS.Stream) (sent : Bytes) : IO Bytes := do
  match Http.readHead sent with
  | .error .unfinished =>
    let chunk ← input.read 4096
    if chunk.isEmpty then return sent else receive input (sent ++ chunk.toList)
  | _ => return sent

/-- The address of the client, as far as the listener tells it. -/
def readPeer : IO SocketAddress := do
  let host := (← IO.getEnv "REMOTE_ADDR").getD "0.0.0.0"
  let port := (← IO.getEnv "REMOTE_PORT").getD "0"
  return (SocketAddress.read? (host ++ ":" ++ port).toList).getD { ip := anyAddress, port := 0 }

/-! ## 3. What came of it -/

/-- Writes a log file as the program left it. -/
def writeSink (fs : FileSystem) : Log.Sink → IO Unit
  | .file place => do
    let path : Path := Path.slash :: Path.ofNames place
    match fs.read path with
    | .ok data =>
      let directory := Path.display (Path.slash :: Path.ofNames place.dropLast)
      IO.FS.createDirAll (String.ofList directory)
      IO.FS.writeBinFile (String.ofList path.display) ⟨data.toArray⟩
    | .error _ => pure ()
  | _ => pure ()

/-- Writes what the program wrote. -/
def writeRun (run : Run) : IO UInt32 := do
  for reply in run.replies do
    (← IO.getStdout).write ⟨reply.toArray⟩
  IO.eprint (String.ofList run.journal.output)
  IO.eprint (String.ofList run.journal.errors)
  for w in run.journal.writer.toList do
    writeSink run.journal.files w.access
    writeSink run.journal.files w.error
  return if run.ending = .failure then 1 else 0

/-- Runs the program for one connection. -/
def serveOne : IO UInt32 := do
  let executable : Path := octets (← IO.appPath).toString
  let files ← filesUnder (executable.parent?.getD [])
  let start ← now
  let sent ← receive (← IO.getStdin) []
  let peer ← readPeer
  -- at the end of what the client sends nothing more can be read, which only an open head needs
  let disturbance : Disturbance := match Http.readHead sent with
    | .error .unfinished => .lost .closed
    | _ => .nothing
  let client : Client := { peer, sent, disturbance }
  let arrival : Arrival := .client ⟨⟨start, 0⟩, 0⟩ client
  let surroundings : Surroundings :=
    { files, executable := .ok executable, environment := ← readEnvironment, held := []
      now := start }
  match run surroundings [{ arrival := some arrival }, { stop := some .quiet }] with
  | .ok r => writeRun r
  | .error _ => return 101

end Docroot.Command

/-- Serves the connection on the standard streams. -/
def main : IO UInt32 := Docroot.Command.serveOne
