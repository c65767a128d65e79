import Docroot.Server.Listener
import Docroot.Server.Loop
import Docroot.Settings.Load

/-!
# The program

The server serves the directory that its executable is in, so that it serves the same files
wherever it is started from. It enters that directory, reads the settings, sets up the logs, takes
its address, tells the user, and accepts connections until it is stopped.

A step that fails ends the program with an error, which goes where the logs go by then: to standard
error until they are set up.
-/

namespace Docroot.Server

open Docroot.Files
open Docroot.Log (Journal WriterOptions)

/-! ## 1. Before the first connection -/

/-- What the program finds when it is started. -/
structure Surroundings where
  files : FileSystem
  /-- The path of the executable. -/
  executable : Except IoError Path
  /-- The environment variables. -/
  environment : List (Text × Text)
  /-- The addresses that others listen on. -/
  held : List SocketAddress
  now : Time.Instant

/-- The directory of the executable. -/
def executableDirectory (executable : Except IoError Path) : Except StartError Path :=
  match executable with
  | .error e => .error (.workingDirectory [Path.dot] e)
  | .ok p => .ok (p.parent?.getD [Path.dot])

/-- The file system with another working directory. -/
def enter (fs : FileSystem) (dir : Path) : Except StartError FileSystem :=
  match fs.resolve true dir with
  | .error e => .error (.workingDirectory dir e)
  | .ok place =>
    if fs.isDirectory dir then .ok { fs with here := place }
    else .error (.workingDirectory dir .notDirectory)

/-- The path of the working directory, from the root. -/
def workingDirectory (fs : FileSystem) : Path := Path.slash :: Path.ofNames fs.here

/-- How the settings want the logs. -/
def writerOptions (s : LoggingSettings) : WriterOptions :=
  ⟨s.accessLogFile, s.errorLogFile, s.isDebug⟩

/-- What is written so far, and a value or the error that ends the program. -/
abbrev Start (α : Type) := Journal × Except StartError α

/-- **Gets the server ready**: its site, and the address it listens on. -/
def start (s : Surroundings) : Start (Site × SocketAddress) :=
  let nothing : Journal := { files := s.files }
  match (executableDirectory s.executable).bind (enter s.files) with
  | .error e => (nothing, .error e)
  | .ok files =>
    let entered : Journal := { files }
    match Settings.load files s.environment with
    | .error fault => (entered, .error (.settings fault))
    | .ok settings =>
      match entered.setUp s.now (writerOptions settings.logging) with
      | (j, .error e) => (j, .error (.io e))
      | (j, .ok ()) =>
        match bind s.held listenAddress with
        | .error e => (j, .error e)
        | .ok addr =>
          (j, .ok ({ settings, root := workingDirectory files, policy := .indexOrListing }, addr))

/-! ## 2. The whole run -/

/-- How the program ended, or that it goes on. -/
inductive Ending where
  | success
  | failure
  | running
  deriving DecidableEq, Repr

/-- What a run of the program comes to. -/
structure Run where
  journal : Journal
  replies : List Bytes
  ending : Ending

/-- What is written when the server is ready. -/
def welcome (j : Journal) (site : Site) (addr : SocketAddress) : Journal :=
  (j.banner addr.port).notice (.serving site.root)

/-- The run of a server that is ready. -/
def serve (j : Journal) (site : Site) (addr : SocketAddress) (rounds : List Round) :
    Except Unserved Run := do
  let course ← acceptLoop site (welcome j site addr) rounds
  .ok (if course.ended then ⟨course.journal.farewell, course.replies, .success⟩
    else ⟨course.journal, course.replies, .running⟩)

/-- **The run of the program**, over the rounds that its loop goes through. -/
def run (s : Surroundings) (rounds : List Round) : Except Unserved Run :=
  match start s with
  | (j, .error e) => .ok ⟨j.notice (.error e.message), [], .failure⟩
  | (j, .ok (site, addr)) => serve j site addr rounds

end Docroot.Server
