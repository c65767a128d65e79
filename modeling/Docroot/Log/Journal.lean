import Docroot.Files.Change
import Docroot.Log.Notice
import Docroot.Text.Quoted

/-!
# Where the logs go

A process writes to four places: its two standard streams, and the files that the access log and
the error log were opened on. Until the log writer is set up, access lines go to standard output,
error lines to standard error, and debug messages nowhere. Setting it up can be done once; after
that the sinks and the debug switch are fixed. What is said to the user at start and end goes to
standard output in any case.

Every line ends in one line feed, and what is written is put at the end of what is there, so two
logs on one file come out in the order of writing.
-/

namespace Docroot.Log

open Docroot.Files

/-! ## 1. The writer -/

/-- Where a log's lines go. -/
inductive Sink where
  | standardOutput
  | standardError
  /-- A file, by its place. -/
  | file (place : Place)
  deriving DecidableEq, Repr

/-- The log writer: two sinks, and whether debug messages are written. -/
structure Writer where
  access : Sink
  error : Sink
  debug : Bool
  deriving DecidableEq, Repr

/-- How the log writer is to be set up. -/
structure WriterOptions where
  accessLogFile : Option Text
  errorLogFile : Option Text
  debug : Bool
  deriving DecidableEq, Repr

/-- One thing to write, to the one log or the other. -/
inductive Item where
  | access (line : Text)
  | notice (n : Notice)
  deriving DecidableEq, Repr

/-- What a process has written, and its log writer, if it is set up. -/
structure Journal where
  files : FileSystem
  output : Text := []
  errors : Text := []
  writer : Option Writer := none

/-! ## 2. Setting up -/

/-- The log writer is set up already. -/
def alreadySetUp : IoError := .custom .alreadyExists "Log writer already initialized".toList

/-- Opens a log file; the directories it is in are made if they are missing. -/
def openLogFile (fs : FileSystem) (now : Time.Instant) (name : Text) :
    FileSystem × Except IoError Sink :=
  let p : Path := Utf8.encode name
  let made := match p.parent? with
    | some parent => fs.makeDirectories parent
    | none => (fs, .ok ())
  match made with
  | (fs, .error e) => (fs, .error e)
  | (fs, .ok ()) =>
    match fs.openForAppend now p with
    | .error e => (fs, .error e)
    | .ok (fs, place) => (fs, .ok (.file place))

/-- The sink of a log: its file if it has one. -/
def openSink (fs : FileSystem) (now : Time.Instant) (name : Option Text) (otherwise : Sink) :
    FileSystem × Except IoError Sink :=
  match name with
  | some n => openLogFile fs now n
  | none => (fs, .ok otherwise)

namespace Journal

/-- **Sets up the log writer**, or says why not. The access log is opened first; files that were
    made stay, also when the error log cannot be opened or the writer was set up before. -/
def setUp (j : Journal) (now : Time.Instant) (o : WriterOptions) :
    Journal × Except IoError Unit :=
  match openSink j.files now o.accessLogFile .standardOutput with
  | (files, .error e) => ({ j with files }, .error e)
  | (files, .ok access) =>
    match openSink files now o.errorLogFile .standardError with
    | (files, .error e) => ({ j with files }, .error e)
    | (files, .ok error) =>
      match j.writer with
      | some _ => ({ j with files }, .error alreadySetUp)
      | none => ({ j with files, writer := some ⟨access, error, o.debug⟩ }, .ok ())

/-! ## 3. Writing -/

/-- Puts text at the end of a sink. -/
def put (j : Journal) (s : Sink) (t : Text) : Journal :=
  match s with
  | .standardOutput => { j with output := j.output ++ t }
  | .standardError => { j with errors := j.errors ++ t }
  | .file place => { j with files := j.files.append place (Utf8.encode t) }

/-- Writes a line to a sink. -/
def putLine (j : Journal) (s : Sink) (line : Text) : Journal := j.put s (line ++ ['\n'])

/-- Where access lines go. -/
def accessSink (j : Journal) : Sink := (j.writer.map (·.access)).getD .standardOutput

/-- Where error lines go. -/
def errorSink (j : Journal) : Sink := (j.writer.map (·.error)).getD .standardError

/-- Are debug messages written? -/
def debugOn (j : Journal) : Bool := (j.writer.map (·.debug)).getD false

/-- **Writes a line to the access log.** -/
def access (j : Journal) (line : Text) : Journal := j.putLine j.accessSink line

/-- **Writes a notice to the error log**; a debug message only where they are written. -/
def notice (j : Journal) (n : Notice) : Journal :=
  if n.severity = .debug ∧ j.debugOn = false then j else j.putLine j.errorSink n.line

/-- Writes an item to the log it is for. -/
def item (j : Journal) : Item → Journal
  | .access line => j.access line
  | .notice n => j.notice n

/-- Writes items in order. -/
def items (j : Journal) (is : List Item) : Journal := is.foldl item j

/-- Writes notices in order. -/
def notices (j : Journal) (ns : List Notice) : Journal := ns.foldl notice j

/-! ## 4. What the user is told -/

/-- The lines at the start. -/
def bannerLines (port : Nat) : List Text :=
  let host := "http://localhost:".toList ++ Digits.decimal port
  ["Server running at ".toList ++ host ++ ['/'],
    "Open ".toList ++ host ++ "/index.html in your browser".toList,
    "Press Ctrl+C to stop the server".toList]

/-- **Tells the user where the server is**, on standard output. -/
def banner (j : Journal) (port : Nat) : Journal :=
  (bannerLines port).foldl (·.putLine .standardOutput ·) j

/-- **Tells the user that the server has stopped**, on standard output. -/
def farewell (j : Journal) : Journal :=
  j.putLine .standardOutput "\nServer stopped.".toList

end Journal

end Docroot.Log
