import Docroot.Files.Error
import Docroot.Files.Path
import Docroot.Http.Draft
import Docroot.Http.Method

/-!
# Notices

What the server has to say beside its answers goes to the error log, one notice per line, each
under its severity. Debug notices are written only when the log level asks for them.
-/

namespace Docroot.Log

/-- How grave a notice is. -/
inductive Severity where
  | error
  | warning
  | debug
  deriving DecidableEq, Repr

/-- The word that stands in front of a notice. -/
def Severity.label : Severity → Text
  | .error => "[ERROR]".toList
  | .warning => "[WARN]".toList
  | .debug => "[DEBUG]".toList

/-- One message for the error log. -/
structure Notice where
  severity : Severity
  message : Text
  deriving DecidableEq, Repr

namespace Notice

/-- **The line of a notice.** -/
def line (n : Notice) : Text := n.severity.label ++ ' ' :: n.message

/-- An error. -/
def error (message : Text) : Notice := ⟨.error, message⟩
/-- A warning. -/
def warning (message : Text) : Notice := ⟨.warning, message⟩
/-- A debug message. -/
def debug (message : Text) : Notice := ⟨.debug, message⟩

/-! ## What is noticed while a request is answered -/

/-- There is nothing at the path a request leads to. -/
def notFound (p : Path) : Notice := debug ("Not found: ".toList ++ p.display)

/-- The method is neither GET nor HEAD. -/
def unsupportedMethod (m : Http.Method) : Notice :=
  debug ("Unsupported method: ".toList ++ m.name)

/-- A file is there but cannot be read. -/
def readFailed (p : Path) (e : IoError) : Notice :=
  error ("Failed to read file '".toList ++ p.display ++ "': ".toList ++ e.message)

/-- A directory cannot be listed. -/
def listFailed (p : Path) (e : IoError) : Notice :=
  warning ("Cannot list '".toList ++ p.display ++ "': ".toList ++ e.message)

/-- A response was given up, because it could not be built. -/
def buildFailed (what : Text) (e : Http.BuildError) : Notice :=
  error ("Failed to build ".toList ++ what ++ " response: ".toList ++ e.message)

/-! ## What is noticed of connections -/

/-- A connection ended in a failure, given in the form in which programmers read it. -/
def connectionFailed (failure : Text) : Notice :=
  error ("Failed to serve connection: ".toList ++ failure)

/-- A connection lasted too long. -/
def connectionTimedOut (peer : Text) (seconds : Nat) : Notice :=
  warning ("Connection from ".toList ++ peer ++ " timed out after ".toList
    ++ Digits.decimal seconds ++ " seconds".toList)

/-- A connection was accepted. -/
def accepted (peer : Text) : Notice := debug ("Accepted connection from ".toList ++ peer)

/-- A connection could not be accepted. -/
def acceptFailed (e : IoError) : Notice :=
  error ("Failed to accept connection: ".toList ++ e.message)

/-! ## What is noticed of the server -/

/-- The directory that is served. -/
def serving (root : Path) : Notice := debug ("Serving ".toList ++ root.display)

/-- A signal to stop arrived. -/
def signalReceived (name : Text) : Notice := debug (name ++ " received".toList)

/-- No more connections are accepted. -/
def listenerClosed : Notice := debug "Listener closed".toList

end Notice

end Docroot.Log
