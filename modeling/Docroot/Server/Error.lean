import Docroot.Files.Error
import Docroot.Files.Path
import Docroot.Server.Address
import Docroot.Settings.Convert

/-!
# Why the server does not start

Only what happens before the first connection is an error of the server as a whole: the address is
taken, the settings are wrong, the working directory is gone, or a log cannot be opened.
-/

namespace Docroot.Server

/-- The server cannot start. -/
inductive StartError where
  | bind (addr : SocketAddress) (cause : IoError)
  | settings (fault : Settings.Fault)
  | workingDirectory (p : Path) (cause : IoError)
  | io (cause : IoError)

namespace StartError

/-- **The error in words.** -/
def message : StartError → Text
  | .bind addr cause => "failed to bind ".toList ++ addr.toText ++ ": ".toList ++ cause.message
  | .settings fault => "invalid configuration: ".toList ++ fault.message
  | .workingDirectory p cause =>
    "cannot use ".toList ++ p.display ++ " as working directory: ".toList ++ cause.message
  | .io cause => cause.message

/-- What the error comes from, in words; none where it says nothing of its own. -/
def cause : StartError → Option Text
  | .bind _ cause => some cause.message
  | .settings fault => some fault.message
  | .workingDirectory _ cause => some cause.message
  | .io _ => none

end StartError

end Docroot.Server
