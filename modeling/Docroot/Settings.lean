import Docroot.Text

/-!
# Settings

What can be set, and the values that hold where nothing is. The port, the address and the names of
index files are fixed.
-/

namespace Docroot

/-! ## 1. What is fixed -/

/-- The port the server listens on. -/
def listenPort : Nat := 8000

/-- The file names that stand for a directory, in the order in which they are tried. -/
def indexFiles : List Text := ["index.html".toList, "index.htm".toList]

/-- The settings file in the working directory. Its name is written in full, because the program
    itself has the same name without the extension. -/
def settingsFile : Text := "asset-server.toml".toList

/-- What the names of environment variables with settings begin with. -/
def environmentStem : Text := "ASSET_SERVER".toList

/-- The server's name for itself. -/
def defaultServerName : Text := "asset-server/0.1.0".toList

/-! ## 2. What can be set -/

/-- Settings of the logs. -/
structure LoggingSettings where
  level : Text
  accessLog : Bool
  accessLogFormat : Text
  /-- Standard output where there is none. -/
  accessLogFile : Option Text
  /-- Standard error where there is none. -/
  errorLogFile : Option Text
  deriving DecidableEq, Repr

/-- The log level asks for debug messages. -/
def LoggingSettings.isDebug (s : LoggingSettings) : Bool :=
  Text.eqIgnoringCase s.level "debug".toList

/-- All settings. -/
structure Settings where
  logging : LoggingSettings
  /-- The longest a connection may last, in seconds; 0 is no limit. -/
  connectionTimeout : Nat
  /-- The value of the `Server` header. -/
  serverName : Text
  deriving DecidableEq, Repr

/-- The settings that hold where nothing is set. -/
def Settings.default : Settings where
  logging :=
    { level := "info".toList, accessLog := true, accessLogFormat := "common".toList,
      accessLogFile := none, errorLogFile := none }
  connectionTimeout := 30
  serverName := defaultServerName

end Docroot
