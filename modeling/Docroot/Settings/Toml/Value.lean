import Docroot.Number.Binary64

/-!
# Values of a settings file

A settings file is a TOML document: a table of named values. Dates and times are kept as the text in
which they are written in full, since no setting is a time.
-/

namespace Docroot.Settings.Toml

/-- A value. -/
inductive Value where
  | string (s : Text)
  | integer (i : Int)
  | float (x : Float64)
  | boolean (b : Bool)
  | moment (t : Text)
  | array (items : List Value)
  | table (entries : List (Text × Value))

end Docroot.Settings.Toml
