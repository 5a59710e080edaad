import Launcher.Number.Binary64
/-!
TOML values as they are written, before anything asks for their types. -/
namespace Launcher.Toml

/-- How a table came to be, which decides how it may be extended. -/
inductive Origin where
  /-- By its own header, or the document as a whole. -/
  | header
  /-- By a longer header that passes through it. -/
  | passed
  /-- By a dotted key. -/
  | dotted
  /-- Between braces, where it is complete. -/
  | inline
  deriving DecidableEq, Repr

inductive Value where
  | string (s : String)
  | integer (i : Int)
  | real (x : Number.Binary64)
  /-- A number in form only: one beyond all finite floating-point numbers, an integer without
  digits, or a decimal integer with letters among its digits. It does no harm where nobody asks
  for its value. -/
  | unreadable
  | boolean (b : Bool)
  /-- In its standard form. -/
  | datetime (s : String)
  /-- A list of values, or of tables that each have a header. -/
  | array (ofTables : Bool) (items : List Value)
  | table (origin : Origin) (entries : List (String × Value))
  deriving Inhabited

abbrev Entries := List (String × Value)

end Launcher.Toml
