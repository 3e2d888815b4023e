/-
# TOML values

The values that a TOML document can hold.  A date or a time is kept as its text in normal
form.
-/

import SupportDesk.Number.Binary64

namespace SupportDesk

/-- A TOML value. -/
inductive TomlValue
  | string (s : String)
  | integer (n : Int)
  | real (x : Binary64)
  | boolean (b : Bool)
  | datetime (text : String)
  | array (items : List TomlValue)
  | table (entries : List (String × TomlValue))
deriving Repr, Inhabited

end SupportDesk
