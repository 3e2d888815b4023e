/-
# Sources of settings

Settings come from one file, in TOML or JSON, and from environment variables, which are laid
over the file.  A variable sets the path that its name spells after `HELPDESK__`, with two
underscores for each dot; its value is a text.
-/

import SupportDesk.Json.Reader
import SupportDesk.Settings.Error
import SupportDesk.Settings.FilePath
import SupportDesk.Settings.KeyPath
import SupportDesk.Text.ByteOrderMark
import SupportDesk.Toml.Reader

namespace SupportDesk.Settings

mutual

/-- A TOML value as a setting. -/
def ofToml (origin : String) : TomlValue → Setting
  | .string s => .text (some origin) s
  | .integer n => .integer (some origin) n
  | .real x => .real (some origin) x
  | .boolean b => .boolean (some origin) b
  | .datetime t => .text (some origin) t
  | .array items => .array (some origin) (ofTomlItems origin items)
  | .table entries => .table (some origin) (ofTomlEntries origin entries)

/-- The items of a TOML array as settings. -/
def ofTomlItems (origin : String) : List TomlValue → List Setting
  | [] => []
  | v :: rest => ofToml origin v :: ofTomlItems origin rest

/-- The entries of a TOML table as settings. -/
def ofTomlEntries (origin : String) : List (String × TomlValue) → List (String × Setting)
  | [] => []
  | (k, v) :: rest => (k, ofToml origin v) :: ofTomlEntries origin rest

end

/-- A JSON number as a setting; a whole number beyond the signed words is a double. -/
def ofJsonNumber (origin : String) : JsonNumber → Setting
  | .natural n =>
    if n < 0x8000000000000000 then .integer (some origin) n else .real (some origin) (.ofNat n)
  | .negative n => .integer (some origin) (-(n : Int))
  | .real x => .real (some origin) x

mutual

/-- A JSON value as a setting. -/
def ofJson (origin : String) : Json → Setting
  | .null => .nil (some origin)
  | .bool b => .boolean (some origin) b
  | .number n => ofJsonNumber origin n
  | .string s => .text (some origin) s
  | .array items => .array (some origin) (ofJsonItems origin items)
  | .object members => .table (some origin) (ofJsonMembers origin members)

/-- The items of a JSON array as settings. -/
def ofJsonItems (origin : String) : List Json → List Setting
  | [] => []
  | v :: rest => ofJson origin v :: ofJsonItems origin rest

/-- The members of a JSON object as settings. -/
def ofJsonMembers (origin : String) : List (String × Json) → List (String × Setting)
  | [] => []
  | (k, v) :: rest => (k, ofJson origin v) :: ofJsonMembers origin rest

end

/-- The file formats. -/
inductive FileFormat
  | toml
  | json
deriving DecidableEq, Repr

/-- The file name extensions with their formats, in the order in which they are tried. -/
def FileFormat.extensions : List (String × FileFormat) := [("toml", .toml), ("json", .json)]

/-- The entries that a file sets. -/
def FileFormat.entries (format : FileFormat) (origin text : String) :
    Except SettingError (List (String × Setting)) :=
  match format with
  | .toml =>
    match Toml.parse? text with
    | some entries => .ok (ofTomlEntries origin entries)
    | none => .error .fileParse
  | .json =>
    match (Json.parse text).map Json.canonical with
    | .ok (.object members) => .ok (ofJsonMembers origin members)
    | _ => .error .fileParse

/-- The files at hand: their names with their contents. -/
abbrev Files := List (String × String)

/-- The contents of a file. -/
def contents? (files : Files) (name : String) : Option String :=
  (files.find? fun f => f.1 = name).map (·.2)

/-- A file message about a path, which stands in it as it was given. -/
def fileMessage (path rest : String) : SettingError :=
  .foreign ("configuration file \"" ++ path ++ "\" " ++ rest)

/-- The file that a path means, with its text and format: the file of that very name, or else
the first that has a known extension after it. -/
def find (files : Files) (path : String) : Except SettingError (String × String × FileFormat) :=
  match (FilePath.file? path).bind fun name => (contents? files name).map fun t => (name, t) with
  | some (found, text) =>
    match FileFormat.extensions.find? fun e => e.1 = FilePath.extension found with
    | some (_, format) => .ok (found, text, format)
    | none => .error (fileMessage path "is not of a registered file format")
  | none =>
    let candidates := FileFormat.extensions.filterMap fun (ext, format) => do
      let name ← FilePath.withExtension? path ext
      return (name, ← contents? files name, format)
    match candidates with
    | found :: _ => .ok found
    | [] => .error (fileMessage path "not found")

/-- The start of the names of the variables that set something, in lower case. -/
def variableStart : String := "helpdesk__"

/-- Where a value from a variable was set. -/
def variableOrigin : String := "the environment"

/-- Replaces two underscores by a dot, from the left. -/
def dotted : List Char → List Char
  | '_' :: '_' :: rest => '.' :: dotted rest
  | c :: rest => c :: dotted rest
  | [] => []

/-- The entry that a variable sets, if it sets one. -/
def ofVariable? (name value : String) : Option (String × Setting) :=
  let name := (LowerCase.text name).toList
  if variableStart.toList.isPrefixOf name then
    some (String.ofList (dotted (name.drop variableStart.length)), .text (some variableOrigin) value)
  else none

/-- The settings of a file with variables laid over it. -/
def gather (files : Files) (environment : List (String × String)) (path : String) :
    Except SettingError Setting := do
  let (origin, text, format) ← find files path
  let entries ← format.entries origin (ByteOrderMark.without text)
  let layered := KeyPath.storeAll .emptyTable
    (entries ++ environment.filterMap fun v => ofVariable? v.1 v.2)
  return KeyPath.storeAll .emptyTable layered.asTable.2

end SupportDesk.Settings
