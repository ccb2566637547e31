import SourceLens.Files.Tree
import SourceLens.Json.Reader
import SourceLens.Json.Writer
import SourceLens.Notice
import SourceLens.Scan.Config

/-!
# Settings

The settings of a user are a JSON object in a file. A missing or unreadable
file gives the default settings. A setting whose value has the wrong type
gives its own default and leaves the other settings alone.
-/

namespace SourceLens

/-- **The settings of a user.** -/
structure Settings where
  defaultLanguage : String := "java"
  skipPatterns : List String := defaultSkipPatterns
  largestFile : Nat := defaultLargestFile
  colour : Bool := true
  deriving DecidableEq, Repr

namespace Settings

/-! ## Where settings are -/

/-- The variable that names the folder of the settings. -/
def homeVariable : String := "CODE_SNIPPETS_HOME"

/-- The home folder of a user, given the value of `HOME`. -/
def userHome (home : String) : Path :=
  let kept := (home.toList.reverse.dropWhile (· == '/')).reverse
  if kept.isEmpty then .ofString "/" else .ofString (String.ofList kept)

/-- **The folder of the settings**: the one that is named, or one in the home
folder. An empty name counts as none. -/
def folder (named home : Option String) : Path :=
  match named.filter (!·.isEmpty) with
  | some name => .ofString name
  | none => (userHome (home.getD "")).join [".code-snippets"]

/-- The settings file of a folder. -/
def fileIn (folder : Path) : Path :=
  folder.join ["config.json"]

/-! ## Settings as JSON -/

/-- The settings as the members of an object. -/
def members (settings : Settings) : List (String × Json) := [
  ("default_language", .str settings.defaultLanguage),
  ("skip_dirs", .arr (settings.skipPatterns.map .str)),
  ("max_file_size", .int settings.largestFile),
  ("color", .bool settings.colour)]

/-- **The text of a settings file** with some members. -/
def document (members : List (String × Json)) : String :=
  Json.pretty (.obj members)

/-- A list of strings and nothing else. -/
def strings? (value : Json) : Option (List String) := do
  (← value.items?).mapM (·.string?)

/-- An integer that is not negative. -/
def size? (value : Json) : Option Nat :=
  match value with
  | .int n => if 0 ≤ n then some n.toNat else none
  | _ => none

/-- One setting of an object: its value if it is there and valid, else the
default, with a notice if it is there. -/
def setting {α : Type} (path : Path) (object : Json) (name : String) (valid : Json → Option α)
    (default : α) : α × List Notice :=
  match object.member? name with
  | none => (default, [])
  | some value =>
    match valid value with
    | some setting => (setting, [])
    | none => (default, [.settingInvalid name value.shown path])

/-- The settings of an object. -/
def ofObject (path : Path) (object : Json) : Settings × List Notice :=
  let default : Settings := {}
  let (defaultLanguage, a) :=
    setting path object "default_language" Json.string? default.defaultLanguage
  let (skipPatterns, b) := setting path object "skip_dirs" strings? default.skipPatterns
  let (largestFile, c) := setting path object "max_file_size" size? default.largestFile
  let (colour, d) := setting path object "color" Json.bool? default.colour
  ({ defaultLanguage, skipPatterns, largestFile, colour }, a ++ b ++ c ++ d)

/-! ## Loading and saving -/

/-- The value in a settings file, if it can be read. -/
def value? (files : FileTree) (path : Path) : Option Json := do
  let octets ← (files.readOctets path).toOption
  let text ← Utf8.decode? octets
  (Json.read (LineBreak.normalize text).toList).toOption

/-- **Loads the settings** from a file. -/
def load (files : FileTree) (path : Path) : Settings × List Notice :=
  if !files.exists? path then ({}, [])
  else
    match value? files path with
    | none => ({}, [.settingsUnreadable path])
    | some (.obj members) => ofObject path (.obj members)
    | some _ => ({}, [.settingsNoObject path])

/-- Saves a document as the settings file. -/
def saveDocument (files : FileTree) (path : Path) (document : String) :
    Except FileError FileTree :=
  files.write path (Utf8.encode document)

/-- **Saves the settings** to a file. -/
def save (settings : Settings) (files : FileTree) (path : Path) : Except FileError FileTree :=
  saveDocument files path (document settings.members)

/-! ## Settings for a scan -/

/-- What to do in a scan under these settings. -/
def scanConfig (settings : Settings) (root : Path) (projectName : Option String) :
    ScanConfig where
  root
  projectName
  skipPatterns := settings.skipPatterns
  largestFile := settings.largestFile

end Settings

end SourceLens
