import SourceLens.Files.Path
import SourceLens.Text.Quoted

/-!
# Notices

What the library reports on the way: each notice has a level and says what has
happened.
-/

namespace SourceLens

/-- How much a notice matters. -/
inductive NoticeLevel where
  | debug
  | info
  | warning
  | error
  deriving DecidableEq, Repr

/-- The name of a level. -/
def NoticeLevel.name : NoticeLevel → String
  | .debug => "DEBUG"
  | .info => "INFO"
  | .warning => "WARNING"
  | .error => "ERROR"

/-- The level is at least that of warnings. -/
def NoticeLevel.isWarning : NoticeLevel → Bool
  | .warning | .error => true
  | .debug | .info => false

/-- **Something to report.** -/
inductive Notice where
  /-- A language is unknown, and the default one is taken. -/
  | defaultRule (language : Option String) (taken : String)
  /-- Spans have been applied to a text of some length. -/
  | highlighted (spans length : Nat)
  /-- A language is unknown, and no functions are found. -/
  | noRule (language : Option String) (path : Path)
  | scanning (root : Path)
  | scanCancelled (root : Path)
  | scanned (files : Nat) (root : Path) (functions skipped : Nat)
  | skipping (path : Path) (reason : String)
  | scanFailed (id : String)
  | settingsUnreadable (path : Path)
  | settingsNoObject (path : Path)
  /-- A setting has a value that is not valid, which is shown. -/
  | settingInvalid (name shown : String) (path : Path)
  deriving DecidableEq, Repr

namespace Notice

/-- How much a notice matters. -/
def level : Notice → NoticeLevel
  | .defaultRule .. | .highlighted .. | .noRule .. => .debug
  | .scanning _ | .scanCancelled _ | .scanned .. => .info
  | .skipping .. | .settingsUnreadable _ | .settingsNoObject _ | .settingInvalid .. => .warning
  | .scanFailed _ => .error

/-- What a notice says. -/
def message : Notice → String
  | .defaultRule language taken =>
    "Unknown language " ++ quotedOption language ++ ", using default rule " ++ quoted taken
  | .highlighted spans length =>
    "Applied " ++ toString spans ++ " spans over " ++ toString length ++ " chars"
  | .noRule language path =>
    "No rule for language " ++ quotedOption language ++ " (" ++ path.text ++ ")"
  | .scanning root => "Scanning " ++ root.text
  | .scanCancelled root => "Scan of " ++ root.text ++ " cancelled"
  | .scanned files root functions skipped =>
    "Scanned " ++ toString files ++ " files in " ++ root.text ++ ": " ++ toString functions
      ++ " functions, " ++ toString skipped ++ " skipped"
  | .skipping path reason => "Skipping " ++ path.text ++ ": " ++ reason
  | .scanFailed id => "Scan " ++ id ++ " failed"
  | .settingsUnreadable path => "Ignoring unreadable settings file " ++ path.text
  | .settingsNoObject path =>
    "Ignoring settings file " ++ path.text ++ ": expected an object"
  | .settingInvalid name shown path =>
    "Ignoring invalid setting " ++ name ++ "=" ++ shown ++ " in " ++ path.text
      ++ ", using the default"

/-- The notice in a line. -/
def line (notice : Notice) : String :=
  notice.level.name ++ " " ++ notice.message

end Notice

end SourceLens
