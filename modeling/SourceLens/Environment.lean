import SourceLens.Settings.Basic

/-!
# What surrounds a command or a request
-/

namespace SourceLens

/-- **What a command or a request sees of the system**: the files, where the
settings of the user are, and the home folder. -/
structure Environment where
  files : FileTree
  settingsFile : Path
  home : Path

/-- The settings of the user, and what there is to report. -/
def Environment.settings (environment : Environment) : Settings × List Notice :=
  Settings.load environment.files environment.settingsFile

end SourceLens
