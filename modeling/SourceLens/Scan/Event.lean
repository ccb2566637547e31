import SourceLens.Function.Record

/-!
# What a scan finds
-/

namespace SourceLens

/-- A file that could not be processed. -/
structure SkippedFile where
  path : Path
  reason : String
  deriving DecidableEq, Repr

/-- **What a scan finds in one file.** -/
structure FileEvent where
  path : Path
  language : Option String
  functions : List ExtractedFunction
  skipped : Option SkippedFile
  deriving DecidableEq, Repr

/-- **What a scan finds in a project.** -/
structure ScanResult where
  root : Path
  functions : List ExtractedFunction
  skipped : List SkippedFile
  filesScanned : Nat
  cancelled : Bool
  deriving DecidableEq, Repr

namespace SkippedFile

/-- The skipped file as a JSON object. -/
def toJson (s : SkippedFile) : Json :=
  .obj [("path", .str s.path.text), ("reason", .str s.reason)]

end SkippedFile

/-- The result of the events of a scan. -/
def ScanResult.ofEvents (root : Path) (events : List FileEvent) (cancelled : Bool) :
    ScanResult where
  root
  functions := events.flatMap (·.functions)
  skipped := events.filterMap (·.skipped)
  filesScanned := events.length
  cancelled

end SourceLens
