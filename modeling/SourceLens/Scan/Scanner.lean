import SourceLens.Files.Tree
import SourceLens.Function.Extraction
import SourceLens.Scan.Config
import SourceLens.Scan.Event

/-!
# Scanning a project

A scan visits the files below its root in the order of their paths, passes
over what its patterns select, and finds the functions of every file in a
known language. A file that cannot be asked, measured or read, or that is too
large, is reported as skipped, and the scan goes on. A request to cancel is
looked at before each file.

All paths are listed and sorted before the first visit. Where this fails, the
scan fails, with no event, and without a look at a request to cancel.
-/

namespace SourceLens

/-- **A scanner**: the files, what to do with them, and the languages. -/
structure Scanner where
  files : FileTree
  config : ScanConfig
  registry : Registry

/-- A path that a scan comes to: a file, or something that cannot be asked
whether it is one. -/
structure Visit where
  path : Path
  problem : Option FileError
  deriving DecidableEq, Repr

/-- **What stops a scan.** -/
inductive ScanFailure where
  /-- What is below the root cannot be listed. -/
  | walk (cause : FileError)
  /-- The functions of a file cannot be found. -/
  | functions (cause : NoOpeningBrace)
  deriving DecidableEq, Repr

/-- What a failure says. -/
def ScanFailure.message : ScanFailure → String
  | .walk cause => cause.message
  | .functions cause => cause.message

namespace Scanner

/-- The name of the project. -/
def projectName (scanner : Scanner) : String :=
  scanner.config.resolvedName scanner.files.workingDirectory

/-- The visit of some names below the root, if they are to be visited. -/
def visitOf? (scanner : Scanner) (names : List String) : Option Visit :=
  let path := scanner.config.root.join names
  match scanner.files.isFile path with
  | .ok true => some ⟨path, none⟩
  | .ok false => none
  | .error problem => some ⟨path, some problem⟩

/-- **The visits of a scan** in order, or why the walk to them fails. -/
def visits (scanner : Scanner) : Except FileError (List Visit) :=
  (scanner.files.walk scanner.config.root).map fun listed =>
    (listed.filter (!scanner.config.skips ·)).filterMap scanner.visitOf?

/-- The files that a scan visits. -/
def filePaths (scanner : Scanner) : Except FileError (List Path) :=
  scanner.visits.map fun visits => (visits.filter (·.problem.isNone)).map (·.path)

/-- The event of a file that is skipped, and the notice of it. -/
def skip (path : Path) (reason : String) : FileEvent × List Notice :=
  (⟨path, detectLanguage path.name, [], some ⟨path, reason⟩⟩, [.skipping path reason])

/-- The reason to skip a file that cannot be used. -/
def unreadable (problem : FileError) : String :=
  "unreadable: " ++ problem.message

/-- **Scans one file.** A file in no known language is not read. -/
def scanFile (scanner : Scanner) (path : Path) :
    Except NoOpeningBrace FileEvent × List Notice :=
  let skipped (reason : String) : Except NoOpeningBrace FileEvent × List Notice :=
    let (event, notices) := skip path reason
    (.ok event, notices)
  match detectLanguage path.name with
  | none => (.ok ⟨path, none, [], none⟩, [])
  | some language =>
    match scanner.files.size path with
    | .error problem => skipped (unreadable problem)
    | .ok size =>
      if (size : Int) > scanner.config.largestFile then skipped "file too large"
      else
        match scanner.files.readText path with
        | .error problem => skipped (unreadable problem)
        | .ok text =>
          let (found, notices) := scanner.registry.extract text (some language)
            (.of path (some scanner.projectName))
          (found.map fun functions => ⟨path, some language, functions, none⟩, notices)

/-- Scans what a visit has come to. -/
def visit (scanner : Scanner) (v : Visit) : Except NoOpeningBrace FileEvent × List Notice :=
  match v.problem with
  | some problem =>
    let (event, notices) := skip v.path (unreadable problem)
    (.ok event, notices)
  | none => scanner.scanFile v.path

/-- **The course of a scan**: the events delivered, what there was to report,
whether visits were left because of a request to cancel, and what has stopped
it otherwise. -/
structure Course where
  events : List FileEvent
  notices : List Notice
  cut : Bool
  failure : Option ScanFailure
  deriving DecidableEq, Repr

/-- When cancelling is requested: never, or once some number of events has been
delivered. -/
abbrev CancelAfter := Option Nat

/-- Cancelling has been requested once `delivered` events have been
delivered. -/
def requested (cancel : CancelAfter) (delivered : Nat) : Bool :=
  match cancel with
  | some count => count ≤ delivered
  | none => false

/-- The course of some visits after `delivered` events. -/
def courseFrom (scanner : Scanner) (cancel : CancelAfter) : Nat → List Visit → Course
  | _, [] => ⟨[], [], false, none⟩
  | delivered, v :: rest =>
    if requested cancel delivered then ⟨[], [.scanCancelled scanner.config.root], true, none⟩
    else
      match scanner.visit v with
      | (.error failure, notices) => ⟨[], notices, false, some (.functions failure)⟩
      | (.ok event, notices) =>
        let later := courseFrom scanner cancel (delivered + 1) rest
        { later with events := event :: later.events, notices := notices ++ later.notices }

/-- **Scans the project** event by event. -/
def course (scanner : Scanner) (cancel : CancelAfter) : Course :=
  match scanner.visits with
  | .error cause => ⟨[], [], false, some (.walk cause)⟩
  | .ok visits => scanner.courseFrom cancel 0 visits

/-- What a whole scan gives: its result or what has stopped it, the events
delivered on the way, and what there is to report. -/
structure Report where
  result : Except ScanFailure ScanResult
  events : List FileEvent
  notices : List Notice

/-- **Scans the project** to the end. The result counts as cancelled if
cancelling has been requested by then. -/
def scan (scanner : Scanner) (cancel : CancelAfter) : Report :=
  let root := scanner.config.root
  let course := scanner.course cancel
  let notices := .scanning root :: course.notices
  match course.failure with
  | some failure => ⟨.error failure, course.events, notices⟩
  | none =>
    let result := ScanResult.ofEvents root course.events (requested cancel course.events.length)
    ⟨.ok result, course.events,
      notices ++ [.scanned result.filesScanned root result.functions.length result.skipped.length]⟩

end Scanner

/-- **The functions below a folder** in a language that is built in. -/
def scanFolder (files : FileTree) (root : Path) (skipPatterns : List String) : Scanner.Report :=
  Scanner.scan { files, config := { root, skipPatterns }, registry := .builtin } none

end SourceLens
