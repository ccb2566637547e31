import SourceLens.Command.Invocation
import SourceLens.Environment
import SourceLens.Highlight.Ansi
import SourceLens.Highlight.Basic
import SourceLens.Highlight.Html
import SourceLens.Scan.Scanner

/-!
# Running a command

A command gives the text for standard output and for standard error, and an
exit code. Notices go to standard error, those below warnings only if asked
for. Where the terminal shows no colours, escape sequences are taken out of
everything but notices.
-/

namespace SourceLens.Command

/-- **What a command leaves behind.** -/
structure Outcome where
  exitCode : Nat
  stdout : String
  stderr : String
  deriving DecidableEq, Repr

/-- Why a command fails that has been understood. -/
inductive Failure where
  | usage (cause : UsageError)
  | unreadable (path : Path) (cause : FileError)
  | tokens (cause : UnknownCategory)
  | colours (cause : UnknownColour)
  | functions (cause : NoOpeningBrace)
  | scan (cause : ScanFailure)
  deriving DecidableEq, Repr

/-- What a failure says. -/
def Failure.message : Failure → String
  | .usage cause => cause.message
  | .unreadable path cause => "Cannot read " ++ path.text ++ ": " ++ cause.message
  | .tokens cause => cause.message
  | .colours cause => cause.message
  | .functions cause => cause.message
  | .scan cause => cause.message

/-- The text that a command writes. -/
structure Written where
  stdout : String
  stderr : String := ""

/-- What a command does: it writes or fails, and there is something to
report. -/
structure Course where
  written : Except Failure Written
  notices : List Notice

/-! ## Lines -/

/-- A line. -/
def lineOf (s : String) : String := s ++ "\n"

/-- Lines, one after the other. -/
def linesOf (lines : List String) : String :=
  String.join (lines.map lineOf)

/-- A text between an escape sequence and a reset. -/
def styled (parameters s : String) : String :=
  String.ofList (Ansi.sequence parameters ++ s.toList ++ Ansi.reset)

/-- A text in cyan. -/
def cyan (s : String) : String := styled "36" s

/-- A text in green. -/
def green (s : String) : String := styled "32" s

/-- A text in yellow. -/
def yellow (s : String) : String := styled "33" s

/-- A text that stands back. -/
def dim (s : String) : String := styled "2" s

/-- A text with spaces after it, up to a width in which escape sequences
count. -/
def padded (width : Nat) (s : String) : String :=
  s ++ String.ofList (List.replicate (width - s.length) ' ')

/-! ## The commands -/

/-- The line of a language. -/
def languageLine (rule : Rule) : String :=
  let extensions := extensionsOf rule.key
  let shown := if extensions.isEmpty then "-" else ", ".intercalate extensions
  "  " ++ padded 20 (cyan rule.key) ++ " " ++ padded 40 shown ++ " "
    ++ dim (if rule.extracts then "functions" else "highlight only")

/-- Lists the languages. -/
def languages : Written where
  stdout := linesOf (Registry.builtin.rules.map languageLine)

/-- The text of a file. -/
def readFile (environment : Environment) (file : Path) : Except Failure Text :=
  (environment.files.readText file).mapError (.unreadable file)

/-- A text that ends its last line. -/
def closeLine (s : String) : String :=
  if s.endsWith "\n" then s else lineOf s

/-- A highlighted text as a page shows it. -/
def page (language : String) (text : Text) (spans : List Span) : String :=
  "<pre class=\"code language-" ++ language ++ "\">"
    ++ Html.render text spans Html.defaultClassPrefix ++ "</pre>"

/-- A highlighted text as a terminal shows it, without a line break at the end
if the text has one. -/
def terminal (text : Text) (spans : List Span) : Except Failure String := do
  let shown ← (Ansi.render text spans []).mapError .colours
  return if text.toString.endsWith "\n" then shown else lineOf shown

/-- Shows a file with its tokens highlighted. -/
def highlight (environment : Environment) (file : Path) (language : Option String)
    (html : Bool) : Course :=
  let (settings, notices) := environment.settings
  let language :=
    ((language <|> detectLanguage file.name).getD settings.defaultLanguage)
  match readFile environment file with
  | .error failure => ⟨.error failure, notices⟩
  | .ok text =>
    let (rule, more) := Registry.builtin.ruleFor (some language)
    let shown : Except Failure String := do
      let spans ← (rule.spans text).mapError .tokens
      if html then return lineOf (page language text spans)
      else if settings.colour then terminal text spans
      else return closeLine text.toString
    ⟨shown.map fun stdout => { stdout }, notices ++ more⟩

/-- The number of lines of a code. -/
def lineCount (code : String) : Nat :=
  code.toList.count '\n' + 1

/-- The lines of a function. -/
def functionLines (showCode : Bool) (f : ExtractedFunction) : List String :=
  ("  " ++ green f.name ++ "  " ++ dim (toString (lineCount f.code) ++ " lines"))
    :: (if showCode then [f.code, ""] else [])

/-- Lists the functions of a file. -/
def functions (environment : Environment) (file : Path) (language : Option String)
    (showCode : Bool) : Course :=
  match language <|> detectLanguage file.name with
  | none => ⟨.error (.usage (.languageUnknown file.name)), []⟩
  | some language =>
    match readFile environment file with
    | .error failure => ⟨.error failure, []⟩
    | .ok text =>
      let (found, notices) := Registry.builtin.extract text (some language) (.of file none)
      let written (found : List ExtractedFunction) : Written :=
        { stdout := linesOf (if found.isEmpty then ["No functions found."]
            else found.flatMap (functionLines showCode)) }
      ⟨(found.mapError .functions).map written, notices⟩

/-- The lines of an event with functions. -/
def eventLines (event : FileEvent) : List String :=
  if event.functions.isEmpty then []
  else cyan event.path.text :: event.functions.map fun f => "  " ++ f.name

/-- The line of a skipped file. -/
def skippedLine (skipped : SkippedFile) : String :=
  yellow ("skipped " ++ skipped.path.text ++ ": " ++ skipped.reason)

/-- The lines that sum up a scan. -/
def summaryLines (result : ScanResult) : List String :=
  ["", (if result.cancelled then "cancelled" else "done") ++ ": "
    ++ toString result.functions.length ++ " function(s) in "
    ++ toString result.filesScanned ++ " file(s), "
    ++ toString result.skipped.length ++ " skipped"]

/-- What a scan writes. -/
def scanWritten (json : Bool) (events : List FileEvent) (result : ScanResult) : Written :=
  if json then
    { stdout := lineOf (Json.pretty (.arr (result.functions.map (·.toJson)))) }
  else
    { stdout := linesOf (events.flatMap eventLines ++ summaryLines result)
      stderr := linesOf (result.skipped.map skippedLine) }

/-- Lists the functions below a folder. -/
def scan (environment : Environment) (folder : Path) (projectName : Option String)
    (json : Bool) : Course :=
  let (settings, notices) := environment.settings
  let scanner : Scanner :=
    { files := environment.files
      config := settings.scanConfig folder projectName
      registry := .builtin }
  let report := scanner.scan none
  ⟨(report.result.mapError .scan).map (scanWritten json report.events),
    notices ++ report.notices⟩

/-- Shows the settings. -/
def settings (environment : Environment) : Course :=
  let (settings, notices) := environment.settings
  let stdout := linesOf [
    "Settings file: " ++ environment.settingsFile.text,
    "  default_language: " ++ settings.defaultLanguage,
    "  max_file_size: " ++ toString settings.largestFile,
    "  color: " ++ Json.shown (.bool settings.colour),
    "  skip_dirs: " ++ ", ".intercalate settings.skipPatterns]
  ⟨.ok { stdout }, notices⟩

/-- Tells where requests are to be answered. -/
def serve (address : Address) : Written where
  stdout := lineOf ("Starting code-snippets API at http://" ++ address.host ++ ":"
    ++ toString address.number)

/-- **What an invocation does.** -/
def Invocation.course (environment : Environment) : Invocation → Course
  | .languages => ⟨.ok Command.languages, []⟩
  | .highlight file language html => Command.highlight environment file language html
  | .functions file language showCode => Command.functions environment file language showCode
  | .scan folder projectName json => Command.scan environment folder projectName json
  | .settings => Command.settings environment
  | .serve address => ⟨.ok (Command.serve address), []⟩

/-! ## Outcomes -/

/-- The line of an error. -/
def errorLine (message : String) : String :=
  lineOf ("Error: " ++ message)

/-- The text of an error in the use of the program or of a command. -/
def usageText (command : Option CommandForm) (cause : UsageError) : String :=
  let called := match command with
    | none => programName
    | some command => programName ++ " " ++ command.name
  lineOf (usage command) ++ lineOf ("Try '" ++ called ++ " --help' for help.") ++ lineOf ""
    ++ errorLine cause.message

/-- The lines of notices. -/
def noticeLines (verbose : Bool) (notices : List Notice) : String :=
  let shown := notices.filter fun notice => verbose || notice.level.isWarning
  linesOf (shown.map fun notice => "[code-snippets] " ++ notice.line)

/-- The command of an invocation. -/
def Invocation.command (invocation : Invocation) : Option CommandForm :=
  let name := match invocation with
    | .languages => "languages"
    | .highlight .. => "highlight"
    | .functions .. => "functions"
    | .scan .. => "scan"
    | .settings => "settings"
    | .serve .. => "serve"
  commands.find? (·.name == name)

/-- A text as the terminal takes it. -/
def shownIn (colours : Bool) (s : String) : String :=
  if colours then s else Ansi.strip s

/-- The outcome of an invocation. -/
def Invocation.outcome (environment : Environment) (colours verbose : Bool)
    (invocation : Invocation) : Outcome :=
  let course := invocation.course environment
  let notices := noticeLines verbose course.notices
  match course.written with
  | .ok written => ⟨0, shownIn colours written.stdout, notices ++ shownIn colours written.stderr⟩
  | .error (.usage cause) =>
    ⟨2, "", notices ++ shownIn colours (usageText invocation.command cause)⟩
  | .error failure => ⟨1, "", notices ++ shownIn colours (errorLine failure.message)⟩

/-- **Runs a command line.** -/
def run (environment : Environment) (colours : Bool) (line : List String) : Outcome :=
  match read environment.files line with
  | .error refusal => ⟨2, "", shownIn colours (usageText refusal.command refusal.cause)⟩
  | .ok (.help command) => ⟨0, lineOf (usage command), ""⟩
  | .ok .version => ⟨0, lineOf (programName ++ ", version " ++ version), ""⟩
  | .ok (.invoke verbose invocation) => invocation.outcome environment colours verbose

end SourceLens.Command
