import SourceLens.Command.Arguments
import SourceLens.Files.Tree
import SourceLens.Language.Registry
import SourceLens.Text.Integer

/-!
# What a command line asks for

A command line names a command after the options that hold for all commands;
its own options and its operand follow. Options and operands are checked
before anything is done: languages are those that are built in, files and
folders have to be there.
-/

namespace SourceLens.Command

/-- Where requests are to be answered: a host, and a number at the host. -/
structure Address where
  host : String
  number : Int
  deriving DecidableEq, Repr

/-- **What is asked for.** -/
inductive Invocation where
  | languages
  | highlight (file : Path) (language : Option String) (html : Bool)
  | functions (file : Path) (language : Option String) (showCode : Bool)
  | scan (folder : Path) (projectName : Option String) (json : Bool)
  | settings
  | serve (address : Address)
  deriving DecidableEq, Repr

/-- What a command takes besides its options. -/
inductive OperandForm where
  | nothing
  | file
  /-- A folder, or else the working directory. -/
  | folder
  deriving DecidableEq, Repr

/-- **A command.** -/
structure CommandForm where
  name : String
  options : List OptionForm
  operand : OperandForm
  deriving DecidableEq, Repr

/-- Why a command line is refused. -/
inductive UsageError where
  | argument (cause : ArgumentError)
  | noCommand
  | noSuchCommand (name : String)
  | missingFile
  | extraArguments (arguments : List String)
  | noFileAt (written : String)
  | folderAt (written : String)
  | noFolderAt (written : String)
  | fileAt (written : String)
  | languageNotBuiltin (written : String)
  | numberNotInteger (written : String)
  /-- The name of a file does not tell its language. -/
  | languageUnknown (fileName : String)
  deriving DecidableEq, Repr

/-- What an error says. -/
def UsageError.message : UsageError → String
  | .argument cause => cause.message
  | .noCommand => "Missing command."
  | .noSuchCommand name => "No such command " ++ quoted name ++ "."
  | .missingFile => "Missing argument 'FILE'."
  | .extraArguments arguments =>
    "Got unexpected extra argument" ++ (if arguments.length == 1 then "" else "s") ++ " ("
      ++ " ".intercalate arguments ++ ")"
  | .noFileAt written =>
    "Invalid value for 'FILE': File " ++ quoted written ++ " does not exist."
  | .folderAt written =>
    "Invalid value for 'FILE': File " ++ quoted written ++ " is a directory."
  | .noFolderAt written =>
    "Invalid value for '[SOURCE_DIR]': Directory " ++ quoted written ++ " does not exist."
  | .fileAt written =>
    "Invalid value for '[SOURCE_DIR]': Directory " ++ quoted written ++ " is a file."
  | .languageNotBuiltin written =>
    "Invalid value for '--language' / '-l': " ++ quoted written ++ " is not one of "
      ++ ", ".intercalate (Registry.builtin.keys.map quoted) ++ "."
  | .numberNotInteger written =>
    "Invalid value for '--port' / '-p': " ++ quoted written ++ " is not a valid integer."
  | .languageUnknown fileName => "Unknown language for " ++ fileName ++ "; pass --language"

/-! ## The commands -/

/-- The name that the program goes by. -/
def programName : String := "cli"

/-- The version of the program. -/
def version : String := "0.1.0"

/-- The option that asks for help. -/
def helpOption : OptionForm := ⟨"--help", none, false⟩

/-- The options that hold for all commands. -/
def generalOptions : List OptionForm := [
  ⟨"--version", none, false⟩,
  ⟨"--verbose", some 'v', false⟩,
  helpOption]

/-- The option that names a language. -/
def languageOption : OptionForm := ⟨"--language", some 'l', true⟩

/-- **The commands.** -/
def commands : List CommandForm := [
  ⟨"languages", [helpOption], .nothing⟩,
  ⟨"highlight", [languageOption, ⟨"--html", none, false⟩, helpOption], .file⟩,
  ⟨"functions", [languageOption, ⟨"--code", none, false⟩, helpOption], .file⟩,
  ⟨"scan", [⟨"--project", some 'p', true⟩, ⟨"--json", none, false⟩, helpOption], .folder⟩,
  ⟨"settings", [helpOption], .nothing⟩,
  ⟨"serve", [⟨"--port", some 'p', true⟩, ⟨"--host", none, true⟩, helpOption], .nothing⟩]

/-- The operand in the usage of a command. -/
def OperandForm.usage : OperandForm → String
  | .nothing => ""
  | .file => " FILE"
  | .folder => " [SOURCE_DIR]"

/-- How to call the program, or one of its commands. -/
def usage : Option CommandForm → String
  | none => "Usage: " ++ programName ++ " [OPTIONS] COMMAND [ARGS]..."
  | some command =>
    "Usage: " ++ programName ++ " " ++ command.name ++ " [OPTIONS]" ++ command.operand.usage

/-! ## Checks -/

/-- The file of an operand. -/
def fileOperand (files : FileTree) (written : String) : Except UsageError Path :=
  match files.entryAt? written with
  | none => .error (.noFileAt written)
  | some (.folder _) => .error (.folderAt written)
  | some (.file _) => .ok (.ofString written)

/-- The folder of an operand. -/
def folderOperand (files : FileTree) (written : String) : Except UsageError Path :=
  match files.entryAt? written with
  | none => .error (.noFolderAt written)
  | some (.file _) => .error (.fileAt written)
  | some (.folder _) => .ok (.ofString written)

/-- The language that is named, if one is. -/
def checkLanguage (arguments : Arguments) : Except UsageError (Option String) :=
  match arguments.value? "--language" with
  | none => .ok none
  | some written =>
    if Registry.builtin.keys.contains written then .ok (some written)
    else .error (.languageNotBuiltin written)

/-- The number of the address that is given, or the usual one. -/
def checkNumber (arguments : Arguments) : Except UsageError Int :=
  match arguments.value? "--port" with
  | none => .ok 8421
  | some written =>
    match Integer.read? written with
    | some number => .ok number
    | none => .error (.numberNotInteger written)

/-- Nothing is left over. -/
def checkRest : List String → Except UsageError Unit
  | [] => .ok ()
  | rest => .error (.extraArguments rest)

/-- The only operand, a file. -/
def onlyFile (files : FileTree) (arguments : Arguments) : Except UsageError Path :=
  match arguments.operands with
  | [] => .error .missingFile
  | written :: rest => do
    let file ← fileOperand files written
    checkRest rest
    return file

/-- The only operand, a folder. -/
def onlyFolder (files : FileTree) (arguments : Arguments) : Except UsageError Path := do
  let folder ← folderOperand files (arguments.operands.headD ".")
  checkRest arguments.operands.tail
  return folder

/-- What a command is asked for. The value of an option is checked before the
operand, and whether anything is left over after it. -/
def invocation (files : FileTree) (command : String) (arguments : Arguments) :
    Except UsageError Invocation :=
  match command with
  | "languages" => do
    checkRest arguments.operands
    return .languages
  | "highlight" => do
    let language ← checkLanguage arguments
    let file ← onlyFile files arguments
    return .highlight file language (arguments.has "--html")
  | "functions" => do
    let language ← checkLanguage arguments
    let file ← onlyFile files arguments
    return .functions file language (arguments.has "--code")
  | "scan" => do
    let folder ← onlyFolder files arguments
    return .scan folder (arguments.value? "--project") (arguments.has "--json")
  | "settings" => do
    checkRest arguments.operands
    return .settings
  | "serve" => do
    let number ← checkNumber arguments
    checkRest arguments.operands
    return .serve ⟨(arguments.value? "--host").getD "127.0.0.1", number⟩
  | name => .error (.noSuchCommand name)

/-- A command line that is understood. -/
inductive Request where
  /-- How to call the program or a command. -/
  | help (command : Option CommandForm)
  | version
  | invoke (verbose : Bool) (invocation : Invocation)
  deriving DecidableEq, Repr

/-- A command line that is refused, and the command that was being read. -/
structure Refusal where
  command : Option CommandForm
  cause : UsageError
  deriving DecidableEq, Repr

/-- The request to a command. -/
def readCommand (files : FileTree) (verbose : Bool) (command : CommandForm)
    (arguments : List String) : Except Refusal Request :=
  let refuse (cause : UsageError) : Refusal := ⟨some command, cause⟩
  match Arguments.divide command.options true arguments with
  | .error cause => .error (refuse (.argument cause))
  | .ok arguments =>
    if arguments.has "--help" then .ok (.help (some command))
    else
      match invocation files command.name arguments with
      | .error cause => .error (refuse cause)
      | .ok invocation => .ok (.invoke verbose invocation)

/-- **Reads a command line.** The first of the options that ask for help or
for the version is answered at once. -/
def read (files : FileTree) (line : List String) : Except Refusal Request :=
  match Arguments.divide generalOptions false line with
  | .error cause => .error ⟨none, .argument cause⟩
  | .ok general =>
    match general.options.find? fun given => given.name == "--help" || given.name == "--version" with
    | some given => .ok (if given.name == "--help" then .help none else .version)
    | none =>
      match general.operands with
      | [] => if line.isEmpty then .ok (.help none) else .error ⟨none, .noCommand⟩
      | name :: rest =>
        match commands.find? (·.name == name) with
        | none => .error ⟨none, .noSuchCommand name⟩
        | some command => readCommand files (general.has "--verbose") command rest

end SourceLens.Command
