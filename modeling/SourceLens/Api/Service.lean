import SourceLens.Api.Route
import SourceLens.Environment
import SourceLens.Highlight.Basic
import SourceLens.Highlight.Html
import SourceLens.Scan.Poll

/-!
# Answering requests

The service highlights texts, finds functions, and keeps the scans that it
has started until they are deleted.
-/

namespace SourceLens.Api

/-- A scan that the service has started. -/
structure StartedScan where
  task : ScanTask
  /-- When the scan was started. -/
  time : String

/-- **The scans that are kept**, in the order in which they were started. -/
structure State where
  scans : List StartedScan

namespace State

/-- No scans. -/
def empty : State := ⟨[]⟩

/-- Keeps a scan. -/
def add (state : State) (scan : StartedScan) : State :=
  ⟨state.scans.filter (·.task.id != scan.task.id) ++ [scan]⟩

/-- The scan with an id. -/
def find? (state : State) (id : String) : Option StartedScan :=
  state.scans.find? (·.task.id == id)

/-- Forgets the scan with an id. -/
def erase (state : State) (id : String) : State :=
  ⟨state.scans.filter (·.task.id != id)⟩

end State

/-- **An answer**: a status code and a body. -/
structure Answer where
  status : Nat
  body : Json

/-- An answer that all is well. -/
def Answer.ok (members : List (String × Json)) : Answer :=
  ⟨200, .obj members⟩

/-- An answer that something is wrong. -/
def Answer.ofDetail (status : Nat) (detail : Json) : Answer :=
  ⟨status, .obj [("detail", detail)]⟩

/-- The answer to a request that is refused. -/
def Refusal.answer : Refusal → Answer
  | .invalid faults => .ofDetail 422 (.arr (faults.map (·.toJson)))
  | .unreadable => .ofDetail 400 (.str "There was an error parsing the body")
  | .notFound what => .ofDetail 404 (.str what)
  | .notFolder => .ofDetail 400 (.str "Path must be a directory")
  | .methodNotAllowed => .ofDetail 405 (.str "Method Not Allowed")
  | .failed => .ofDetail 500 (.str "Internal Server Error")

/-! ## Languages, highlighting and functions -/

/-- A list of strings as JSON. -/
def stringItems (strings : List String) : Json :=
  .arr (strings.map .str)

/-- Functions as JSON. -/
def functionItems (functions : List ExtractedFunction) : Json :=
  .arr (functions.map (·.toJson))

/-- What is told about a language. -/
def languageInfo (rule : Rule) : Json :=
  .obj [
    ("key", .str rule.key),
    ("aliases", stringItems rule.aliases),
    ("extensions", stringItems (extensionsOf rule.key)),
    ("tags", stringItems rule.tags),
    ("extracts_functions", .bool rule.extracts)]

/-- Lists the languages. -/
def listLanguages : Answer :=
  .ok [
    ("default", .str Registry.builtin.default.key),
    ("languages", .arr (Registry.builtin.rules.map languageInfo))]

/-- A stretch of a text with its tag. -/
def stretch (start stop : Nat) (tag : String) : Json :=
  .obj [("start", .int start), ("end", .int stop), ("tag", .str tag)]

/-- The language that is asked for, unless it is empty. -/
def named (language : Option String) : Option String :=
  language.filter (!·.isEmpty)

/-- Highlights a text. -/
def highlight (environment : Environment) (request : HighlightRequest) :
    Except Refusal Answer :=
  let language := (named request.language).getD environment.settings.1.defaultLanguage
  let rule := Registry.builtin.resolve (some language)
  let text := Text.ofString request.text
  let highlighting := Registry.builtin.highlightText text (some rule.key)
  match highlighting.spans with
  | .error _ => .error .failed
  | .ok spans =>
    .ok (.ok [
      ("language", .str rule.key),
      ("spans", .arr (spans.map fun s => stretch s.start s.stop s.tag)),
      ("runs", .arr (highlighting.buffer.runs.map fun r => stretch r.start r.stop r.tag)),
      ("html", .str (Html.render text spans Html.defaultClassPrefix))])

/-- Finds the functions of a text. -/
def functions (request : FunctionsRequest) : Except Refusal Answer :=
  let language := named request.language <|> detectLanguage request.fileName
  let (found, _) := Registry.builtin.extract (.ofString request.content) language
    (.of (.ofString request.fileName) request.projectName)
  match found with
  | .error _ => .error .failed
  | .ok functions =>
    .ok (.ok [
      ("language", .ofOption language),
      ("count", .int functions.length),
      ("functions", functionItems functions)])

/-! ## Scans -/

/-- What a list of scans tells about a scan, given what was polled. -/
def summary (scan : StartedScan) (poll : Poll) : List (String × Json) := [
  ("scan_id", .str scan.task.id),
  ("source_dir", .str scan.task.scanner.config.root.text),
  ("project_name", .str scan.task.scanner.projectName),
  ("status", .str poll.status.name),
  ("files_done", .int poll.filesDone),
  ("timestamp", .str scan.time)]

/-- What the status of a scan tells, given what was polled. -/
def statusMembers (scan : StartedScan) (poll : Poll) : List (String × Json) :=
  summary scan poll ++ [
    ("error", .ofOption poll.error),
    ("count", .int poll.functions.length),
    ("functions", functionItems poll.functions),
    ("skipped", .arr (poll.skipped.map (·.toJson)))]

/-- The poll of a scan. -/
def StartedScan.poll (scan : StartedScan) : Poll :=
  .ofProgress scan.task.progress

/-- The absolute path of a folder that is there. A path that cannot be asked is
not answered. -/
def folderAt (environment : Environment) (written : String) : Except Refusal Path :=
  let path := ((Path.ofString written).expandHome environment.home).resolve
    environment.files.workingDirectory
  match environment.files.leadsToFolder path with
  | .error _ => .error .failed
  | .ok true => .ok path
  | .ok false =>
    if environment.files.exists? path then .error .notFolder
    else .error (.notFound ("Path not found: " ++ path.text))

/-- The mark of a scan that is about to be started. -/
structure Stamp where
  id : String
  time : String

/-- **Starts a scan.** -/
def startScan (environment : Environment) (stamp : Stamp) (state : State)
    (request : ScanRequest) : Except Refusal (Answer × State) := do
  let folder ← folderAt environment request.path
  let scanner : Scanner :=
    { files := environment.files
      config := environment.settings.1.scanConfig folder request.projectName
      registry := .builtin }
  match (ScanTask.create stamp.id scanner false).start with
  | .error _ => .error .failed
  | .ok (task, _) =>
    let scan : StartedScan := ⟨task, stamp.time⟩
    return (.ok (summary scan scan.poll), state.add scan)

/-- Lists the scans. -/
def listScans (state : State) : Answer :=
  .ok [("scans", .arr (state.scans.map fun scan => .obj (summary scan scan.poll)))]

/-- Tells how a scan stands. -/
def scanStatus (state : State) (id : String) : Except Refusal Answer :=
  match state.find? id with
  | none => .error (.notFound "Scan not found")
  | some scan => .ok (.ok (statusMembers scan scan.poll))

/-- Cancels and forgets a scan. -/
def deleteScan (state : State) (id : String) : Except Refusal (Answer × State) :=
  match state.find? id with
  | none => .error (.notFound "Scan not found")
  | some _ => .ok (.ok [("deleted", .str id)], state.erase id)

/-- What a request is answered at a route. -/
def Route.answer (environment : Environment) (stamp : Stamp) (state : State)
    (body : Option String) : Route → Except Refusal (Answer × State)
  | .listLanguages => .ok (Api.listLanguages, state)
  | .highlight => do
    return (← Api.highlight environment (← HighlightRequest.read body), state)
  | .functions => do
    return (← Api.functions (← FunctionsRequest.read body), state)
  | .startScan => do
    Api.startScan environment stamp state (← ScanRequest.read body)
  | .listScans => .ok (Api.listScans state, state)
  | .scanStatus id => do
    return (← Api.scanStatus state id, state)
  | .deleteScan id => Api.deleteScan state id

/-- **Answers a request.** The stamp is for a scan that the request may
start. -/
def answer (environment : Environment) (stamp : Stamp) (state : State) (request : Request) :
    Answer × State :=
  match request.route >>= fun route => route.answer environment stamp state request.body with
  | .ok answered => answered
  | .error refusal => (refusal.answer, state)

end SourceLens.Api
