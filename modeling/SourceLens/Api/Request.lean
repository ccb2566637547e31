import SourceLens.Json.Reader
import SourceLens.Text.Utf8

/-!
# Requests

A request has a method, a path and perhaps a body. Bodies are JSON objects
whose fields are strings; a field may be optional, and then null stands for
nothing. Everything that is wrong with the fields of a body is told at once,
in the order of the fields.
-/

namespace SourceLens.Api

/-- **A request.** A body is text. -/
structure Request where
  method : String
  path : String
  body : Option String
  deriving DecidableEq, Repr

/-- **What is wrong with a body.** -/
inductive BodyFault where
  | missing
  | notObject
  /-- The text is no JSON, which shows at an offset. -/
  | syntaxAt (offset : Nat)
  | fieldMissing (name : String)
  | fieldNotString (name : String)
  deriving DecidableEq, Repr

namespace BodyFault

/-- The kind of a fault and where it is. -/
def detail (kind : String) (place : List Json) : Json :=
  .obj [("type", .str kind), ("loc", .arr (.str "body" :: place))]

/-- The fault as a JSON object. -/
def toJson : BodyFault → Json
  | .missing => detail "missing" []
  | .notObject => detail "model_attributes_type" []
  | .syntaxAt offset => detail "json_invalid" [.int offset]
  | .fieldMissing name => detail "missing" [.str name]
  | .fieldNotString name => detail "string_type" [.str name]

end BodyFault

/-- Why a request is refused. -/
inductive Refusal where
  | invalid (faults : List BodyFault)
  /-- The body holds an integer that is too long to be read. -/
  | unreadable
  | notFound (what : String)
  | notFolder
  | methodNotAllowed
  | failed
  deriving DecidableEq, Repr

/-- The JSON object in a body. A byte order mark at its start does not
count. -/
def readBody : Option String → Except Refusal Json
  | none => .error (.invalid [.missing])
  | some body =>
    if body.isEmpty then .error (.invalid [.missing])
    else
      let cs := match body.toList with
        | '\ufeff' :: rest => rest
        | cs => cs
      match Json.read cs with
      | .error (.syntaxAt offset) => .error (.invalid [.syntaxAt offset])
      | .error .integerTooLong => .error .unreadable
      | .ok (.obj members) => .ok (.obj members)
      | .ok _ => .error (.invalid [.notObject])

/-- A field of a body, read with what was wrong before. -/
structure Field (α : Type) where
  value : α
  faults : List BodyFault

/-- A string that has to be there. -/
def requiredField (body : Json) (name : String) : Field String :=
  match body.member? name with
  | none => ⟨"", [.fieldMissing name]⟩
  | some (.str s) => ⟨s, []⟩
  | some _ => ⟨"", [.fieldNotString name]⟩

/-- A string that may be missing or null. -/
def optionalField (body : Json) (name : String) : Field (Option String) :=
  match body.member? name with
  | none | some .null => ⟨none, []⟩
  | some (.str s) => ⟨some s, []⟩
  | some _ => ⟨none, [.fieldNotString name]⟩

/-- A string that may be missing. -/
def fieldOr (body : Json) (name default : String) : Field String :=
  match body.member? name with
  | none => ⟨default, []⟩
  | some (.str s) => ⟨s, []⟩
  | some _ => ⟨default, [.fieldNotString name]⟩

/-- A value, if nothing is wrong. -/
def checked {α : Type} (faults : List BodyFault) (value : α) : Except Refusal α :=
  if faults.isEmpty then .ok value else .error (.invalid faults)

/-- Asks to highlight a text. -/
structure HighlightRequest where
  text : String
  language : Option String
  deriving DecidableEq, Repr

/-- Asks for the functions of a text. -/
structure FunctionsRequest where
  content : String
  language : Option String
  fileName : String
  projectName : Option String
  deriving DecidableEq, Repr

/-- Asks to scan a folder. -/
structure ScanRequest where
  path : String
  projectName : Option String
  deriving DecidableEq, Repr

/-- Reads a body that asks to highlight a text. -/
def HighlightRequest.read (body : Option String) : Except Refusal HighlightRequest := do
  let body ← readBody body
  let text := requiredField body "text"
  let language := optionalField body "language"
  checked (text.faults ++ language.faults) ⟨text.value, language.value⟩

/-- Reads a body that asks for the functions of a text. -/
def FunctionsRequest.read (body : Option String) : Except Refusal FunctionsRequest := do
  let body ← readBody body
  let content := requiredField body "content"
  let language := optionalField body "language"
  let fileName := fieldOr body "file_name" "snippet"
  let projectName := optionalField body "project_name"
  checked (content.faults ++ language.faults ++ fileName.faults ++ projectName.faults)
    ⟨content.value, language.value, fileName.value, projectName.value⟩

/-- Reads a body that asks to scan a folder. -/
def ScanRequest.read (body : Option String) : Except Refusal ScanRequest := do
  let body ← readBody body
  let path := requiredField body "path"
  let projectName := optionalField body "project_name"
  checked (path.faults ++ projectName.faults) ⟨path.value, projectName.value⟩

end SourceLens.Api
