import SourceLens.Api.Request
import SourceLens.Files.Path

/-!
# Routes

Each route has a path and the methods that it takes. A path that is no route
leads to the route that it is without the slashes at its end.
-/

namespace SourceLens.Api

/-- **What a path leads to.** -/
inductive Place where
  | languages
  | highlight
  | functions
  | scans
  | newScan
  | scan (id : String)
  deriving DecidableEq, Repr

/-- **What a request asks for.** -/
inductive Route where
  | listLanguages
  | highlight
  | functions
  | startScan
  | listScans
  | scanStatus (id : String)
  | deleteScan (id : String)
  deriving DecidableEq, Repr

/-- The place of the parts of a path. -/
def placeOfParts : List (List Char) → Option Place
  | [[], api, name] =>
    if api != "api".toList then none
    else if name == "languages".toList then some .languages
    else if name == "highlight".toList then some .highlight
    else if name == "functions".toList then some .functions
    else if name == "scans".toList then some .scans
    else if name == "scan".toList then some .newScan
    else none
  | [[], api, scan, id] =>
    if api == "api".toList && scan == "scan".toList && !id.isEmpty then
      some (.scan (String.ofList id))
    else none
  | _ => none

/-- The place of a path. -/
def exactPlace (path : List Char) : Option Place :=
  placeOfParts (Path.splitAfter [] path)

/-- A path without the slashes at its end. -/
def dropSlashes (path : List Char) : List Char :=
  (path.reverse.dropWhile (· == '/')).reverse

/-- **The place that a path leads to.** -/
def placeOf (path : List Char) : Option Place :=
  match exactPlace path with
  | some place => some place
  | none => exactPlace (dropSlashes path)

/-- The route of a method at a place. -/
def Place.route (place : Place) (method : String) : Option Route :=
  match place, method with
  | .languages, "GET" => some .listLanguages
  | .highlight, "POST" => some .highlight
  | .functions, "POST" => some .functions
  | .newScan, "POST" => some .startScan
  | .scans, "GET" => some .listScans
  | .scan id, "GET" => some (.scanStatus id)
  | .scan id, "DELETE" => some (.deleteScan id)
  | _, _ => none

/-! ## Paths as they are written -/

/-- The octets of characters in which a percent sign and two hexadecimal
digits stand for an octet. -/
def percentOctets : List Char → List UInt8
  | '%' :: a :: b :: rest =>
    match Json.Reader.hexValue? a, Json.Reader.hexValue? b with
    | some high, some low => UInt8.ofNat (high * 16 + low) :: percentOctets rest
    | _, _ => 37 :: percentOctets (a :: b :: rest)
  | c :: rest => Utf8.encodeChar c ++ percentOctets rest
  | [] => []

/-- The path of a written path, without a query or a fragment after it. -/
def decodePath (written : String) : List Char :=
  let path := written.toList.takeWhile fun c => c != '?' && c != '#'
  (Utf8.decodeLossy ⟨(percentOctets path).toArray⟩).toList

/-- **The route of a request.** -/
def Request.route (request : Request) : Except Refusal Route :=
  match placeOf (decodePath request.path) with
  | none => .error (.notFound "Not Found")
  | some place =>
    match place.route request.method with
    | some route => .ok route
    | none => .error .methodNotAllowed

end SourceLens.Api
