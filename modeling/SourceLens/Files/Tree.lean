import SourceLens.Files.Path
import SourceLens.Text.LineBreak
import SourceLens.Text.Quoted

/-!
# File trees

The files that a scan, a command or a request sees: a tree of folders and
files, a working directory, and what the system refuses. Paths are followed
name by name; two dots lead to the folder above.

A refusal is an error that an access to a path ends in, and each kind of access
has its own: the system may tell that a path leads to a file, and then not give
its size or its content. Two of these accesses belong to a walk. It first asks
whether there is a folder, and it lists every folder that it comes to. It passes
over what is in a folder that it is not permitted to list, without a word; any
other refusal of the two ends it.
-/

namespace SourceLens

/-- **A file or a folder.** A folder has at most one entry of a name: of several
in the list, the first. -/
inductive Entry where
  | file (content : ByteArray)
  | folder (entries : List (String × Entry))

/-- **An error of the system**: the number that systems give it, and what it
says. -/
structure SystemError where
  number : Nat
  reason : String
  deriving DecidableEq, Repr

namespace SystemError

def notFound : SystemError := ⟨2, "No such file or directory"⟩

def denied : SystemError := ⟨13, "Permission denied"⟩

def notFolder : SystemError := ⟨20, "Not a directory"⟩

def isFolder : SystemError := ⟨21, "Is a directory"⟩

def nameTooLong : SystemError := ⟨36, "File name too long"⟩

/-- The error says that a path leads nowhere: to nothing, through a file, by a
descriptor that is closed, or round in a circle. -/
def meansAbsence (error : SystemError) : Bool :=
  [2, 20, 9, 40].contains error.number

/-- The error says that something is not permitted. -/
def meansDenial (error : SystemError) : Bool :=
  [1, 13].contains error.number

end SystemError

/-- Why a file cannot be used. -/
structure FileError where
  cause : SystemError
  path : Path
  deriving DecidableEq, Repr

namespace FileError

def notFound (path : Path) : FileError := ⟨.notFound, path⟩

def notFolder (path : Path) : FileError := ⟨.notFolder, path⟩

def isFolder (path : Path) : FileError := ⟨.isFolder, path⟩

/-- What an error says. -/
def message (error : FileError) : String :=
  "[Errno " ++ toString error.cause.number ++ "] " ++ error.cause.reason ++ ": "
    ++ quoted error.path.text

end FileError

/-- **What the system refuses**, path by path: the error that an access to the
path ends in, if it is refused. -/
structure Refusals where
  /-- Asking whether there is a file. -/
  asking : Path → Option SystemError
  /-- Asking for the size. -/
  measuring : Path → Option SystemError
  /-- Reading the content. -/
  reading : Path → Option SystemError
  /-- Asking whether there is a folder. -/
  entering : Path → Option SystemError
  /-- Listing what is in a folder. -/
  listing : Path → Option SystemError

/-- Nothing is refused. -/
def Refusals.empty : Refusals where
  asking _ := none
  measuring _ := none
  reading _ := none
  entering _ := none
  listing _ := none

namespace Entry

/-- The size in octets. Folders have the size of one block. -/
def size : Entry → Nat
  | .file content => content.size
  | .folder _ => 4096

/-- It is a file. -/
def isFile : Entry → Bool
  | .file _ => true
  | .folder _ => false

/-- The entry of a name, if this is a folder that has one. -/
def entry? : Entry → String → Option Entry
  | .file _, _ => none
  | .folder entries, name => entries.lookup name

/-- Sets the entry of a name among others: in place if the name is there, else
at the end. -/
def set (entries : List (String × Entry)) (name : String) (entry : Entry) :
    List (String × Entry) :=
  if entries.any (·.1 == name) then
    entries.map fun e => if e.1 == name then (name, entry) else e
  else entries ++ [(name, entry)]

/-- Puts an entry below another, making the folders on the way. -/
def put (entry : Entry) : List String → Entry → Entry
  | [], new => new
  | name :: names, new =>
    let entries := match entry with
      | .folder entries => entries
      | .file _ => []
    let below := (entries.lookup name).getD (.folder [])
    .folder (set entries name (below.put names new))

mutual

/-- Everything below an entry, with the names that lead there. -/
def descendants : Entry → List (List String × Entry)
  | .file _ => []
  | .folder entries => descendantsOf [] entries

/-- The entries of a folder and everything below them. The names seen before
have their entry already. -/
def descendantsOf (seen : List String) : List (String × Entry) → List (List String × Entry)
  | [] => []
  | (name, entry) :: rest =>
    let later := descendantsOf (name :: seen) rest
    if seen.contains name then later
    else
      ([name], entry) :: (entry.descendants.map fun (names, e) => (name :: names, e)) ++ later

end

end Entry

/-- **The files at hand.** -/
structure FileTree where
  root : Entry
  workingDirectory : List String
  refusals : Refusals

namespace FileTree

/-- Follows names from an entry; `above` are the folders passed, the nearest
first. -/
def follow (path : Path) : List Entry → Entry → List String → Except FileError Entry
  | _, entry, [] => .ok entry
  | above, .folder entries, name :: names =>
    if name == ".." then
      match above with
      | [] => follow path [] (.folder entries) names
      | parent :: above => follow path above parent names
    else
      match entries.lookup name with
      | some entry => follow path (.folder entries :: above) entry names
      | none => .error (.notFound path)
  | _, .file _, _ :: _ => .error (.notFolder path)

/-- **The entry that a path leads to.** -/
def entry (files : FileTree) (path : Path) : Except FileError Entry :=
  match path.root with
  | .relative => follow path [] files.root (files.workingDirectory ++ path.names)
  | _ => follow path [] files.root path.names

/-- The entry that a string leads to, if it leads to one. Where it ends in a
slash or in a single dot it leads to a folder only, and the empty string leads
nowhere. -/
def entryAt? (files : FileTree) (written : String) : Option Entry :=
  let last := ((Path.splitAfter [] written.toList).getLast?).getD []
  match files.entry (.ofString written) with
  | .ok (.folder entries) => if written.isEmpty then none else some (.folder entries)
  | .ok (.file content) => if last == [] || last == ['.'] then none else some (.file content)
  | .error _ => none

/-- Something is there. -/
def exists? (files : FileTree) (path : Path) : Bool :=
  (files.entry path).isOk

/-- A folder is there. -/
def isFolder (files : FileTree) (path : Path) : Bool :=
  match files.entry path with
  | .ok (.folder _) => true
  | _ => false

/-- The entry that a path leads to, unless access is refused. -/
def access (files : FileTree) (refusal : Option SystemError) (path : Path) :
    Except FileError Entry :=
  match refusal with
  | some cause => .error ⟨cause, path⟩
  | none => files.entry path

/-- Asks a question about what is there. Where nothing is, the answer is no. -/
def ask (files : FileTree) (refusal : Option SystemError) (path : Path)
    (question : Entry → Bool) : Except FileError Bool :=
  match files.access refusal path with
  | .ok entry => .ok (question entry)
  | .error error => if error.cause.meansAbsence then .ok false else .error error

/-- Asks whether a file is there. -/
def isFile (files : FileTree) (path : Path) : Except FileError Bool :=
  files.ask (files.refusals.asking path) path (·.isFile)

/-- Asks whether a folder is there. -/
def leadsToFolder (files : FileTree) (path : Path) : Except FileError Bool :=
  files.ask (files.refusals.entering path) path (!·.isFile)

/-- The size of what is there, in octets. -/
def size (files : FileTree) (path : Path) : Except FileError Nat :=
  (files.access (files.refusals.measuring path) path).map (·.size)

/-- The octets of a file. -/
def readOctets (files : FileTree) (path : Path) : Except FileError ByteArray :=
  match files.access (files.refusals.reading path) path with
  | .ok (.file content) => .ok content
  | .ok (.folder _) => .error (.isFolder path)
  | .error error => .error error

/-- **The text of a file.** -/
def readText (files : FileTree) (path : Path) : Except FileError Text :=
  (files.readOctets path).map Text.ofOctets

/-! ## Walking -/

/-- A walk from a path comes to what some names lead to: every folder on the way
can be listed. -/
def reaches (files : FileTree) (path : Path) : List String → Bool
  | [] => true
  | name :: names =>
    (files.refusals.listing path).isNone && files.reaches (path.join [name]) names

/-- What a walk comes to below a path, with the names that lead there. -/
def entriesWalked (files : FileTree) (path : Path) : List (List String × Entry) :=
  match files.entry path with
  | .ok entry => entry.descendants.filter fun (names, _) => files.reaches path names
  | .error _ => []

/-- The error that listing a folder in a walk ends in. Not to be permitted to
list a folder does not end a walk. -/
def listingError? (files : FileTree) (folder : Path) : Option FileError :=
  ((files.refusals.listing folder).filter (!·.meansDenial)).map (⟨·, folder⟩)

/-- The folders that a walk lists from a folder on, in the order in which it
comes to them. -/
def foldersWalked (files : FileTree) (path : Path) : List Path :=
  path :: (files.entriesWalked path).filterMap fun (names, entry) =>
    if entry.isFile then none else some (path.join names)

/-- The names that lead to what a walk comes to, in the order of paths: by the
first name that differs. -/
def namesBelow (files : FileTree) (path : Path) : List (List String) :=
  ((files.entriesWalked path).map (·.1)).mergeSort Path.namesLe

/-- **Walks from a folder** to everything below it. Where no folder is there is
nothing below. -/
def walk (files : FileTree) (path : Path) : Except FileError (List (List String)) :=
  match files.leadsToFolder path with
  | .error error => .error error
  | .ok false => .ok []
  | .ok true =>
    match (files.foldersWalked path).findSome? files.listingError? with
    | some error => .error error
    | none => .ok (files.namesBelow path)

/-! ## Writing -/

/-- Puts an entry in the place of a path, making folders on the way. -/
def put (files : FileTree) (path : Path) (entry : Entry) : FileTree :=
  { files with root := files.root.put (path.resolve files.workingDirectory).names entry }

/-- Makes a folder where there is nothing. -/
def makeFolder (files : FileTree) (path : Path) : FileTree :=
  if files.exists? path then files else files.put path (.folder [])

/-- Makes the folders that some names lead to from a folder, one below the
other, as far as they are missing. -/
def makeFolders (files : FileTree) (there : Path) : List String → Except FileError FileTree
  | [] => if files.isFolder there then .ok files else .error (.notFolder there)
  | name :: names =>
    if files.isFolder there then
      makeFolders (files.makeFolder (there.join [name])) (there.join [name]) names
    else .error (.notFolder (there.join (name :: names)))

/-- **Writes a file**, making the folders on the way. A file on the way stays,
and so does a folder in the place of the file. -/
def write (files : FileTree) (path : Path) (content : ByteArray) :
    Except FileError FileTree := do
  let files ← files.makeFolders { path with names := [] } path.parent.names
  if files.isFolder path then .error (.isFolder path)
  else return files.put path (.file content)

end FileTree

end SourceLens
