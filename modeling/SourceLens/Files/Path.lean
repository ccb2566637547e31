/-!
# Paths

A path is a list of names, starting from the root of the file system, from the
working directory, or from the two slashes that some systems set apart.
Doubled slashes, a slash at the end and single dots do not count. Two dots are
kept.
-/

namespace SourceLens

/-- What a path starts from. -/
inductive PathRoot where
  /-- The working directory. -/
  | relative
  /-- The root of the file system. -/
  | absolute
  /-- Exactly two slashes. -/
  | doubleSlash
  deriving DecidableEq, Repr

/-- The slashes that a path starts with. -/
def PathRoot.text : PathRoot → String
  | .relative => ""
  | .absolute => "/"
  | .doubleSlash => "//"

/-- **A path.** No name is empty, is a single dot or holds a slash. -/
structure Path where
  root : PathRoot
  names : List String
  deriving DecidableEq, Repr

namespace Path

/-- The stretches between the slashes of some characters. The first argument is
the stretch being read, reversed. -/
def splitAfter : List Char → List Char → List (List Char)
  | read, [] => [read.reverse]
  | read, c :: rest =>
    if c == '/' then read.reverse :: splitAfter [] rest else splitAfter (c :: read) rest

/-- The root that some characters start from: two slashes are a root of their
own, three or more are not. -/
def rootOf : List Char → PathRoot
  | '/' :: '/' :: '/' :: _ => .absolute
  | '/' :: '/' :: _ => .doubleSlash
  | '/' :: _ => .absolute
  | _ => .relative

/-- **The path that a string writes.** -/
def ofString (s : String) : Path where
  root := rootOf s.toList
  names := ((splitAfter [] s.toList).map String.ofList).filter fun name =>
    name != "" && name != "."

/-- **The string that writes a path.** The empty path is a single dot. -/
def text (path : Path) : String :=
  if path.root == .relative && path.names.isEmpty then "."
  else path.root.text ++ "/".intercalate path.names

/-- The last name, empty if there is none. -/
def name (path : Path) : String :=
  path.names.getLastD ""

/-- The path without its last name. -/
def parent (path : Path) : Path :=
  { path with names := path.names.dropLast }

/-- The parts of a path: the slashes it starts with, if any, and its names. -/
def parts (path : Path) : List String :=
  match path.root with
  | .relative => path.names
  | root => root.text :: path.names

/-- The path of something below. -/
def join (path : Path) (names : List String) : Path :=
  { path with names := path.names ++ names }

/-- What a name ends in from its last dot on, if the dot is neither first nor
last; the characters are reversed, and so are those after the dot. -/
def suffixOfReversed : List Char → List Char → List Char
  | _, [] => []
  | after, '.' :: before => if before.isEmpty || after.isEmpty then [] else '.' :: after
  | after, c :: before => suffixOfReversed (c :: after) before

/-- **The extension** of the last name with its dot, or the empty text. -/
def extension (path : Path) : String :=
  String.ofList (suffixOfReversed [] path.name.toList.reverse)

/-- Names without single and double dots, read from the left: two dots take
away the name before, if there is one. The names kept are reversed. -/
def collapse : List String → List String → List String
  | kept, [] => kept.reverse
  | kept, name :: rest =>
    if name == ".." then collapse kept.tail rest else collapse (name :: kept) rest

/-- **The absolute path** without double dots, seen from a working
directory. -/
def resolve (path : Path) (workingDirectory : List String) : Path where
  root := .absolute
  names := match path.root with
    | .relative => collapse [] (workingDirectory ++ path.names)
    | _ => collapse [] path.names

/-- The path with its first name replaced by the home folder, if that name is
a tilde. -/
def expandHome (path home : Path) : Path :=
  match path.root, path.names with
  | .relative, "~" :: names => home.join names
  | _, _ => path

/-- The order of lists of names: by the first name that differs. -/
def namesLe : List String → List String → Bool
  | [], _ => true
  | _ :: _, [] => false
  | a :: as, b :: bs => if a == b then namesLe as bs else a < b

end Path

end SourceLens
