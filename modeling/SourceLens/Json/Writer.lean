import SourceLens.Json.Value

/-!
# Writing JSON

Values are written in ASCII: every other character is escaped, those beyond
the basic plane as a surrogate pair. The layout is either one line, or one
line for each item and member, indented by their depth.
-/

namespace SourceLens.Json

namespace Writer

/-- A code unit as an escape. -/
def escapeUnit (code : Nat) : List Char :=
  '\\' :: 'u' :: Quoted.hexDigits 4 code

/-- A character inside a string. -/
def escapeChar (c : Char) : List Char :=
  if c == '"' then ['\\', '"']
  else if c == '\\' then ['\\', '\\']
  else if c == '\n' then ['\\', 'n']
  else if c == '\r' then ['\\', 'r']
  else if c == '\t' then ['\\', 't']
  else if c == '\x0c' then ['\\', 'f']
  else if c == '\x08' then ['\\', 'b']
  else
    let code := c.toNat
    if 0x20 ≤ code && code ≤ 0x7E then [c]
    else if code < 0x10000 then escapeUnit code
    else
      escapeUnit (0xD800 + (code - 0x10000) / 0x400)
        ++ escapeUnit (0xDC00 + (code - 0x10000) % 0x400)

/-- A string between its quotes. -/
def string (s : String) : List Char :=
  '"' :: s.toList.flatMap escapeChar ++ ['"']

/-- A binary number. The numbers that JSON lacks have names. -/
def float : Binary64 → String
  | .nan => "NaN"
  | .infinite negative => if negative then "-Infinity" else "Infinity"
  | x => x.text

/-- A value that has no parts, and is no array or object. -/
def scalar : Json → List Char
  | .null => "null".toList
  | .bool value => if value then "true".toList else "false".toList
  | .int value => (toString value).toList
  | .float value => (float value).toList
  | .str value => string value
  | .arr _ | .obj _ => []

/-- What stands between two parts, and what starts and ends an array or an
object that has some. -/
structure Layout where
  /-- How a line at a depth begins; the first part starts one as well. -/
  line : Nat → List Char
  /-- What separates two parts on lines of one depth. -/
  comma : Nat → List Char
  colon : List Char

/-- Everything on one line. -/
def oneLine : Layout where
  line _ := []
  comma _ := [',', ' ']
  colon := [':', ' ']

/-- A line break with two spaces for each level of depth. -/
def lineBreak (depth : Nat) : List Char :=
  '\n' :: List.replicate (2 * depth) ' '

/-- One line for each part. -/
def indented : Layout where
  line := lineBreak
  comma depth := ',' :: lineBreak depth
  colon := [':', ' ']

mutual

/-- A value at a depth. -/
def write (layout : Layout) (depth : Nat) : Json → List Char
  | .arr items =>
    if items.isEmpty then ['[', ']']
    else
      '[' :: layout.line (depth + 1) ++ writeItems layout (depth + 1) items
        ++ layout.line depth ++ [']']
  | .obj members =>
    if members.isEmpty then ['\x7b', '\x7d']
    else
      '\x7b' :: layout.line (depth + 1) ++ writeMembers layout (depth + 1) members
        ++ layout.line depth ++ ['\x7d']
  | .null => scalar .null
  | .bool value => scalar (.bool value)
  | .int value => scalar (.int value)
  | .float value => scalar (.float value)
  | .str value => scalar (.str value)

/-- The items of an array. -/
def writeItems (layout : Layout) (depth : Nat) : List Json → List Char
  | [] => []
  | [item] => write layout depth item
  | item :: rest => write layout depth item ++ layout.comma depth ++ writeItems layout depth rest

/-- The members of an object. -/
def writeMembers (layout : Layout) (depth : Nat) : List (String × Json) → List Char
  | [] => []
  | [(name, value)] => string name ++ layout.colon ++ write layout depth value
  | (name, value) :: rest =>
    string name ++ layout.colon ++ write layout depth value ++ layout.comma depth
      ++ writeMembers layout depth rest

end

end Writer

/-- **A value on one line.** -/
def compact (value : Json) : String :=
  String.ofList (Writer.write Writer.oneLine 0 value)

/-- **A value on several lines**, indented by two spaces. -/
def pretty (value : Json) : String :=
  String.ofList (Writer.write Writer.indented 0 value)

end SourceLens.Json
