import SourceLens.Json.Binary64
import SourceLens.Text.Quoted

/-!
# JSON values

Settings, requests and answers are JSON values. An object keeps its members in
the order in which their names first appeared.
-/

namespace SourceLens

/-- **A JSON value.** Integers have any size; other numbers are binary. -/
inductive Json where
  | null
  | bool (value : Bool)
  | int (value : Int)
  | float (value : Binary64)
  | str (value : String)
  | arr (items : List Json)
  | obj (members : List (String × Json))
  deriving Repr

namespace Json

/-- Sets a member: in place if the name is there, else at the end. -/
def put (members : List (String × Json)) (name : String) (value : Json) : List (String × Json) :=
  if members.any (·.1 == name) then
    members.map fun member => if member.1 == name then (name, value) else member
  else members ++ [(name, value)]

/-- **The members of an object** in which values are bound to names one after
the other. Of two values of one name the later counts. -/
def ofBindings (bindings : List (String × Json)) : List (String × Json) :=
  bindings.foldl (fun members (name, value) => put members name value) []

/-- The member of a name, if the value is an object that has one. -/
def member? (value : Json) (name : String) : Option Json :=
  match value with
  | .obj members => members.lookup name
  | _ => none

/-- The string, if the value is one. -/
def string? : Json → Option String
  | .str s => some s
  | _ => none

/-- The integer, if the value is one. -/
def int? : Json → Option Int
  | .int n => some n
  | _ => none

/-- The truth value, if the value is one. -/
def bool? : Json → Option Bool
  | .bool b => some b
  | _ => none

/-- The items, if the value is an array. -/
def items? : Json → Option (List Json)
  | .arr items => some items
  | _ => none

/-- The members, if the value is an object. -/
def members? : Json → Option (List (String × Json))
  | .obj members => some members
  | _ => none

/-- An optional string; a missing one is null. -/
def ofOption : Option String → Json
  | none => .null
  | some s => .str s

mutual

/-- **How messages show a value.** -/
def shown : Json → String
  | .null => "None"
  | .bool value => if value then "True" else "False"
  | .int value => toString value
  | .float value => value.text
  | .str value => quoted value
  | .arr items => "[" ++ ", ".intercalate (shownItems items) ++ "]"
  | .obj members => "\x7b" ++ ", ".intercalate (shownMembers members) ++ "\x7d"

/-- How messages show the items of an array. -/
def shownItems : List Json → List String
  | [] => []
  | item :: rest => shown item :: shownItems rest

/-- How messages show the members of an object. -/
def shownMembers : List (String × Json) → List String
  | [] => []
  | (name, value) :: rest => (quoted name ++ ": " ++ shown value) :: shownMembers rest

end

end Json

end SourceLens
