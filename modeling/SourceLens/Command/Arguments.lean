import SourceLens.Text.Quoted

/-!
# Options and operands

The arguments of a command are options, the values that follow some of them,
and operands. A long option may have its value after an equals sign, short
options may share one hyphen, and the value of a short option may follow it at
once. After two hyphens there are only operands.
-/

namespace SourceLens.Command

/-- **An option**: its long name with two hyphens, its letter if it has one,
and whether a value follows it. -/
structure OptionForm where
  name : String
  letter : Option Char
  takesValue : Bool
  deriving DecidableEq, Repr

/-- An option that has been given. A flag has the empty value. -/
structure Given where
  name : String
  value : String
  deriving DecidableEq, Repr

/-- **What has been given**, in order. -/
structure Arguments where
  options : List Given
  operands : List String
  deriving DecidableEq, Repr

/-- Why arguments cannot be divided. An option is named as it is written. -/
inductive ArgumentError where
  | noSuchOption (name : String)
  | valueMissing (name : String)
  | valueNotTaken (name : String)
  deriving DecidableEq, Repr

/-- What an error says. -/
def ArgumentError.message : ArgumentError → String
  | .noSuchOption name => "No such option " ++ quoted name ++ "."
  | .valueMissing name => "Option " ++ quoted name ++ " requires an argument."
  | .valueNotTaken name => "Option " ++ quoted name ++ " does not take a value."

namespace Arguments

/-- An option has been given. -/
def has (arguments : Arguments) (name : String) : Bool :=
  arguments.options.any (·.name == name)

/-- The value of an option: the last one given. -/
def value? (arguments : Arguments) (name : String) : Option String :=
  (arguments.options.reverse.find? (·.name == name)).map (·.value)

/-- The arguments with more options before them. -/
def after (options : List Given) (arguments : Arguments) : Arguments :=
  { arguments with options := options ++ arguments.options }

/-- What an argument gives: options, and the one whose value is the next
argument, with the way it is written. -/
structure Reading where
  options : List Given
  awaiting : Option (OptionForm × String)

/-- The options that share one hyphen. -/
def readLetters (forms : List OptionForm) : List Char → Except ArgumentError Reading
  | [] => .ok ⟨[], none⟩
  | c :: rest =>
    let written := String.ofList ['-', c]
    match forms.find? (·.letter == some c) with
    | none => .error (.noSuchOption written)
    | some form =>
      if form.takesValue then
        .ok (if rest.isEmpty then ⟨[], some (form, written)⟩
          else ⟨[⟨form.name, String.ofList rest⟩], none⟩)
      else
        (readLetters forms rest).map fun reading =>
          { reading with options := ⟨form.name, ""⟩ :: reading.options }

/-- The name of a long option and the value after its equals sign. -/
def splitValue (cs : List Char) : String × Option String :=
  match cs.dropWhile (· != '=') with
  | [] => (String.ofList cs, none)
  | _ :: value => (String.ofList (cs.takeWhile (· != '=')), some (String.ofList value))

/-- What an argument gives that starts with a hyphen. -/
def readOption (forms : List OptionForm) (argument : List Char) :
    Except ArgumentError Reading :=
  let (name, value) := splitValue argument
  match forms.find? (·.name == name) with
  | some form =>
    match form.takesValue, value with
    | true, some value => .ok ⟨[⟨form.name, value⟩], none⟩
    | true, none => .ok ⟨[], some (form, name)⟩
    | false, some _ => .error (.valueNotTaken name)
    | false, none => .ok ⟨[⟨form.name, ""⟩], none⟩
  | none =>
    match argument with
    | '-' :: '-' :: _ => .error (.noSuchOption name)
    | _ => readLetters forms argument.tail

/-- An argument is an option: it starts with a hyphen and does not end with
it. -/
def isOption : List Char → Bool
  | '-' :: _ :: _ => true
  | _ => false

/-- **Divides arguments.** If `mixed` is false, the first operand ends the
options. -/
def divide (forms : List OptionForm) (mixed : Bool) : List String → Except ArgumentError Arguments
  | [] => .ok ⟨[], []⟩
  | argument :: rest =>
    if argument == "--" then .ok ⟨[], rest⟩
    else if isOption argument.toList then
      match readOption forms argument.toList with
      | .error error => .error error
      | .ok ⟨options, none⟩ => (divide forms mixed rest).map (after options)
      | .ok ⟨options, some (form, written)⟩ =>
        match rest with
        | [] => .error (.valueMissing written)
        | value :: rest => (divide forms mixed rest).map (after (options ++ [⟨form.name, value⟩]))
    else if mixed then
      (divide forms mixed rest).map fun arguments =>
        { arguments with operands := argument :: arguments.operands }
    else .ok ⟨[], argument :: rest⟩

end Arguments

end SourceLens.Command
