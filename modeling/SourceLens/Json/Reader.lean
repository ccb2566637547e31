import SourceLens.Json.Value

/-!
# Reading JSON

The reader takes a text that is one JSON value with blanks around it. Besides
the grammar of JSON it takes `NaN`, `Infinity` and `-Infinity`. A text that is
no value is refused at an offset: where the first character stands that cannot
belong to a value, or where a string starts that does not end.
-/

namespace SourceLens.Json

/-- Why a text is no value. -/
inductive ReadError where
  /-- The grammar is violated at an offset. -/
  | syntaxAt (offset : Nat)
  /-- An integer has too many digits. -/
  | integerTooLong
  deriving DecidableEq, Repr

namespace Reader

/-- What went wrong, while it is being read: the number of characters from
there to the end of the text. -/
inductive Fault where
  | left (count : Nat)
  | integerTooLong

/-- The place before some characters is at fault. -/
def faultAt {α : Type} (rest : List Char) : Except Fault α :=
  .error (.left rest.length)

/-- The blanks of JSON. -/
def isSpace (c : Char) : Bool :=
  c == ' ' || c == '\t' || c == '\n' || c == '\r'

/-- What follows the blanks. -/
def skipSpace : List Char → List Char
  | c :: rest => if isSpace c then skipSpace rest else c :: rest
  | [] => []

/-- What follows a word, if the text starts with it. -/
def skipWord? : List Char → List Char → Option (List Char)
  | [], rest => some rest
  | w :: word, c :: rest => if w == c then skipWord? word rest else none
  | _ :: _, [] => none

/-! ## Strings -/

/-- The value of a hexadecimal digit. -/
def hexValue? (c : Char) : Option Nat :=
  if '0' ≤ c && c ≤ '9' then some (c.toNat - 0x30)
  else if 'a' ≤ c && c ≤ 'f' then some (c.toNat - 0x57)
  else if 'A' ≤ c && c ≤ 'F' then some (c.toNat - 0x37)
  else none

/-- The value of four hexadecimal digits. -/
def hexValues? (a b c d : Char) : Option Nat := do
  return (((← hexValue? a) * 16 + (← hexValue? b)) * 16 + (← hexValue? c)) * 16 + (← hexValue? d)

/-- The character that a letter after a backslash stands for. -/
def escaped? : Char → Option Char
  | '"' => some '"'
  | '\\' => some '\\'
  | '/' => some '/'
  | 'b' => some '\x08'
  | 'f' => some '\x0c'
  | 'n' => some '\n'
  | 'r' => some '\r'
  | 't' => some '\t'
  | _ => none

/-- The first half of a surrogate pair. -/
def isHighSurrogate (code : Nat) : Bool :=
  0xD800 ≤ code && code ≤ 0xDBFF

/-- The second half of a surrogate pair. -/
def isLowSurrogate (code : Nat) : Bool :=
  0xDC00 ≤ code && code ≤ 0xDFFF

/-- The character of a code unit. Half a surrogate pair is no character and is
replaced. -/
def ofUnit (code : Nat) : Char :=
  if isHighSurrogate code || isLowSurrogate code then Char.ofNat 0xFFFD else Char.ofNat code

/-- The character of a surrogate pair. -/
def ofPair (high low : Nat) : Char :=
  Char.ofNat (0x10000 + (high - 0xD800) * 0x400 + (low - 0xDC00))

/-- The rest of a string and what follows it. The characters read are reversed;
`opening` counts the characters from the opening quote on. -/
def readString (opening : Nat) : List Char → List Char → Except Fault (String × List Char)
  | _, [] => .error (.left opening)
  | read, '"' :: rest => .ok (String.ofList read.reverse, rest)
  | _, '\\' :: [] => .error (.left opening)
  | read, '\\' :: 'u' :: a :: b :: c :: d :: e :: rest =>
    match hexValues? a b c d with
    | none => faultAt ('u' :: a :: b :: c :: d :: e :: rest)
    | some code =>
      if isHighSurrogate code then
        match e, rest with
        | '\\', 'u' :: f :: g :: h :: i :: j :: rest' =>
          match hexValues? f g h i with
          | none => faultAt rest
          | some code' =>
            if isLowSurrogate code' then readString opening (ofPair code code' :: read) (j :: rest')
            else readString opening (ofUnit code :: read)
              ('\\' :: 'u' :: f :: g :: h :: i :: j :: rest')
        | e, rest => readString opening (ofUnit code :: read) (e :: rest)
      else readString opening (ofUnit code :: read) (e :: rest)
  | _, '\\' :: 'u' :: rest => faultAt ('u' :: rest)
  | read, '\\' :: c :: rest =>
    match escaped? c with
    | some c => readString opening (c :: read) rest
    | none => faultAt ('\\' :: c :: rest)
  | read, c :: rest =>
    if c.toNat < 0x20 then faultAt (c :: rest) else readString opening (c :: read) rest
termination_by _ rest => rest.length

/-! ## Numbers -/

/-- The most digits that an integer may have. -/
def mostDigits : Nat := 4300

/-- Decimal digits: how many there are, their value, and what follows. -/
def readDigits : Nat → Nat → List Char → Nat × Nat × List Char
  | count, value, c :: rest =>
    if c.isDigit then readDigits (count + 1) (value * 10 + (c.toNat - 0x30)) rest
    else (count, value, c :: rest)
  | count, value, [] => (count, value, [])

/-- The digits after a point, if there are some: how many, the value with them
appended, and what follows. -/
def readFraction (value : Nat) (rest : List Char) : Nat × Nat × List Char :=
  match rest with
  | '.' :: more =>
    let (count, value', after) := readDigits 0 value more
    if count == 0 then (0, value, rest) else (count, value', after)
  | _ => (0, value, rest)

/-- The exponent, if there is one, and what follows. -/
def readExponent (rest : List Char) : Option Int × List Char :=
  match rest with
  | e :: more =>
    if e == 'e' || e == 'E' then
      let (negative, digits) := match more with
        | '-' :: digits => (true, digits)
        | '+' :: digits => (false, digits)
        | digits => (false, digits)
      let (count, value, after) := readDigits 0 0 digits
      if count == 0 then (none, rest)
      else (some (if negative then -(value : Int) else value), after)
    else (none, rest)
  | [] => (none, rest)

/-- The digits that a number starts with: a zero alone, or as many as there
are. -/
def readWhole : List Char → Nat × Nat × List Char
  | '0' :: after => (1, 0, after)
  | rest => readDigits 0 0 rest

/-- A number without its sign, and what follows; `whole` is where it starts,
sign included. -/
def readNumber (negative : Bool) (whole rest : List Char) : Except Fault (Json × List Char) :=
  let (count, value, after) := readWhole rest
  if count == 0 then faultAt whole
  else
    let (places, digits, after) := readFraction value after
    let (exponent, after) := readExponent after
    if places == 0 && exponent.isNone then
      if mostDigits < count then .error .integerTooLong
      else .ok (.int (if negative then -(value : Int) else value), after)
    else .ok (.float (.ofDecimal negative digits (exponent.getD 0 - places)), after)

/-! ## Values -/

/-- The name of a member, and what follows its colon. -/
def readName (rest : List Char) : Except Fault (String × List Char) :=
  match rest with
  | '"' :: more => do
    let (name, rest) ← readString rest.length [] more
    match skipSpace rest with
    | ':' :: more => return (name, skipSpace more)
    | rest => faultAt rest
  | rest => faultAt rest

/-- The words that are values. -/
def words : List (List Char × Json) := [
  (['n', 'u', 'l', 'l'], .null),
  (['t', 'r', 'u', 'e'], .bool true),
  (['f', 'a', 'l', 's', 'e'], .bool false),
  (['N', 'a', 'N'], .float .nan),
  (['I', 'n', 'f', 'i', 'n', 'i', 't', 'y'], .float (.infinite false)),
  (['-', 'I', 'n', 'f', 'i', 'n', 'i', 't', 'y'], .float (.infinite true))]

/-- A word or a number. -/
def readScalar (rest : List Char) : Except Fault (Json × List Char) :=
  match words.findSome? fun (word, value) => (skipWord? word rest).map (value, ·) with
  | some read => .ok read
  | none =>
    match rest with
    | '-' :: digits => readNumber true rest digits
    | digits => readNumber false rest digits

mutual

/-- A value and what follows it. Each call reads a character, or is the first
in a bracket that has been read; `fuel` of twice the characters is enough. -/
def readValue : Nat → List Char → Except Fault (Json × List Char)
  | 0, rest => faultAt rest
  | fuel + 1, rest =>
    match rest with
    | '"' :: more => (readString rest.length [] more).map fun (s, after) => (.str s, after)
    | '[' :: more =>
      match skipSpace more with
      | ']' :: after => .ok (.arr [], after)
      | more => readItems fuel [] more
    | '\x7b' :: more =>
      match skipSpace more with
      | '\x7d' :: after => .ok (.obj [], after)
      | more => (readMembers fuel [] more).map fun (bindings, after) =>
        (.obj (ofBindings bindings), after)
    | rest => readScalar rest

/-- The items of an array up to its end. The items read are reversed. -/
def readItems : Nat → List Json → List Char → Except Fault (Json × List Char)
  | 0, _, rest => faultAt rest
  | fuel + 1, items, rest => do
    let (item, rest) ← readValue fuel rest
    match skipSpace rest with
    | ']' :: after => return (.arr (item :: items).reverse, after)
    | ',' :: more => readItems fuel (item :: items) (skipSpace more)
    | rest => faultAt rest

/-- The members of an object up to its end, as they stand there: a name may
come more than once. The members read are reversed. -/
def readMembers :
    Nat → List (String × Json) → List Char → Except Fault (List (String × Json) × List Char)
  | 0, _, rest => faultAt rest
  | fuel + 1, bindings, rest => do
    let (name, rest) ← readName rest
    let (value, rest) ← readValue fuel rest
    match skipSpace rest with
    | '\x7d' :: after => return (((name, value) :: bindings).reverse, after)
    | ',' :: more => readMembers fuel ((name, value) :: bindings) (skipSpace more)
    | rest => faultAt rest

end

end Reader

/-- **Reads a value.** -/
def read (cs : List Char) : Except ReadError Json :=
  let result := do
    let (value, rest) ← Reader.readValue (2 * cs.length + 2) (Reader.skipSpace cs)
    match Reader.skipSpace rest with
    | [] => return value
    | rest => Reader.faultAt rest
  match result with
  | .ok value => .ok value
  | .error (.left count) => .error (.syntaxAt (cs.length - count))
  | .error .integerTooLong => .error .integerTooLong

end SourceLens.Json
