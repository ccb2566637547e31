import SourceLens.Pattern.Basic
import SourceLens.Text.Identifier

/-!
# Reading patterns

The notation of patterns, as user-defined languages write them: literals, `.`,
sets in brackets, escapes, anchors, groups, look-around, alternatives and
repetitions. Option letters can be switched on for the whole pattern at its
start, or inside a group. References to groups, groups and repetitions that give
nothing back, and characters called by their names are not part of the notation
here: a text that uses them is not a pattern.
-/

namespace SourceLens

/-- Why a text is not a pattern. -/
inductive PatternError where
  | unfinishedEscape
  | badEscape (letter : Char)
  | unterminatedSet
  | badRange
  | unterminatedGroup
  | unbalancedParenthesis
  | unknownGroupKind
  | badGroupName
  | duplicateGroupName (name : String)
  | badOptions
  | misplacedOptions
  | nothingToRepeat
  | multipleRepeat
  | boundsReversed
  /-- A bound of a repetition is beyond the largest one. -/
  | repetitionTooLarge
  /-- The whole pattern is for ASCII only and for all scripts. -/
  | scriptsInConflict
  /-- Look-behind needs a pattern of one width. -/
  | variableLookBehind
  /-- References to groups, and groups and repetitions that give nothing back. -/
  | unsupported
  deriving DecidableEq, Repr

/-- Options of a pattern, or of a part of one. -/
structure PatternOptions where
  ignoreCase : Bool := false
  multiline : Bool := false
  dotAll : Bool := false
  /-- Blanks and comments in the pattern do not count. -/
  spaced : Bool := false
  asciiOnly : Bool := false
  deriving DecidableEq, Repr

namespace PatternOptions

/-- Options packed into a number: 2 ignores case, 8 is multi-line, 16 lets the
dot match line feeds, 64 is spaced, 256 is ASCII only. -/
def ofBits (bits : Nat) : PatternOptions where
  ignoreCase := bits.testBit 1
  multiline := bits.testBit 3
  dotAll := bits.testBit 4
  spaced := bits.testBit 6
  asciiOnly := bits.testBit 8

/-- Switches the option of a letter. The letter `u` stands for all scripts, so
it switches ASCII only off. -/
def switch (options : PatternOptions) (value : Bool) (letter : Char) : PatternOptions :=
  match letter with
  | 'i' => { options with ignoreCase := value }
  | 'm' => { options with multiline := value }
  | 's' => { options with dotAll := value }
  | 'x' => { options with spaced := value }
  | 'a' => { options with asciiOnly := value }
  | 'u' => { options with asciiOnly := !value }
  | _ => options

/-- How sets compare characters under these options. -/
def caseMode (options : PatternOptions) : CaseMode :=
  if options.ignoreCase then
    if options.asciiOnly then .foldedAscii else .folded
  else .exact

/-- The set of some items under these options. -/
def set (options : PatternOptions) (items : List CharItem) (complement : Bool) : CharSet :=
  ⟨items, complement, options.caseMode, options.asciiOnly⟩

/-- One given code point under these options. -/
def codePoint (options : PatternOptions) (code : Nat) : Pattern :=
  .char (options.set [.range code code] false)

/-- What the dot matches under these options. -/
def dot (options : PatternOptions) : Pattern :=
  if options.dotAll then .char .any else .char (CharSet.single '\n').compl

end PatternOptions

/-- A character of a pattern, or one that a backslash stands before. -/
inductive Lexeme where
  | plain (c : Char)
  | escaped (c : Char)
  deriving DecidableEq, Repr

/-- Joins each backslash to the character after it. A backslash at the end has
none. -/
def Lexeme.ofChars : List Char → Except PatternError (List Lexeme)
  | [] => .ok []
  | '\\' :: [] => .error .unfinishedEscape
  | '\\' :: c :: rest => (Lexeme.ofChars rest).map (.escaped c :: ·)
  | c :: rest => (Lexeme.ofChars rest).map (.plain c :: ·)

namespace Pattern.Parser

/-- What is still to be read, and what has been seen of groups and of the
options of the whole pattern. -/
structure Source where
  rest : List Lexeme
  nextGroup : Nat
  names : List String
  options : PatternOptions
  /-- The whole pattern is asked to be for ASCII only. -/
  asciiAsked : Bool
  /-- The whole pattern is asked to be for all scripts. -/
  scriptsAsked : Bool

/-- The value of a digit in a base up to sixteen. -/
def digitValue? (base : Nat) (c : Char) : Option Nat :=
  let value :=
    if '0' ≤ c && c ≤ '9' then c.toNat - 0x30
    else if 'a' ≤ c && c ≤ 'f' then c.toNat - 0x57
    else if 'A' ≤ c && c ≤ 'F' then c.toNat - 0x37
    else base
  if value < base then some value else none

/-- Reads up to `limit` digits of a base: how many there are, their value, and
what follows. -/
def readDigits (base : Nat) : Nat → Nat → Nat → List Lexeme → Nat × Nat × List Lexeme
  | 0, count, value, rest => (count, value, rest)
  | limit + 1, count, value, .plain c :: rest =>
    match digitValue? base c with
    | some digit => readDigits base limit (count + 1) (value * base + digit) rest
    | none => (count, value, .plain c :: rest)
  | _ + 1, count, value, rest => (count, value, rest)

/-- Reads exactly `width` hexadecimal digits. -/
def readCode (width : Nat) (letter : Char) (rest : List Lexeme) :
    Except PatternError (Nat × List Lexeme) :=
  let (count, value, rest) := readDigits 16 width 0 0 rest
  if count == width && value ≤ 0x10FFFF then .ok (value, rest) else .error (.badEscape letter)

/-- The control character that a letter after a backslash names. -/
def controlCode? : Char → Option Nat
  | 'a' => some 7
  | 'f' => some 12
  | 'n' => some 10
  | 'r' => some 13
  | 't' => some 9
  | 'v' => some 11
  | _ => none

/-- The kind of character that a letter after a backslash names. -/
def kind? : Char → Option CharItem
  | 'd' => some (.ofKind .digit true)
  | 'D' => some (.ofKind .digit false)
  | 's' => some (.ofKind .blank true)
  | 'S' => some (.ofKind .blank false)
  | 'w' => some (.ofKind .word true)
  | 'W' => some (.ofKind .word false)
  | _ => none

/-- The anchor that a letter after a backslash names. -/
def anchor? (asciiOnly : Bool) : Char → Option Anchor
  | 'A' => some .textStart
  | 'Z' => some .textEnd
  | 'b' => some (.wordEdge true asciiOnly)
  | 'B' => some (.wordEdge false asciiOnly)
  | _ => none

/-- The code point of an escape that stands for one character, in a set or
outside. Letters without a meaning are refused. -/
def readCharacter (c : Char) (rest : List Lexeme) : Except PatternError (Nat × List Lexeme) :=
  match controlCode? c with
  | some code => .ok (code, rest)
  | none =>
    match c with
    | 'x' => readCode 2 c rest
    | 'u' => readCode 4 c rest
    | 'U' => readCode 8 c rest
    | _ => if c.isAlphanum then .error (.badEscape c) else .ok (c.toNat, rest)

/-- An octal number of the digit `c` and at most two more. -/
def readOctal (c : Char) (rest : List Lexeme) : Except PatternError (Nat × List Lexeme) :=
  match digitValue? 8 c with
  | none => .error (.badEscape c)
  | some first =>
    let (_, value, rest) := readDigits 8 2 0 first rest
    if value ≤ 0o377 then .ok (value, rest) else .error (.badEscape c)

/-! ## Sets in brackets -/

/-- One end of a range in a set, or a kind of character. -/
def readSetItem (first : Lexeme) (rest : List Lexeme) :
    Except PatternError (CharItem × List Lexeme) :=
  let code (read : Except PatternError (Nat × List Lexeme)) :=
    read.map fun (code, rest) => (CharItem.range code code, rest)
  match first with
  | .plain c => .ok (.range c.toNat c.toNat, rest)
  | .escaped 'b' => .ok (.range 8 8, rest)
  | .escaped c =>
    match kind? c with
    | some item => .ok (item, rest)
    | none => if c.isDigit then code (readOctal c rest) else code (readCharacter c rest)

/-- The range between two items that are single characters. -/
def rangeBetween : CharItem → CharItem → Except PatternError CharItem
  | .range first _, .range last _ =>
    if first ≤ last then .ok (.range first last) else .error .badRange
  | _, _ => .error .badRange

/-- The items of a set up to its closing bracket, which may stand as an item
in the first place. The items read are reversed. Every round reads at least one
lexeme, which bounds the rounds. -/
def readSet : Nat → List CharItem → List Lexeme → Except PatternError (List CharItem × List Lexeme)
  | 0, _, _ => .error .unterminatedSet
  | _ + 1, _, [] => .error .unterminatedSet
  | rounds + 1, items, first :: rest =>
    if first == .plain ']' && !items.isEmpty then .ok (items.reverse, rest)
    else do
      let (item, rest) ← readSetItem first rest
      match rest with
      | .plain '-' :: .plain ']' :: rest => .ok ((.range 0x2D 0x2D :: item :: items).reverse, rest)
      | .plain '-' :: second :: rest =>
        let (last, rest) ← readSetItem second rest
        let range ← rangeBetween item last
        readSet rounds (range :: items) rest
      | rest => readSet rounds (item :: items) rest

/-! ## Repetitions -/

/-- The bound of a repetition from which on it is too large. -/
def tooManyTimes : Nat := 4294967295

/-- The number after the lower bound of a repetition, with the count of its
digits: the upper bound behind a comma, or else the lower bound again. -/
def readUpper (lowCount low : Nat) : List Lexeme → Nat × Nat × List Lexeme
  | .plain ',' :: rest => readDigits 10 rest.length 0 0 rest
  | rest => (lowCount, low, rest)

/-- The bounds of two numbers, if a closing brace stands behind them. -/
def closeBounds (low highCount high : Nat) :
    List Lexeme → Except PatternError (Option (Nat × Option Nat × List Lexeme))
  | .plain '}' :: rest =>
    if tooManyTimes ≤ low || tooManyTimes ≤ high then .error .repetitionTooLarge
    else if highCount == 0 then .ok (some (low, none, rest))
    else if high < low then .error .boundsReversed
    else .ok (some (low, some high, rest))
  | _ => .ok none

/-- The bounds in braces: `{m}`, `{m,}`, `{,n}`, `{m,n}`. Anything else is no
repetition, and the brace stands for itself. -/
def readBounds (rest : List Lexeme) :
    Except PatternError (Option (Nat × Option Nat × List Lexeme)) :=
  if rest.head? == some (.plain '}') then .ok none
  else
    let (lowCount, low, rest) := readDigits 10 rest.length 0 0 rest
    let (highCount, high, rest) := readUpper lowCount low rest
    closeBounds low highCount high rest

/-- What the last part of a sequence is, for the repetition after it. -/
inductive Role where
  | anchor
  | repetition
  | other
  deriving DecidableEq

/-- A part of a sequence. -/
structure Part where
  pattern : Pattern
  role : Role

/-- Repeats the last part, given that `rest` follows the bounds. -/
def repeatLast (parts : List Part) (least : Nat) (most : Option Nat) (rest : List Lexeme) :
    Except PatternError (List Part × List Lexeme) :=
  match parts with
  | [] => .error .nothingToRepeat
  | last :: parts =>
    match last.role with
    | .anchor => .error .nothingToRepeat
    | .repetition => .error .multipleRepeat
    | .other =>
      match rest with
      | .plain '?' :: rest => .ok (⟨last.pattern.times least most false, .repetition⟩ :: parts, rest)
      | .plain '+' :: _ => .error .unsupported
      | rest => .ok (⟨last.pattern.times least most true, .repetition⟩ :: parts, rest)

/-! ## The heads of groups -/

/-- What stands between an opening parenthesis and the body of its group. -/
inductive GroupHead where
  | capture (name : Option String)
  | plain (add remove : List Char)
  | ahead (holds : Bool)
  | behind (holds : Bool)
  /-- A comment, with nothing to match. -/
  | comment
  /-- Options for the whole pattern. -/
  | options (add : List Char)

/-- The lexemes after a comment. -/
def skipComment : List Lexeme → Except PatternError (List Lexeme)
  | [] => .error .unterminatedGroup
  | .plain ')' :: rest => .ok rest
  | _ :: rest => skipComment rest

/-- A group name up to `>`, reversed so far. -/
def readName : List Char → List Lexeme → Except PatternError (String × List Lexeme)
  | name, .plain '>' :: rest =>
    if CharClass.isIdentifier name.reverse then .ok (String.ofList name.reverse, rest)
    else .error .badGroupName
  | name, .plain c :: rest => readName (c :: name) rest
  | _, _ => .error .badGroupName

/-- Option letters up to a character that is none. -/
def readLetters : List Char → List Lexeme → List Char × List Lexeme
  | letters, .plain c :: rest =>
    if ['a', 'i', 'm', 's', 'u', 'x'].contains c then readLetters (c :: letters) rest
    else (letters.reverse, .plain c :: rest)
  | letters, rest => (letters.reverse, rest)

/-- The letters of the options that are switched off, behind those that are
switched on. -/
def readRemoved (add : List Char) (rest : List Lexeme) :
    Except PatternError (GroupHead × List Lexeme) :=
  let (remove, rest) := readLetters [] rest
  match rest with
  | .plain ':' :: rest =>
    if remove.isEmpty || remove.contains 'a' || remove.contains 'u'
        || add.any remove.contains then .error .badOptions
    else .ok (.plain add remove, rest)
  | _ => .error .badOptions

/-- Options, for the whole pattern or for a group: letters to switch on, then
perhaps a minus and letters to switch off. -/
def readOptions (rest : List Lexeme) : Except PatternError (GroupHead × List Lexeme) :=
  let (add, rest) := readLetters [] rest
  if add.contains 'a' && add.contains 'u' then .error .badOptions
  else
    match rest with
    | .plain ')' :: rest => if add.isEmpty then .error .badOptions else .ok (.options add, rest)
    | .plain ':' :: rest => if add.isEmpty then .error .badOptions else .ok (.plain add [], rest)
    | .plain '-' :: rest => readRemoved add rest
    | _ => .error .unknownGroupKind

/-- What a question mark after an opening parenthesis announces. -/
def readExtension : List Lexeme → Except PatternError (GroupHead × List Lexeme)
  | .plain ':' :: rest => .ok (.plain [] [], rest)
  | .plain '#' :: rest => (skipComment rest).map (GroupHead.comment, ·)
  | .plain '=' :: rest => .ok (.ahead true, rest)
  | .plain '!' :: rest => .ok (.ahead false, rest)
  | .plain '<' :: .plain '=' :: rest => .ok (.behind true, rest)
  | .plain '<' :: .plain '!' :: rest => .ok (.behind false, rest)
  | .plain 'P' :: .plain '<' :: rest =>
    (readName [] rest).map fun (name, rest) => (.capture (some name), rest)
  | .plain 'P' :: .plain '=' :: _ => .error .unsupported
  | .plain '(' :: _ => .error .unsupported
  | .plain '>' :: _ => .error .unsupported
  | rest => readOptions rest

/-- The head of a group. -/
def readHead : List Lexeme → Except PatternError (GroupHead × List Lexeme)
  | .plain '?' :: rest => readExtension rest
  | rest => .ok (.capture none, rest)

/-! ## Widths -/

/-- The least and the greatest number of characters that a pattern matches;
no greatest one if there is no bound. -/
def width : Pattern → Nat × Option Nat
  | .empty | .anchor _ | .ahead .. | .behind .. => (0, some 0)
  | .char _ => (1, some 1)
  | .chars _ least most _ => (least, most)
  | .seq p q =>
    let (a, b) := width p
    let (c, d) := width q
    (a + c, do return (← b) + (← d))
  | .alt p q =>
    let (a, b) := width p
    let (c, d) := width q
    (min a c, do return max (← b) (← d))
  | .repeated p least most _ =>
    let (a, b) := width p
    (a * least, if b == some 0 then some 0 else do return (← b) * (← most))
  | .group _ _ p => width p

/-- Every look-behind has a pattern of one width. -/
def lookBehindsFixed : Pattern → Bool
  | .seq p q | .alt p q => lookBehindsFixed p && lookBehindsFixed q
  | .repeated p _ _ _ | .group _ _ p | .ahead _ p => lookBehindsFixed p
  | .behind _ _ p =>
    let (a, b) := width p
    b == some a && a < tooManyTimes + 1 && lookBehindsFixed p
  | .empty | .char _ | .anchor _ | .chars .. => true

/-! ## Sequences and alternatives -/

/-- The lexemes after the line that a comment ends with. -/
def skipLine : List Lexeme → List Lexeme
  | [] => []
  | .plain '\n' :: rest => rest
  | _ :: rest => skipLine rest

/-- Blanks that do not count in a spaced pattern. -/
def isSpacing (c : Char) : Bool :=
  c == ' ' || (0x09 ≤ c.toNat && c.toNat ≤ 0x0D)

/-- The code point of an escape outside of sets that is no anchor and no kind.
A digit other than zero is octal only if two more octal digits follow. -/
def readEscapedCode (c : Char) (rest : List Lexeme) : Except PatternError (Nat × List Lexeme) :=
  if c == '0' then readOctal c rest
  else if c.isDigit then
    match rest with
    | .plain d :: .plain e :: _ =>
      if (digitValue? 8 c).isSome && (digitValue? 8 d).isSome && (digitValue? 8 e).isSome then
        readOctal c rest
      else .error .unsupported
    | _ => .error .unsupported
  else readCharacter c rest

/-- An escape outside of sets. -/
def readEscape (options : PatternOptions) (c : Char) (rest : List Lexeme) :
    Except PatternError (Part × List Lexeme) :=
  match anchor? options.asciiOnly c, kind? c with
  | some condition, _ => .ok (⟨.anchor condition, .anchor⟩, rest)
  | none, some item => .ok (⟨.char (options.set [item] false), .other⟩, rest)
  | none, none =>
    (readEscapedCode c rest).map fun (code, rest) => (⟨options.codePoint code, .other⟩, rest)

/-- The caret after an opening bracket, which complements the set. -/
def readComplement : List Lexeme → Bool × List Lexeme
  | .plain '^' :: rest => (true, rest)
  | rest => (false, rest)

/-- A part of a sequence that is not a group, a repetition or the end. -/
def readSimple (options : PatternOptions) (first : Lexeme) (rest : List Lexeme) :
    Except PatternError (Part × List Lexeme) :=
  match first with
  | .escaped c => readEscape options c rest
  | .plain '.' => .ok (⟨options.dot, .other⟩, rest)
  | .plain '^' => .ok (⟨.anchor (if options.multiline then .lineStart else .textStart), .anchor⟩, rest)
  | .plain '$' =>
    .ok (⟨.anchor (if options.multiline then .lineEnd else .finalLineEnd), .anchor⟩, rest)
  | .plain '[' =>
    let (complement, rest) := readComplement rest
    (readSet (rest.length + 1) [] rest).map fun (items, rest) =>
      (⟨.char (options.set items complement), .other⟩, rest)
  | .plain c => .ok (⟨options.codePoint c.toNat, .other⟩, rest)

/-- A repetition sign at the start of `rest` that is one, with its bounds. -/
def readRepetition (first : Lexeme) (rest : List Lexeme) :
    Except PatternError (Option (Nat × Option Nat × List Lexeme)) :=
  match first with
  | .plain '*' => .ok (some (0, none, rest))
  | .plain '+' => .ok (some (1, none, rest))
  | .plain '?' => .ok (some (0, some 1, rest))
  | .plain '{' => readBounds rest
  | _ => .ok none

/-- What comes next in a sequence. -/
inductive Next where
  /-- The sequence ends before a bar, a closing parenthesis or the end. -/
  | stop
  /-- Something that does not count, and what follows it. -/
  | skip (rest : List Lexeme)
  /-- A group opens: its head, and what follows that. -/
  | opens (head : GroupHead) (rest : List Lexeme)
  /-- Another part, or a repetition of the last one: the parts with it, and
  what follows. -/
  | parts (parts : List Part) (rest : List Lexeme)

/-- The lexeme does not count in a spaced pattern. -/
def isSpacingLexeme : Lexeme → Bool
  | .plain c => isSpacing c
  | .escaped _ => false

/-- Reads what comes next in a sequence after some parts, up to the body of a
group. -/
def readNext (options : PatternOptions) (parts : List Part) :
    List Lexeme → Except PatternError Next
  | [] => .ok .stop
  | first :: rest =>
    if first == .plain '|' || first == .plain ')' then .ok .stop
    else if options.spaced && isSpacingLexeme first then .ok (.skip rest)
    else if options.spaced && first == .plain '#' then .ok (.skip (skipLine rest))
    else if first == .plain '(' then do
      let (head, rest) ← readHead rest
      return .opens head rest
    else do
      match ← readRepetition first rest with
      | some (least, most, rest) =>
        let (parts, rest) ← repeatLast parts least most rest
        return .parts parts rest
      | none =>
        let (part, rest) ← readSimple options first rest
        return .parts (part :: parts) rest

/-- The sequence that the parts, which are reversed, make up. -/
def sequenceOf (parts : List Part) : Pattern :=
  concat (parts.reverse.map (·.pattern))

/-- The source inside a capturing group that opens here: it has been counted,
and its name is taken. -/
def Source.count (source : Source) : Option String → Except PatternError Source
  | some name =>
    if source.names.contains name then .error (.duplicateGroupName name)
    else .ok { source with nextGroup := source.nextGroup + 1, names := name :: source.names }
  | none => .ok { source with nextGroup := source.nextGroup + 1 }

/-- Options after switching some on and some off. -/
def switchAll (options : PatternOptions) (add remove : List Char) : PatternOptions :=
  remove.foldl (·.switch false ·) (add.foldl (·.switch true ·) options)

mutual

/-- Alternatives, up to the end or a closing parenthesis. Outside of all groups
every alternative starts with the options of the whole pattern. The alternatives
read so far are reversed. -/
def readAlternatives (nested : Bool) (options : PatternOptions) :
    Nat → List Pattern → Source → Except PatternError (Pattern × Source)
  | 0, _, _ => .error .unterminatedGroup
  | fuel + 1, read, source => do
    let options := if nested then options else source.options
    let (pattern, source) ← readSequence (!nested && read.isEmpty) options fuel [] source
    match source.rest with
    | .plain '|' :: rest => readAlternatives nested options fuel (pattern :: read) { source with rest }
    | _ => return (choice (pattern :: read).reverse, source)

/-- A sequence, up to a bar, a closing parenthesis or the end. Options for the
whole pattern may stand only where nothing has been read (`atStart`). -/
def readSequence (atStart : Bool) (options : PatternOptions) :
    Nat → List Part → Source → Except PatternError (Pattern × Source)
  | 0, _, _ => .error .unterminatedGroup
  | fuel + 1, parts, source => do
    match ← readNext options parts source.rest with
    | .stop => return (sequenceOf parts, source)
    | .skip rest => readSequence atStart options fuel parts { source with rest }
    | .parts parts rest => readSequence atStart options fuel parts { source with rest }
    | .opens head rest =>
      let source := { source with rest }
      match head with
      | .comment => readSequence atStart options fuel parts source
      | .options add =>
        if !atStart || !parts.isEmpty then .error .misplacedOptions
        else
          let whole := switchAll source.options add []
          readSequence atStart whole fuel parts
            { source with
              options := whole
              asciiAsked := source.asciiAsked || add.contains 'a'
              scriptsAsked := source.scriptsAsked || add.contains 'u' }
      | .capture name =>
        let inner ← source.count name
        let (body, later) ← readBody options fuel inner
        readSequence atStart options fuel
          (⟨.group source.nextGroup name body, .other⟩ :: parts) later
      | .plain add remove =>
        let (body, source) ← readBody (switchAll options add remove) fuel source
        readSequence atStart options fuel (⟨body, .other⟩ :: parts) source
      | .ahead holds =>
        let (body, source) ← readBody options fuel source
        readSequence atStart options fuel (⟨.ahead holds body, .other⟩ :: parts) source
      | .behind holds =>
        let (body, source) ← readBody options fuel source
        readSequence atStart options fuel
          (⟨.behind holds (width body).1 body, .other⟩ :: parts) source

/-- The body of a group and its closing parenthesis. -/
def readBody (options : PatternOptions) :
    Nat → Source → Except PatternError (Pattern × Source)
  | 0, _ => .error .unterminatedGroup
  | fuel + 1, source => do
    let (body, source) ← readAlternatives true options fuel [] source
    match source.rest with
    | .plain ')' :: rest => return (body, { source with rest })
    | _ => .error .unterminatedGroup

end

end Parser

/-- **Reads a pattern** under some options. Every call of the reader takes a
lexeme or opens a group, and a group takes two lexemes, so a multiple of their
number bounds the calls. -/
def parse (options : PatternOptions) (written : List Char) : Except PatternError Pattern := do
  let lexemes ← Lexeme.ofChars written
  let (pattern, source) ←
    Parser.readAlternatives false options (3 * lexemes.length + 3) []
      ⟨lexemes, 1, [], options, options.asciiOnly, false⟩
  if source.asciiAsked && source.scriptsAsked then throw .scriptsInConflict
  if !source.rest.isEmpty then throw .unbalancedParenthesis
  if !Parser.lookBehindsFixed pattern then throw .variableLookBehind
  return pattern

end Pattern

end SourceLens
