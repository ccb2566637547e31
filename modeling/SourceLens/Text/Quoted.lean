import SourceLens.Text.Printable

/-!
# Quoted text

How messages show a name: between quotes, with everything that cannot be seen
escaped. Single quotes are used unless the text holds a single quote and no
double quote.
-/

namespace SourceLens.Quoted

/-- The digit of a value below sixteen, in lower case. -/
def hexDigit (value : Nat) : Char :=
  if value < 10 then Char.ofNat (0x30 + value) else Char.ofNat (0x57 + value)

/-- The last `width` hexadecimal digits of a number. -/
def hexDigits : Nat → Nat → List Char
  | 0, _ => []
  | width + 1, n => hexDigits width (n / 16) ++ [hexDigit (n % 16)]

/-- One character inside quotes of the kind `quote`. Backslash and that quote
are preceded by a backslash, three controls have letters, and any other
character that is not printable is written by its code point, in the shortest
of two, four or eight digits. -/
def escape (quote c : Char) : List Char :=
  if c == quote || c == '\\' then ['\\', c]
  else if c == '\t' then ['\\', 't']
  else if c == '\n' then ['\\', 'n']
  else if c == '\r' then ['\\', 'r']
  else if CharClass.isPrintable c then [c]
  else
    let code := c.toNat
    if code < 0x100 then '\\' :: 'x' :: hexDigits 2 code
    else if code < 0x10000 then '\\' :: 'u' :: hexDigits 4 code
    else '\\' :: 'U' :: hexDigits 8 code

/-- The quote that a text is written in. -/
def quoteFor (cs : List Char) : Char :=
  if cs.contains '\'' && !cs.contains '"' then '"' else '\''

/-- A list of characters, quoted. -/
def encode (cs : List Char) : List Char :=
  let quote := quoteFor cs
  quote :: cs.flatMap (escape quote) ++ [quote]

end Quoted

/-- **A text in quotes**, as messages show it. -/
def quoted (s : String) : String :=
  String.ofList (Quoted.encode s.toList)

/-- An optional text in quotes; a missing one is shown as `None`. -/
def quotedOption : Option String → String
  | none => "None"
  | some s => quoted s

end SourceLens
