import SourceLens.Text.Utf8

/-!
# Line breaks

Files break lines in three ways: line feed, carriage return, or both in this
order. A text that has been read knows only the line feed.
-/

namespace SourceLens.LineBreak

/-- What has been read, and whether the last character was a carriage
return. -/
structure Reader where
  chars : Array Char
  afterReturn : Bool

/-- One character. A carriage return breaks the line at once, and a line feed
right after it belongs to the same break. -/
def Reader.step (r : Reader) (c : Char) : Reader :=
  if c == '\r' then ⟨r.chars.push '\n', true⟩
  else if c == '\n' && r.afterReturn then ⟨r.chars, false⟩
  else ⟨r.chars.push c, false⟩

/-- **A text with line feeds only.** -/
def normalize (text : Text) : Text :=
  (text.foldl Reader.step ⟨#[], false⟩).chars

end LineBreak

/-- **The text of a file** of a project: malformed parts replaced, and line
breaks normalized. A byte order mark is kept as the character it is. -/
def Text.ofOctets (octets : ByteArray) : Text :=
  LineBreak.normalize (Utf8.decodeLossy octets)

end SourceLens
