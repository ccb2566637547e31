import SourceLens.Text.Basic

/-!
# UTF-8

Reading and writing the encoding of files. The reader is a machine that takes
one octet at a time and knows which octets may follow. It never stops: a part
that no character can begin or continue with is read as one replacement
character, U+FFFD, and the machine remembers that the octets were malformed.
-/

namespace SourceLens.Utf8

/-- Where the reader stands between two octets. -/
inductive Awaiting where
  /-- Between characters. -/
  | character
  /-- Inside a character: its bits so far, the number of octets still owed,
  and the least and greatest octet that may come next. -/
  | rest (bits owed low high : Nat)

/-- The reader: what it has read, whether anything was malformed, and where it
stands. -/
structure Reader where
  chars : Array Char
  malformed : Bool
  awaiting : Awaiting

namespace Reader

/-- The reader before the first octet. -/
def initial : Reader :=
  ⟨#[], false, .character⟩

/-- A character has been read. -/
def accept (r : Reader) (code : Nat) : Reader :=
  { r with chars := r.chars.push (Char.ofNat code), awaiting := .character }

/-- A malformed part has ended. -/
def reject (r : Reader) : Reader :=
  { chars := r.chars.push (Char.ofNat 0xFFFD), malformed := true, awaiting := .character }

/-- The first octet of a character. Overlong forms, surrogates and code points
beyond U+10FFFF are ruled out by the range of the second octet. -/
def first (r : Reader) (octet : Nat) : Reader :=
  if octet ≤ 0x7F then r.accept octet
  else if octet < 0xC2 then r.reject
  else if octet ≤ 0xDF then { r with awaiting := .rest (octet - 0xC0) 1 0x80 0xBF }
  else if octet == 0xE0 then { r with awaiting := .rest 0 2 0xA0 0xBF }
  else if octet == 0xED then { r with awaiting := .rest 0xD 2 0x80 0x9F }
  else if octet ≤ 0xEF then { r with awaiting := .rest (octet - 0xE0) 2 0x80 0xBF }
  else if octet == 0xF0 then { r with awaiting := .rest 0 3 0x90 0xBF }
  else if octet ≤ 0xF3 then { r with awaiting := .rest (octet - 0xF0) 3 0x80 0xBF }
  else if octet == 0xF4 then { r with awaiting := .rest 4 3 0x80 0x8F }
  else r.reject

/-- **One octet.** An octet that cannot continue the character begun ends a
malformed part, and is then read as a first octet. -/
def step (r : Reader) (octet : UInt8) : Reader :=
  let octet := octet.toNat
  match r.awaiting with
  | .character => r.first octet
  | .rest bits owed low high =>
    if low ≤ octet && octet ≤ high then
      let bits := bits * 64 + (octet - 0x80)
      if owed ≤ 1 then r.accept bits
      else { r with awaiting := .rest bits (owed - 1) 0x80 0xBF }
    else r.reject.first octet

/-- The end of the octets. A character begun and not ended is malformed. -/
def finish (r : Reader) : Reader :=
  match r.awaiting with
  | .character => r
  | .rest .. => r.reject

end Reader

/-- Reads all octets. -/
def read (octets : ByteArray) : Reader :=
  (octets.data.foldl Reader.step Reader.initial).finish

/-- **The text of some octets**, with one replacement character for each
malformed part. -/
def decodeLossy (octets : ByteArray) : Text :=
  (read octets).chars

/-- The text of some octets, if no part is malformed. -/
def decode? (octets : ByteArray) : Option Text :=
  let r := read octets
  if r.malformed then none else some r.chars

/-- The octets of a character. -/
def encodeChar (c : Char) : List UInt8 :=
  let code := c.toNat
  if code < 0x80 then [code.toUInt8]
  else if code < 0x800 then
    [(0xC0 + code / 64).toUInt8, (0x80 + code % 64).toUInt8]
  else if code < 0x10000 then
    [(0xE0 + code / 4096).toUInt8, (0x80 + code / 64 % 64).toUInt8, (0x80 + code % 64).toUInt8]
  else
    [(0xF0 + code / 262144).toUInt8, (0x80 + code / 4096 % 64).toUInt8,
      (0x80 + code / 64 % 64).toUInt8, (0x80 + code % 64).toUInt8]

/-- **The octets of a string.** -/
def encode (s : String) : ByteArray :=
  ⟨(s.toList.flatMap encodeChar).toArray⟩

end SourceLens.Utf8
