import SourceLens.Text.LowerCase

/-!
# Slugs

A slug names a text safely: lower case, with every run of characters other
than `a` to `z` and `0` to `9` replaced by one hyphen, cut to a length, and
without hyphens at its ends. A text that leaves nothing has the slug
`snippet`.
-/

namespace SourceLens.Slug

/-- The characters that a slug keeps. -/
def isKept (c : Char) : Bool :=
  ('a' ≤ c && c ≤ 'z') || ('0' ≤ c && c ≤ '9')

/-- Each run of characters that are not kept becomes one hyphen. The flag says
that the last character written was such a hyphen. -/
def hyphenateAfter : Bool → List Char → List Char
  | _, [] => []
  | inGap, c :: rest =>
    if isKept c then c :: hyphenateAfter false rest
    else if inGap then hyphenateAfter true rest
    else '-' :: hyphenateAfter true rest

/-- Kept characters, with one hyphen for each run of others. -/
def hyphenate (cs : List Char) : List Char :=
  hyphenateAfter false cs

/-- The first `limit` elements, or all but the last `-limit` if `limit` is
negative. -/
def cut {α : Type} (limit : Int) (xs : List α) : List α :=
  if 0 ≤ limit then xs.take limit.toNat else xs.take (xs.length - (-limit).toNat)

/-- A list of characters without the hyphens at both its ends. -/
def stripHyphens (cs : List Char) : List Char :=
  ((cs.dropWhile (· == '-')).reverse.dropWhile (· == '-')).reverse

/-- What a text without any kept character is called. -/
def fallback : List Char :=
  ['s', 'n', 'i', 'p', 'p', 'e', 't']

/-- The slug of a list of characters. -/
def ofChars (cs : List Char) (limit : Int) : List Char :=
  let slug := stripHyphens (cut limit (hyphenate (lowerChars cs)))
  if slug.isEmpty then fallback else slug

end Slug

/-- The length that slugs are cut to where nobody asks for another. -/
def Slug.defaultLimit : Int := 40

/-- **The slug of a name**, of at most `limit` characters. A negative limit
drops that many characters from the end. -/
def slugify (name : String) (limit : Int) : String :=
  String.ofList (Slug.ofChars name.toList limit)

end SourceLens
