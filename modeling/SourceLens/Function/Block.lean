import SourceLens.Text.Basic

/-!
# Blocks in braces

A block runs from an opening brace to the brace that closes it. Braces are
counted wherever they stand, in strings and comments too. A block that is
never closed runs to the end of the text.
-/

namespace SourceLens

/-- No block can start where no opening brace stands. -/
structure NoOpeningBrace where
  offset : Int
  deriving DecidableEq, Repr

/-- What the error says. -/
def NoOpeningBrace.message (error : NoOpeningBrace) : String :=
  "No opening brace at offset " ++ toString error.offset

namespace Block

/-- The end of a block of which `depth` braces are open at an offset. The first
argument is the number of characters left. -/
def endFrom (text : Text) : Nat → Nat → Nat → Nat
  | 0, _, _ => text.size
  | left + 1, offset, depth =>
    match text[offset]? with
    | some '\x7b' => endFrom text left (offset + 1) (depth + 1)
    | some '\x7d' =>
      if depth ≤ 1 then offset + 1 else endFrom text left (offset + 1) (depth - 1)
    | _ => endFrom text left (offset + 1) depth

end Block

/-- **The end of the block** whose opening brace stands at an offset: just past
the brace that closes it, or the end of the text. -/
def blockEnd (text : Text) (offset : Int) : Except NoOpeningBrace Nat :=
  if 0 ≤ offset && text.hasAt offset.toNat '\x7b' then
    .ok (Block.endFrom text (text.size - offset.toNat) offset.toNat 0)
  else .error ⟨offset⟩

end SourceLens
