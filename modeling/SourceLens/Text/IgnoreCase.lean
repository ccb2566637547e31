import SourceLens.Text.LowerCase

/-!
# Comparing characters without regard to case

Two characters agree up to case if they have the same small letter, or if
their small letters are partners: different small letters with one capital
between them, such as `s` and the long `ſ`, or `σ` and the final `ς`.
-/

namespace SourceLens

/-- Small letters that share a capital with another small letter, and the
letters they share it with. -/
def caseClasses : List (Nat × List Nat) := [
    (0x69, [0x131]), (0x73, [0x17F]), (0xB5, [0x3BC]), (0x131, [0x69]),
    (0x17F, [0x73]), (0x345, [0x3B9, 0x1FBE]), (0x390, [0x1FD3]), (0x3B0, [0x1FE3]),
    (0x3B2, [0x3D0]), (0x3B5, [0x3F5]), (0x3B8, [0x3D1]), (0x3B9, [0x345, 0x1FBE]),
    (0x3BA, [0x3F0]), (0x3BC, [0xB5]), (0x3C0, [0x3D6]), (0x3C1, [0x3F1]),
    (0x3C2, [0x3C3]), (0x3C3, [0x3C2]), (0x3C6, [0x3D5]), (0x3D0, [0x3B2]),
    (0x3D1, [0x3B8]), (0x3D5, [0x3C6]), (0x3D6, [0x3C0]), (0x3F0, [0x3BA]),
    (0x3F1, [0x3C1]), (0x3F5, [0x3B5]), (0x432, [0x1C80]), (0x434, [0x1C81]),
    (0x43E, [0x1C82]), (0x441, [0x1C83]), (0x442, [0x1C84, 0x1C85]), (0x44A, [0x1C86]),
    (0x463, [0x1C87]), (0x1C80, [0x432]), (0x1C81, [0x434]), (0x1C82, [0x43E]),
    (0x1C83, [0x441]), (0x1C84, [0x442, 0x1C85]), (0x1C85, [0x442, 0x1C84]), (0x1C86, [0x44A]),
    (0x1C87, [0x463]), (0x1C88, [0xA64B]), (0x1E61, [0x1E9B]), (0x1E9B, [0x1E61]),
    (0x1FBE, [0x345, 0x3B9]), (0x1FD3, [0x390]), (0x1FE3, [0x3B0]), (0xA64B, [0x1C88]),
    (0xFB05, [0xFB06]), (0xFB06, [0xFB05])]

/-- The partners of a small letter. -/
def casePartners (code : Nat) : List Nat :=
  if code < 0x80 then
    if code == 0x69 then [0x131] else if code == 0x73 then [0x17F] else []
  else (caseClasses.lookup code).getD []

/-- The code points whose small letter is `code`, itself among them. -/
def capitalsOf (code : Nat) : List Nat :=
  let others := (caseShifts.filter fun run => run.covers (run.capital code)).map (·.capital code)
  if 0x61 ≤ code && code ≤ 0x7A then
    code :: (code - 32) :: (if code == 0x69 then 0x130 :: others else others)
  else code :: others

/-- **All code points that agree with a character up to case.** -/
def caseVariants (c : Char) : List Nat :=
  let small := (lowerChar c).toNat
  (small :: casePartners small).flatMap capitalsOf

end SourceLens
