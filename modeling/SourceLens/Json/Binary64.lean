/-!
# Floating-point numbers

Numbers with a fraction or an exponent are held in the 64-bit binary format:
a sign, a mantissa below 2⁵³ and a power of two. This module reads one from
decimal digits, rounding to the nearest and a tie to the even mantissa, and
writes one with the fewest digits that read back as the same number. All
arithmetic is on natural numbers.
-/

namespace SourceLens

/-- **A binary number**: `mantissa · 2 ^ exponent` with a sign, an infinity, or
no number at all. -/
inductive Binary64 where
  | finite (negative : Bool) (mantissa : Nat) (exponent : Int)
  | infinite (negative : Bool)
  | nan
  deriving DecidableEq, Repr

namespace Binary64

/-- The quotient rounded to the nearest natural number, a tie to the even
one. -/
def roundQuotient (numerator denominator : Nat) : Nat :=
  let quotient := numerator / denominator
  let twice := 2 * (numerator % denominator)
  if denominator < twice || (twice == denominator && quotient % 2 == 1) then quotient + 1
  else quotient

/-- A fraction divided by a power of two, as numerator and denominator. -/
def scaled (numerator denominator : Nat) (exponent : Int) : Nat × Nat :=
  if 0 ≤ exponent then (numerator, denominator * Nat.pow 2 exponent.toNat)
  else (numerator * Nat.pow 2 (-exponent).toNat, denominator)

/-- The binary number nearest to a fraction. The exponent is chosen so that the
mantissa has 53 bits, or the least possible one. -/
def ofFraction (negative : Bool) (numerator denominator : Nat) : Binary64 :=
  if numerator == 0 then .finite negative 0 (-1074)
  else
    let guess : Int := (numerator.log2 : Int) - denominator.log2 - 53
    let fits (exponent : Int) : Bool :=
      let (n, d) := scaled numerator denominator exponent
      n < d * Nat.pow 2 53
    let exponent := if fits guess then guess else if fits (guess + 1) then guess + 1 else guess + 2
    let exponent := max exponent (-1074)
    let (n, d) := scaled numerator denominator exponent
    let mantissa := roundQuotient n d
    let (mantissa, exponent) :=
      if mantissa == Nat.pow 2 53 then (Nat.pow 2 52, exponent + 1) else (mantissa, exponent)
    if 971 < exponent then .infinite negative else .finite negative mantissa exponent

/-- The number of decimal digits of a natural number. -/
def digitCount (n : Nat) : Nat :=
  (Nat.toDigits 10 n).length

/-- **The binary number nearest to `digits · 10 ^ exponent`.** Numbers that are
surely beyond the format are not computed. -/
def ofDecimal (negative : Bool) (digits : Nat) (exponent : Int) : Binary64 :=
  let magnitude : Int := digitCount digits + exponent
  if digits == 0 || magnitude < -400 then .finite negative 0 (-1074)
  else if 400 < magnitude then .infinite negative
  else if 0 ≤ exponent then ofFraction negative (digits * Nat.pow 10 exponent.toNat) 1
  else ofFraction negative digits (Nat.pow 10 (-exponent).toNat)

/-! ## Shortest digits -/

/-- A positive finite number, for the search of its digits: four times its
value is `middle`, four times the ends of the interval that rounds to it are
`low` and `high`, each over `scale`; the ends belong to it if `closed`. -/
structure Interval where
  low : Nat
  middle : Nat
  high : Nat
  scale : Nat
  closed : Bool

/-- The interval of numbers that round to `mantissa · 2 ^ exponent`. Below a
power of two the numbers are twice as close. -/
def Interval.of (mantissa : Nat) (exponent : Int) : Interval :=
  let narrow := mantissa == Nat.pow 2 52 && -1074 < exponent
  let low := if narrow then 4 * mantissa - 1 else 4 * mantissa - 2
  let (up, down) : Nat × Nat :=
    if 0 ≤ exponent then (Nat.pow 2 exponent.toNat, 1) else (1, Nat.pow 2 (-exponent).toNat)
  ⟨low * up, 4 * mantissa * up, (4 * mantissa + 2) * up, 4 * down, mantissa % 2 == 0⟩

/-- The point `n · 10 ^ power` lies in the interval. -/
def Interval.contains (i : Interval) (n : Nat) (power : Int) : Bool :=
  let (point, scale) :=
    if 0 ≤ power then (n * Nat.pow 10 power.toNat * i.scale, 1)
    else (n * i.scale, Nat.pow 10 (-power).toNat)
  let low := i.low * scale
  let high := i.high * scale
  (low < point && point < high) || (i.closed && (point == low || point == high))

/-- The point of the grid of `10 ^ power` next to the number that lies in its
interval, if there is one: of two the nearer, and of two as near the even
one. -/
def Interval.onGrid? (i : Interval) (power : Int) : Option Nat :=
  let (n, d) :=
    if 0 ≤ power then (i.middle, i.scale * Nat.pow 10 power.toNat)
    else (i.middle * Nat.pow 10 (-power).toNat, i.scale)
  let below := n / d
  let nearest := roundQuotient n d
  let other := if nearest == below then below + 1 else below
  if i.contains nearest power then some nearest
  else if i.contains other power then some other
  else none

/-- The first grid, from coarse to fine, on which the number has a point. -/
def Interval.shortestFrom (i : Interval) : Nat → Int → Nat × Int
  | 0, power => ((i.onGrid? power).getD 0, power)
  | finer + 1, power =>
    match i.onGrid? power with
    | some n => if n == 0 then shortestFrom i finer (power - 1) else (n, power)
    | none => shortestFrom i finer (power - 1)

/-- The exponent of the leading decimal digit of a number, or one more. -/
def Interval.leading (i : Interval) : Int :=
  let quotient := i.middle / i.scale
  if quotient != 0 then digitCount quotient
  else
    let inverse := i.scale / i.middle
    2 - (digitCount inverse : Int)

/-- The digits of a number without trailing zeros. The first argument bounds
the zeros. -/
def dropZeros : Nat → Nat → Int → Nat × Int
  | 0, n, power => (n, power)
  | zeros + 1, n, power =>
    if n % 10 == 0 && n != 0 then dropZeros zeros (n / 10) (power + 1) else (n, power)

/-- **The shortest decimal** `n · 10 ^ power` that reads back as
`mantissa · 2 ^ exponent`, for a positive number. -/
def shortest (mantissa : Nat) (exponent : Int) : Nat × Int :=
  let i := Interval.of mantissa exponent
  let (n, power) := i.shortestFrom 19 i.leading
  dropZeros (digitCount n) n power

/-- How a decimal is laid out: with a point among its digits from 10⁻⁴ up to
10¹⁶, and otherwise with one digit before the point and an exponent of at
least two digits. A whole number shows one zero after the point. -/
def layout (n : Nat) (power : Int) : String :=
  let digits := Nat.toDigits 10 n
  let point : Int := digits.length + power
  if -4 < point && point ≤ 16 then
    if point ≤ 0 then "0." ++ String.ofList (List.replicate (-point).toNat '0' ++ digits)
    else
      let whole := digits.take point.toNat
      let padding := List.replicate (point.toNat - digits.length) '0'
      let fraction := digits.drop point.toNat
      String.ofList (whole ++ padding) ++ "."
        ++ (if fraction.isEmpty then "0" else String.ofList fraction)
  else
    let exponent := point - 1
    let shown := toString exponent.natAbs
    String.ofList (digits.take 1)
      ++ (if digits.length ≤ 1 then "" else "." ++ String.ofList (digits.drop 1))
      ++ "e" ++ (if exponent < 0 then "-" else "+")
      ++ (if shown.length < 2 then "0" ++ shown else shown)

/-- **The text of a number.** -/
def text : Binary64 → String
  | .nan => "nan"
  | .infinite negative => if negative then "-inf" else "inf"
  | .finite negative mantissa exponent =>
    let size :=
      if mantissa == 0 then "0.0"
      else
        let (n, power) := shortest mantissa exponent
        layout n power
    if negative then "-" ++ size else size

end Binary64

end SourceLens
