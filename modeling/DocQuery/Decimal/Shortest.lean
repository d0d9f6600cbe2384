/-!
# Shortest decimals of binary numbers

A 64-bit binary floating-point number is written with the fewest digits that
read back as the same number; among those, with the digits nearest to its
value, and at equal distance with the even last digit.

The search is exact. A number is an integer ratio, together with the interval
of reals that round to it. For one digit, two digits and so on, the two
neighbours of the number on that decimal grid are tested against the interval.
-/

namespace DocQuery.Decimal

/-- A positive rational number with the interval of reals that are read back as
it. All four naturals share the denominator, which is positive. -/
structure Rounding where
  value : Nat
  low : Nat
  high : Nat
  denominator : Nat
  /-- Whether the ends of the interval belong to it. -/
  closed : Bool

/-- The value and interval of a positive finite number from the exponent and
fraction fields of its encoding. The interval is narrower below a power of two.
Its ends belong to it exactly if the significand is even. -/
def Rounding.ofFields (exponentField fraction : Nat) : Rounding :=
  let significand := if exponentField = 0 then fraction else fraction + 0x10_0000_0000_0000
  let exponent : Int := (max exponentField 1 : Nat) - 1075
  let unit := Nat.pow 2 exponent.toNat
  let below := if fraction = 0 ∧ 1 < exponentField then unit else 2 * unit
  { value := 4 * significand * unit
    low := 4 * significand * unit - below
    high := 4 * significand * unit + 2 * unit
    denominator := 4 * Nat.pow 2 (-exponent).toNat
    closed := significand % 2 == 0 }

/-- The exponent of ten of the first digit. -/
def Rounding.firstPlace (number : Rounding) : Int :=
  if number.denominator ≤ number.value then
    (Nat.toDigits 10 (number.value / number.denominator)).length - 1
  else
    -(Nat.toDigits 10 ((number.denominator - 1) / number.value)).length

/-- Whether `digits * 10 ^ place` lies in the interval. -/
def Rounding.admits (number : Rounding) (place : Int) (digits : Nat) : Bool :=
  let scaled := digits * Nat.pow 10 place.toNat * number.denominator
  let scale := Nat.pow 10 (-place).toNat
  if number.closed then number.low * scale ≤ scaled && scaled ≤ number.high * scale
  else number.low * scale < scaled && scaled < number.high * scale

/-- The better of the two neighbours of the number on the grid of `10 ^ place`,
if one of them is in the interval. -/
def Rounding.onGrid? (number : Rounding) (place : Int) : Option Nat :=
  let numerator := number.value * Nat.pow 10 (-place).toNat
  let step := number.denominator * Nat.pow 10 place.toNat
  let below := numerator / step
  let remainder := numerator % step
  match number.admits place below, number.admits place (below + 1) with
  | true, true =>
    if 2 * remainder < step ∨ (2 * remainder = step ∧ below % 2 = 0) then some below
    else some (below + 1)
  | true, false => some below
  | false, true => some (below + 1)
  | false, false => none

/-- A decimal number: the first digit stands in the place of `10 ^ exponent`. -/
structure Digits where
  digits : List Char
  exponent : Int
  deriving DecidableEq, Repr

/-- The digits of `count * 10 ^ place` without zeros at the end. -/
def Digits.ofScaled (count : Nat) (place : Int) : Digits :=
  let all := Nat.toDigits 10 count
  let kept := (all.reverse.dropWhile (· == '0')).reverse
  { digits := kept, exponent := place + all.length - 1 }

/-- Tries grids of growing fineness. Seventeen digits always suffice; the last
resort, the digits of the grid point below, is then not reached. -/
def Rounding.search (number : Rounding) (first : Int) : (fuel digits : Nat) → Digits
  | 0, digits =>
    let place := first - digits
    let step := number.denominator * Nat.pow 10 place.toNat
    .ofScaled (number.value * Nat.pow 10 (-place).toNat / step) place
  | fuel + 1, digits =>
    match number.onGrid? (first - digits) with
    | some count => .ofScaled count (first - digits)
    | none => number.search first fuel (digits + 1)

/-- The shortest decimal that is read back as the number. -/
def Rounding.shortest (number : Rounding) : Digits := number.search number.firstPlace 17 0

/-- How a decimal is laid out as text. -/
structure Style where
  /-- The least exponent of the first digit that is written positionally. -/
  leastPositional : Int
  /-- The greatest exponent of the first digit that is written positionally. -/
  greatestPositional : Int
  /-- What follows a positional number without a fraction. -/
  emptyFraction : List Char
  /-- What separates the digits from the exponent. -/
  exponentMark : List Char
  /-- What stands before an exponent that is not negative. -/
  exponentPlus : List Char

/-- Digits with the point after the digit of place 0. -/
def Style.positional (style : Style) (number : Digits) : List Char :=
  if number.exponent < 0 then
    ['0', '.'] ++ List.replicate (-number.exponent - 1).toNat '0' ++ number.digits
  else
    let whole := number.exponent.toNat + 1
    let integral := number.digits.take whole
    let zeros := List.replicate (whole - number.digits.length) '0'
    match number.digits.drop whole with
    | [] => integral ++ zeros ++ style.emptyFraction
    | fraction => integral ++ '.' :: fraction

/-- One digit, the other digits after a point, and the exponent. -/
def Style.scientific (style : Style) (number : Digits) : List Char :=
  let sign := if number.exponent < 0 then ['-'] else style.exponentPlus
  let exponent := style.exponentMark ++ sign ++ Nat.toDigits 10 number.exponent.natAbs
  match number.digits with
  | first :: second :: rest => first :: '.' :: second :: rest ++ exponent
  | digits => digits ++ exponent

/-- Positional within the bounds of the style and scientific outside. -/
def Style.render (style : Style) (number : Digits) : List Char :=
  if style.leastPositional ≤ number.exponent ∧ number.exponent ≤ style.greatestPositional then
    style.positional number
  else
    style.scientific number

/-- The text of a finite number: sign, then the shortest decimal in the style. -/
def Style.renderFloat (style : Style) (x : Float) : String :=
  let bits := x.toBits.toNat
  let sign := if bits / 0x8000_0000_0000_0000 = 1 then ['-'] else []
  let exponentField := bits / 0x10_0000_0000_0000 % 0x800
  let fraction := bits % 0x10_0000_0000_0000
  let magnitude :=
    if exponentField = 0 ∧ fraction = 0 then style.positional ⟨['0'], 0⟩
    else style.render (Rounding.ofFields exponentField fraction).shortest
  String.ofList (sign ++ magnitude)

end DocQuery.Decimal
