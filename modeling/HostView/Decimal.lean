/-!
# Decimal text of doubles

A finite double is an exact fraction `mantissa · 2 ^ exponent`.  From it two texts are made, both
in exact integer arithmetic: `tenths`, the value rounded to one decimal place, and `shortest`,
the fewest digits that no other double is nearer to.
-/

namespace HostView.Decimal

/-- The absolute value of a finite double is `mantissa · 2 ^ exponent`. -/
structure Fraction where
  mantissa : Nat
  exponent : Int
deriving DecidableEq

/-- What a double stands for, its sign apart. -/
inductive Magnitude
  | nan
  | infinite
  | finite (value : Fraction)
deriving DecidableEq

/-- The largest value of the exponent field, which marks infinities and NaNs. -/
def specialExponent : Nat := Nat.pow 2 11 - 1

/-- The sign bit and the magnitude of a double given by its bits. -/
def decode (bits : Nat) : Bool × Magnitude :=
  let field := bits / Nat.pow 2 52 % Nat.pow 2 11
  let low := bits % Nat.pow 2 52
  let magnitude :=
    if field = specialExponent then (if low = 0 then .infinite else .nan)
    else if field = 0 then .finite ⟨low, -1074⟩
    else .finite ⟨Nat.pow 2 52 + low, (field : Int) - 1075⟩
  (bits / Nat.pow 2 63 % 2 == 1, magnitude)

/-- The numerator of the fraction, `2 ^ exponent` included when that is a whole number. -/
def Fraction.numerator (f : Fraction) : Nat := f.mantissa * Nat.pow 2 f.exponent.toNat

/-- The denominator of the fraction, a power of two. -/
def Fraction.denominator (f : Fraction) : Nat := Nat.pow 2 (-f.exponent).toNat

/-- The quotient rounded to a whole number; a tie goes to the even neighbour. -/
def roundHalfEven (numerator denominator : Nat) : Nat :=
  let quotient := numerator / denominator
  let rest := numerator % denominator
  if 2 * rest < denominator then quotient
  else if denominator < 2 * rest then quotient + 1
  else quotient + quotient % 2

/-- The text of a magnitude under its sign; a NaN has none. -/
def signed (negative : Bool) (text : String) : String :=
  if negative then "-" ++ text else text

/-- The text of a magnitude, finite ones as `finite` writes them. -/
def write (finite : Fraction → String) (x : Float) : String :=
  match decode x.toBits.toNat with
  | (_, .nan) => "NaN"
  | (negative, .infinite) => signed negative "inf"
  | (negative, .finite value) => signed negative (finite value)

/-- The value rounded to one decimal place, the sign of a zero kept. -/
def tenths (x : Float) : String :=
  write (fun f =>
    let scaled := roundHalfEven (10 * f.numerator) f.denominator
    s!"{scaled / 10}.{scaled % 10}") x

/-! ### The fewest digits -/

/-- Digits before an implied decimal point that is moved right by `exponent` places. -/
structure Digits where
  digits : Nat
  exponent : Int
deriving DecidableEq

/-- The values that round to a double lie between `lower` and `upper`, in units in which the
double itself is `4 · mantissa`; the ends belong to it when its mantissa is even. -/
structure Interval where
  lower : Nat
  middle : Nat
  upper : Nat
  closed : Bool

/-- Just above a power of two the next smaller double is only half as far away. -/
def Fraction.interval (f : Fraction) : Interval where
  lower := 4 * f.mantissa - (if f.mantissa = Nat.pow 2 52 ∧ f.exponent ≠ -1074 then 1 else 2)
  middle := 4 * f.mantissa
  upper := 4 * f.mantissa + 2
  closed := f.mantissa % 2 == 0

/-- Whether the quotient lies in the interval. -/
def Interval.contains (i : Interval) (numerator denominator : Nat) : Bool :=
  if i.closed then
    decide (i.lower * denominator ≤ numerator ∧ numerator ≤ i.upper * denominator)
  else decide (i.lower * denominator < numerator ∧ numerator < i.upper * denominator)

/-- How many decimal digits a number has; zero has one. -/
def digitCount (n : Nat) : Nat := (Nat.toDigits 10 n).length

/-- The place of the leading digit: the value is below `10 ^ lead` and at least a tenth of it,
or equal to that power. -/
def Fraction.lead (f : Fraction) : Int :=
  if f.denominator ≤ f.numerator then digitCount (f.numerator / f.denominator)
  else 1 - (digitCount (f.denominator / f.numerator) : Int)

/-- The decimal with `count` digits that is nearest to the double, if it lies in the interval.  Of
two that are equally near the larger one is taken. -/
def Fraction.withDigits? (f : Fraction) (count : Nat) : Option Digits :=
  let place := f.lead - count
  let i := f.interval
  let unit := f.exponent - 2
  -- one step of the decimal grid is `step / scale` units of the interval
  let step := Nat.pow 10 place.toNat * Nat.pow 2 (-unit).toNat
  let scale := Nat.pow 10 (-place).toNat * Nat.pow 2 unit.toNat
  let low := i.middle * scale / step
  let below := i.contains (low * step) scale
  let above := i.contains ((low + 1) * step) scale
  let nearBelow := decide (2 * i.middle * scale < (2 * low + 1) * step)
  if below && (nearBelow || !above) then some ⟨low, place⟩
  else if above then some ⟨low + 1, place⟩
  else none

/-- Seventeen digits always tell two doubles apart, so the search ends there at the latest. -/
def Fraction.shortest (f : Fraction) : Digits :=
  ((List.range 17).findSome? fun n => f.withDigits? (n + 1)).getD ⟨f.mantissa, 0⟩

/-- The digits without their last zeros. -/
def trimZeros : List Char → List Char :=
  fun ds => (ds.reverse.dropWhile (· == '0')).reverse

/-- The digits written out in positional notation. -/
def Digits.positional (d : Digits) : String :=
  let ds := trimZeros (Nat.toDigits 10 d.digits)
  let whole : Int := digitCount d.digits + d.exponent
  let zeros (n : Nat) := List.replicate n '0'
  String.ofList <|
    if whole ≤ 0 then ['0', '.'] ++ zeros (-whole).toNat ++ ds
    else if ds.length ≤ whole.toNat then ds ++ zeros (whole.toNat - ds.length)
    else ds.take whole.toNat ++ ['.'] ++ ds.drop whole.toNat

/-- The fewest digits that read back as the same double, never with an exponent. -/
def shortest (x : Float) : String :=
  write (fun f => if f.mantissa = 0 then "0" else f.shortest.positional) x

/-! ### Reading -/

/-- The double nearest to `mantissa · 10 ^ exponent`.  Values far outside the range of doubles
are decided by their size alone, so that a large exponent costs nothing. -/
def toFloat (mantissa : Nat) (exponent : Int) : Float :=
  let size : Int := digitCount mantissa + exponent
  if mantissa = 0 ∨ size < -400 then 0
  else if 400 < size then 1.0 / 0.0
  else if exponent < 0 then Float.ofScientific mantissa true (-exponent).toNat
  else Float.ofScientific mantissa false exponent.toNat

end HostView.Decimal
